import NetQuery.Arithmetic

namespace NetQuery.Text

/-- The rest of a row. `above` holds the row before it; `corner` and `left` are the entries above to
the left and to the left. -/
def editRowFrom (a : Char) (corner left : Nat) : List Char → List Nat → List Nat
  | b :: bs, up :: above =>
    let entry := if a == b then corner else 1 + min (min corner up) left
    entry :: editRowFrom a up entry bs above
  | _, _ => []

def editRow (bs : List Char) (row : List Nat) (a : Char) : List Nat :=
  match row with
  | corner :: above => (corner + 1) :: editRowFrom a corner (corner + 1) bs above
  | [] => []

def editDistance (s t : String) : Nat :=
  let bs := t.toList
  let last := s.toList.foldl (editRow bs) (List.range (bs.length + 1))
  last.getLastD 0

example : editDistance "kitten" "sitting" = 3 := by decide
example : editDistance "" "abc" = 3 ∧ editDistance "abc" "" = 3 := by decide

end NetQuery.Text
