import NetQuery.Text.Folding

namespace NetQuery

inductive GlobSign where
  | run
  | one
  | char (c : Char)
  deriving DecidableEq, Repr

structure GlobStyle where
  /-- What wildcards may stand for. -/
  allows : Char → Bool
  same : Char → Char → Bool

namespace Glob

def ofText (cs : List Char) : List GlobSign :=
  cs.map fun c => if c == '*' then .run else if c == '?' then .one else .char c

/-- For each tail of the signs, the whole list first, whether it stands for the empty text. -/
def rowAtEnd : List GlobSign → List Bool
  | [] => [true]
  | sign :: signs =>
    let later := rowAtEnd signs
    (sign == .run && later.headD false) :: later

/-- For each tail of the signs, whether it stands for `c` and the text after it; `row` says the same
for the text after `c` alone. -/
def rowBefore (style : GlobStyle) (c : Char) : List GlobSign → List Bool → List Bool
  | sign :: signs, whole :: parts =>
    let later := rowBefore style c signs parts
    let here := match sign with
      | .run => later.headD false || (style.allows c && whole)
      | .one => style.allows c && parts.headD false
      | .char d => style.same d c && parts.headD false
    here :: later
  | _, _ => [false]

/-- For each tail of the signs, whether it stands for the text. One row a character keeps the work
to the product of both lengths. -/
def row (style : GlobStyle) (signs : List GlobSign) (cs : List Char) : List Bool :=
  cs.foldr (fun c later => rowBefore style c signs later) (rowAtEnd signs)

def covers (style : GlobStyle) (signs : List GlobSign) (cs : List Char) : Bool :=
  (row style signs cs).headD false

theorem row_nil_signs (style : GlobStyle) (cs : List Char) :
    row style [] cs = [cs.isEmpty] := by
  cases cs <;> rfl

theorem row_text_cons (style : GlobStyle) (signs : List GlobSign) (c : Char) (cs : List Char) :
    row style signs (c :: cs) = rowBefore style c signs (row style signs cs) := by
  rfl

theorem row_cons (style : GlobStyle) (sign : GlobSign) (signs : List GlobSign) (cs : List Char) :
    row style (sign :: signs) cs = covers style (sign :: signs) cs :: row style signs cs := by
  induction cs with
  | nil => rfl
  | cons c cs ih =>
    rw [covers, row_text_cons style (sign :: signs), row_text_cons style signs, ih]
    rfl

@[simp] theorem covers_nil (style : GlobStyle) (cs : List Char) :
    covers style [] cs = cs.isEmpty := by
  rw [covers, row_nil_signs]; rfl

@[simp] theorem covers_run_nil (style : GlobStyle) (signs : List GlobSign) :
    covers style (.run :: signs) [] = covers style signs [] := by
  rfl

/-- A run stands for nothing, or for a character and what the run stands for after it. -/
theorem covers_run_cons (style : GlobStyle) (signs : List GlobSign) (c : Char) (cs : List Char) :
    covers style (.run :: signs) (c :: cs) =
      (covers style signs (c :: cs) || (style.allows c && covers style (.run :: signs) cs)) := by
  conv => lhs; rw [covers, row_text_cons, row_cons]
  rfl

@[simp] theorem covers_one_nil (style : GlobStyle) (signs : List GlobSign) :
    covers style (.one :: signs) [] = false := by
  rfl

@[simp] theorem covers_one_cons (style : GlobStyle) (signs : List GlobSign) (c : Char)
    (cs : List Char) :
    covers style (.one :: signs) (c :: cs) = (style.allows c && covers style signs cs) := by
  conv => lhs; rw [covers, row_text_cons, row_cons]
  rfl

@[simp] theorem covers_char_nil (style : GlobStyle) (d : Char) (signs : List GlobSign) :
    covers style (.char d :: signs) [] = false := by
  rfl

@[simp] theorem covers_char_cons (style : GlobStyle) (d : Char) (signs : List GlobSign) (c : Char)
    (cs : List Char) :
    covers style (.char d :: signs) (c :: cs) = (style.same d c && covers style signs cs) := by
  conv => lhs; rw [covers, row_text_cons, row_cons]
  rfl

/-- Wildcards in texts stand for anything on a line, and letters for themselves in any case. -/
def textStyle : GlobStyle := ⟨fun c => c != '\n', Text.sameLetter⟩

def matchesText (pattern text : String) : Bool :=
  covers textStyle (ofText pattern.toList) text.toList

example : matchesText "*LAP?op*" "my laptop" ∧ ¬ matchesText "a*" "ba" := by decide

end Glob

end NetQuery
