import NetQuery.Arithmetic

namespace NetQuery.Text

def lowerAscii (s : String) : String :=
  String.ofList (s.toList.map Char.toLower)

def upperAscii (s : String) : String :=
  String.ofList (s.toList.map Char.toUpper)

def eqIgnoringCase (s t : String) : Bool :=
  lowerAscii s == lowerAscii t

def hasInfix (needle : List Char) : List Char → Bool
  | [] => needle.isEmpty
  | c :: rest => needle.isPrefixOf (c :: rest) || hasInfix needle rest

def contains (s part : String) : Bool :=
  hasInfix part.toList s.toList

@[simp] theorem eqIgnoringCase_refl (s : String) : eqIgnoringCase s s = true := by
  simp [eqIgnoringCase]

example : lowerAscii "AbÄ" = "abÄ" := by decide
example : contains "severity" "ver" = true := by decide
example : contains "ab" "" = true := by decide

end NetQuery.Text
