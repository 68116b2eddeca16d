import NetQuery.Regex.Expr

namespace NetQuery.Regex

/-- What a pattern builds takes at most this many bytes. -/
def maxSize : Nat := 10 * 1024 * 1024

/-- What the program leaves to its library of patterns. Nothing is assumed of it here: what a
statement needs of it, that certain patterns build, is among its hypotheses. -/
class Library where
  /-- The characters with a property, by the text between its braces. -/
  property? : List Char → Option CharSet
  /-- Whether a pattern builds: what is built takes no more than `maxSize` bytes. -/
  builds : Expr → Bool

end NetQuery.Regex
