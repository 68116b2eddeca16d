import NetQuery.Library.Automaton
import NetQuery.Library.Names
import NetQuery.Library.Words
import NetQuery.Regex.Checker

namespace NetQuery.Regex

/-- The library that the program runs with. A list of words is searched for without an automaton. -/
instance usualLibrary : Library where
  property? := charsOfText?
  builds e := Automaton.fits e || e.isListOfWords

example : isPattern "^a\\.b.*$" ∧ isPattern "" ∧ isPattern "x**" := by decide
example : ¬ isPattern "(a" ∧ ¬ isPattern "a)" ∧ ¬ isPattern "*x" ∧ ¬ isPattern "[z-a]" := by
  decide
example : ¬ isPattern "(?=x)" ∧ ¬ isPattern "\\1" ∧ ¬ isPattern "(?<n>x)(?<n>y)" := by
  decide

end NetQuery.Regex
