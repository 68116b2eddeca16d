import NetQuery.Proofs.Character.Folding
import NetQuery.Proofs.Glob.Signs
import NetQuery.Proofs.Regex.Wildcards

namespace NetQuery.Glob

open Regex

theorem contains_lineChars (c : Char) : lineChars.contains c = (c != '\n') := by
  have hranges : lineChars = ⟨[(0, 9), (11, 0xd7ff), (0xe000, 0x10ffff)]⟩ := by decide
  have hnewline : c = '\n' ↔ c.toNat = 10 := Char.toNat_inj.symm
  have hvalid := CharSet.toNat_valid c
  apply Bool.eq_iff_iff.mpr
  rw [hranges, bne_iff_ne, Ne, hnewline]
  simp only [CharSet.contains, CharSet.hasCode, List.any_cons, List.any_nil, Bool.or_false,
    Bool.or_eq_true, Bool.and_eq_true, decide_eq_true_eq]
  omega

theorem writes_text : Writes lineChars true textStyle where
  allows := contains_lineChars
  inhabited := ⟨'a', by rw [contains_lineChars]; rfl⟩
  same := CharSet.contains_foldedCase_singleton
  refl := Text.sameLetter_refl

/-- A text with wildcards matches the texts that its signs stand for, and these are the texts that
its pattern is found in. -/
theorem pattern_found_iff_stands [Regex.Library] (pattern : String) :
    ∃ f, readIn true (Score.globPattern pattern.toList) = some f ∧ f.fits = isPattern pattern ∧
      ∀ text : String,
        (f.expr.FoundIn text.toList ↔ Stands textStyle (ofText pattern.toList) text.toList) ∧
        (matchesText pattern text = true ↔
          Stands textStyle (ofText pattern.toList) text.toList) := by
  have hexprs := Score.expr_globParts true pattern.toList
  refine ⟨_, Score.readIn_globPattern true pattern.toList, ?_, ?_⟩
  · rw [Fragment.fits_whole (Score.nesting_globParts true pattern.toList), hexprs]
    rfl
  · intro text
    refine ⟨?_, covers_iff_stands⟩
    rw [Fragment.expr_whole, hexprs, foundIn_wholeText]
    exact writes_text.matches_signs

end NetQuery.Glob
