import NetQuery.Glob.Pattern
import NetQuery.Proofs.Regex.Matching

namespace NetQuery.Glob

open Regex

/-- The texts that signs stand for: any run of what wildcards may stand for, one such character, or
one that is the same as the sign's. -/
inductive Stands (style : GlobStyle) : List GlobSign → List Char → Prop
  | nil : Stands style [] []
  | run {signs u v} (allowed : ∀ c ∈ u, style.allows c = true) (rest : Stands style signs v) :
      Stands style (.run :: signs) (u ++ v)
  | one {signs c v} (allowed : style.allows c = true) (rest : Stands style signs v) :
      Stands style (.one :: signs) (c :: v)
  | char {signs d c v} (same : style.same d c = true) (rest : Stands style signs v) :
      Stands style (.char d :: signs) (c :: v)

variable {style other : GlobStyle} {sign : GlobSign} {signs : List GlobSign} {cs : List Char}
  {wild : CharSet} {anyCase : Bool} {before text after : List Char}

theorem stands_nil_iff : Stands style [] cs ↔ cs = [] := by
  constructor
  · rintro ⟨⟩
    rfl
  · rintro rfl
    exact .nil

theorem stands_run_iff : Stands style (.run :: signs) cs ↔
    ∃ u v, cs = u ++ v ∧ (∀ c ∈ u, style.allows c = true) ∧ Stands style signs v := by
  constructor
  · rintro ⟨⟩
    next allowed rest => exact ⟨_, _, rfl, allowed, rest⟩
  · rintro ⟨u, v, rfl, allowed, rest⟩
    exact .run allowed rest

theorem stands_one_iff : Stands style (.one :: signs) cs ↔
    ∃ c v, cs = c :: v ∧ style.allows c = true ∧ Stands style signs v := by
  constructor
  · rintro ⟨⟩
    next allowed rest => exact ⟨_, _, rfl, allowed, rest⟩
  · rintro ⟨c, v, rfl, allowed, rest⟩
    exact .one allowed rest

theorem stands_char_iff {d : Char} : Stands style (.char d :: signs) cs ↔
    ∃ c v, cs = c :: v ∧ style.same d c = true ∧ Stands style signs v := by
  constructor
  · rintro ⟨⟩
    next same rest => exact ⟨_, _, rfl, same, rest⟩
  · rintro ⟨c, v, rfl, same, rest⟩
    exact .char same rest

theorem covers_run_of_covers (h : covers style signs cs = true) :
    covers style (.run :: signs) cs = true := by
  cases cs with
  | nil => exact h
  | cons c cs => rw [covers_run_cons, h, Bool.true_or]

/-- The rows find what the signs stand for. -/
theorem covers_iff_stands : covers style signs cs = true ↔ Stands style signs cs := by
  constructor
  · intro h
    induction signs generalizing cs with
    | nil =>
      rw [covers_nil, List.isEmpty_iff] at h
      subst h
      exact .nil
    | cons sign signs ih =>
      cases sign with
      | run =>
        induction cs with
        | nil => exact .run (u := []) (by simp) (ih h)
        | cons c cs ihtext =>
          rw [covers_run_cons, Bool.or_eq_true, Bool.and_eq_true] at h
          rcases h with h | ⟨hallowed, h⟩
          · exact .run (u := []) (by simp) (ih h)
          · obtain ⟨u, v, rfl, allowed, rest⟩ := stands_run_iff.mp (ihtext h)
            exact .run (u := c :: u) (List.forall_mem_cons.mpr ⟨hallowed, allowed⟩) rest
      | one =>
        cases cs with
        | nil => cases h
        | cons c cs =>
          rw [covers_one_cons, Bool.and_eq_true] at h
          exact .one h.1 (ih h.2)
      | char d =>
        cases cs with
        | nil => cases h
        | cons c cs =>
          rw [covers_char_cons, Bool.and_eq_true] at h
          exact .char h.1 (ih h.2)
  · intro h
    induction h with
    | nil => rfl
    | @run signs u v allowed rest ih =>
      induction u with
      | nil => exact covers_run_of_covers ih
      | cons c u ihrun =>
        obtain ⟨hc, hu⟩ := List.forall_mem_cons.mp allowed
        rw [List.cons_append, covers_run_cons, hc, ihrun hu, Bool.true_and, Bool.or_true]
    | one allowed rest ih => rw [covers_one_cons, allowed, ih, Bool.true_and]
    | char same rest ih => rw [covers_char_cons, same, ih, Bool.true_and]

/-- What stands in a text is what a wildcard may stand for, or the same as a sign's character. -/
theorem Stands.mem {c : Char} (h : Stands style signs cs) (hc : c ∈ cs) :
    style.allows c = true ∨ ∃ d, .char d ∈ signs ∧ style.same d c = true := by
  induction h with
  | nil => cases hc
  | run allowed rest ih =>
    rcases List.mem_append.mp hc with hc | hc
    · exact .inl (allowed c hc)
    · exact (ih hc).imp_right fun ⟨d, hd, hsame⟩ => ⟨d, List.mem_cons_of_mem _ hd, hsame⟩
  | one allowed rest ih =>
    rcases List.mem_cons.mp hc with rfl | hc
    · exact .inl allowed
    · exact (ih hc).imp_right fun ⟨d, hd, hsame⟩ => ⟨d, List.mem_cons_of_mem _ hd, hsame⟩
  | @char signs d _ v same rest ih =>
    rcases List.mem_cons.mp hc with rfl | hc
    · exact .inr ⟨d, List.mem_cons_self, same⟩
    · exact (ih hc).imp_right fun ⟨d, hd, hsame⟩ => ⟨d, List.mem_cons_of_mem _ hd, hsame⟩

theorem mem_of_char_mem {d : Char} (h : .char d ∈ ofText cs) : d ∈ cs := by
  obtain ⟨c, hc, hsign⟩ := List.mem_map.mp h
  split at hsign
  · cases hsign
  · split at hsign
    · cases hsign
    · cases hsign
      exact hc

/-- Which characters stand for which is all that matters, and only for those in the text. -/
theorem Stands.congr (h : Stands style signs cs)
    (hallows : ∀ c ∈ cs, style.allows c = true → other.allows c = true)
    (hsame : ∀ d, ∀ c ∈ cs, style.same d c = true → other.same d c = true) :
    Stands other signs cs := by
  induction h with
  | nil => exact .nil
  | run allowed rest ih =>
    apply Stands.run
    · intro c hc
      exact hallows c (List.mem_append_left _ hc) (allowed c hc)
    · apply ih
      · exact fun c hc => hallows c (List.mem_append_right _ hc)
      · exact fun d c hc => hsame d c (List.mem_append_right _ hc)
  | one allowed rest ih =>
    rw [List.forall_mem_cons] at hallows
    exact .one (hallows.1 allowed) (ih hallows.2 fun d => (List.forall_mem_cons.mp (hsame d)).2)
  | char same rest ih =>
    rw [List.forall_mem_cons] at hallows
    exact .char ((List.forall_mem_cons.mp (hsame _)).1 same)
      (ih hallows.2 fun d => (List.forall_mem_cons.mp (hsame d)).2)

/-- A style as patterns have it: the set that wildcards stand for, and what a character does. -/
structure Writes (wild : CharSet) (anyCase : Bool) (style : GlobStyle) : Prop where
  allows : ∀ c, wild.contains c = style.allows c
  inhabited : ∃ c, wild.contains c = true
  same : ∀ d c, (if anyCase then (CharSet.singleton d).foldedCase else .singleton d).contains c =
    style.same d c
  refl : ∀ d, style.same d d = true

theorem Writes.matches_one (h : Writes wild anyCase style) :
    (signExpr wild anyCase .one).Matches before text after ↔
      ∃ c, style.allows c = true ∧ text = [c] := by
  obtain ⟨c, hc⟩ := h.inhabited
  simp only [signExpr, Expr.matches_ofSet hc, h.allows]

theorem Writes.matches_run (h : Writes wild anyCase style) :
    (signExpr wild anyCase .run).Matches before text after ↔ ∀ c ∈ text, style.allows c = true := by
  rw [signExpr, Expr.repeated_ofSet (by simp) (by simp),
    Expr.matches_times_chars (e := .ofSet false wild) fun _ _ _ => h.matches_one]
  simp

theorem Writes.matches_char (h : Writes wild anyCase style) (d : Char) :
    (signExpr wild anyCase (.char d)).Matches before text after ↔
      ∃ c, style.same d c = true ∧ text = [c] := by
  have hself := (h.same d d).trans (h.refl d)
  simp only [signExpr, Expr.matches_ofSet hself, h.same]

/-- The patterns of signs one after the other match what the signs stand for. -/
theorem Writes.matches_signs (h : Writes wild anyCase style) :
    (Expr.sequence (signs.map (signExpr wild anyCase))).Matches before text after ↔
      Stands style signs text := by
  induction signs generalizing before text with
  | nil => exact Expr.matches_sequence_nil.trans stands_nil_iff.symm
  | cons sign signs ih =>
    rw [List.map_cons, Expr.matches_sequence_cons]
    simp only [ih]
    cases sign with
    | run => simp only [h.matches_run, stands_run_iff]
    | one =>
      simp only [h.matches_one, stands_one_iff]
      constructor
      · rintro ⟨_, v, rfl, ⟨c, allowed, rfl⟩, rest⟩
        exact ⟨c, v, rfl, allowed, rest⟩
      · rintro ⟨c, v, rfl, allowed, rest⟩
        exact ⟨[c], v, rfl, ⟨c, allowed, rfl⟩, rest⟩
    | char d =>
      simp only [h.matches_char, stands_char_iff]
      constructor
      · rintro ⟨_, v, rfl, ⟨c, same, rfl⟩, rest⟩
        exact ⟨c, v, rfl, same, rest⟩
      · rintro ⟨c, v, rfl, same, rest⟩
        exact ⟨[c], v, rfl, ⟨c, same, rfl⟩, rest⟩

theorem parts_signExpr (sign : GlobSign) :
    (signExpr wild anyCase sign).parts = [signExpr wild anyCase sign] := by
  cases sign with
  | run => exact Expr.parts_repeated_ofSet (by simp) (by simp)
  | one => exact Expr.parts_ofSet
  | char c => exact Expr.parts_ofSet

/-- What parts bring into a sequence is all that matters. -/
theorem wholeText_congr {parts parts' : List Expr}
    (h : ∀ es, (parts.flatMap Expr.parts).foldr Expr.before es =
      (parts'.flatMap Expr.parts).foldr Expr.before es) : wholeText parts = wholeText parts' := by
  simp only [wholeText, Expr.inTurn, List.cons_append, List.flatMap_cons, List.flatMap_append,
    List.foldr_append, h]

/-- A pattern of a whole text is found where its parts match the whole text. -/
theorem foundIn_wholeText {parts : List Expr} : (wholeText parts).FoundIn text ↔
    (Expr.sequence parts).Matches [] text [] := by
  simp only [Expr.FoundIn, wholeText, Expr.matches_inTurn, List.cons_append,
    Expr.matches_sequence_cons, Expr.matches_sequence_append, Expr.matches_sequence_nil,
    Expr.matches_assertion, Assertion.Holds]
  constructor
  · rintro ⟨before, _, after, rfl, _, _, rfl, ⟨rfl, rfl⟩, u, _, rfl, hmatches, _, _, rfl,
      ⟨rfl, hend⟩, rfl⟩
    obtain rfl : after = [] := hend
    simpa using hmatches
  · intro hmatches
    refine ⟨[], text, [], by simp, [], text, rfl, ⟨rfl, rfl⟩, text, [], by simp, ?_, [], [], rfl,
      ⟨rfl, rfl⟩, rfl⟩
    exact hmatches

end NetQuery.Glob
