import NetQuery.Proofs.Text.Segments
import NetQuery.Proofs.Token.Cutting

namespace NetQuery.Text

open QuoteState Lexer

variable {quote : Char} {cs body : List Char} {ss : List Segment}

/-- A quoted text that stays open is left by its own quote only. -/
theorem run_of_staysInside {state : QuoteState} (hs : state = inside quote ∨ state = escaped quote)
    (h : state.staysInside body = true) :
    state.run body = inside quote ∨ state.run body = escaped quote := by
  induction body generalizing state with
  | nil => exact hs
  | cons c body ih =>
    simp only [staysInside, Bool.and_eq_true, Bool.not_eq_true'] at h
    refine ih ?_ h.2
    have hnext := h.1
    obtain rfl | rfl := hs
    · rw [next] at hnext ⊢
      split
      · exact .inr rfl
      · split
        · next hslash hquote =>
          rw [if_neg hslash, if_pos hquote] at hnext
          cases hnext
        · exact .inl rfl
    · exact .inl rfl

theorem IsClosed.run (h : IsClosed cs) : outside.run cs = outside := by
  obtain ⟨pre, closing, rfl, -, hclosing⟩ := h
  rw [run_append]
  exact hclosing

theorem IsClosed.isQuote_last (h : IsClosed cs) : ∀ c ∈ cs.getLast?, isQuote c = true := by
  obtain ⟨pre, closing, rfl, ⟨opening, body, rfl, hopening, hbody⟩, hclosing⟩ := h
  intro c hc
  rw [List.getLast?_append, List.getLast?_singleton] at hc
  cases hc
  rw [run_cons, next_outside, if_pos hopening] at hclosing
  obtain hrun | hrun := run_of_staysInside (.inl rfl) hbody
  all_goals rw [hrun, next] at hclosing
  · split at hclosing
    · cases hclosing
    · split at hclosing
      · next hquote =>
        rw [eq_of_beq hquote]
        exact hopening
      · cases hclosing
  · cases hclosing

theorem IsClosed.apart (h : IsClosed cs) (b : List Char) : Apart cs b := by
  intro c hc d _
  have hquote := h.isQuote_last c hc
  simp only [isQuote, Bool.or_eq_true, beq_iff_eq] at hquote
  obtain rfl | rfl := hquote <;> simp [joins, inWord, startsWord]

/-- Stretches of which the first is quoted make a text that begins with a quote, and keep its quote
when plain ones are respelled. -/
theorem Segmented.isQuote_head (h : Segmented ss) (hhead : ∀ s ∈ ss.head?, s.quoted = true)
    (f : List Char → List Char) :
    ∀ c ∈ ((ss.map (Segment.respelled f)).flatMap (·.chars)).head?, isQuote c = true := by
  have hquoted {cs : List Char} (h : IsUnclosed cs) (b : List Char) :
      ∀ c ∈ (cs ++ b).head?, isQuote c = true := by
    obtain ⟨opening, body, rfl, hopening, -⟩ := h
    rintro c ⟨⟩
    exact hopening
  cases h with
  | nil => simp
  | plain => exact absurd (hhead _ rfl) Bool.false_ne_true
  | @closed cs rest hcs _ =>
    obtain ⟨pre, closing, rfl, hpre, -⟩ := hcs
    simpa [Segment.respelled] using
      hquoted hpre (closing :: (rest.map (Segment.respelled f)).flatMap (·.chars))
  | unclosed hcs => simpa [Segment.respelled] using hquoted hcs []

theorem endsWord_of_isQuote (h : ∀ c ∈ cs.head?, isQuote c = true) : EndsWord cs := by
  intro c hc
  have hquote := h c hc
  simp only [isQuote, Bool.or_eq_true, beq_iff_eq] at hquote
  obtain rfl | rfl := hquote <;> decide

variable {s : Segment} {ts us vs : List Symbol} {f : List Char → List Char}

theorem respelled_id : Segment.respelled id = id := by
  funext s
  unfold Segment.respelled
  split <;> rfl

theorem Segmented.of_cons (h : Segmented (s :: ss)) : Segmented ss := by
  cases h with
  | plain _ _ h | closed _ h => exact h
  | unclosed => exact .nil

theorem Segmented.isQuote_rest (h : Segmented (s :: ss)) (hq : s.quoted = false) :
    ∀ c ∈ (ss.flatMap (·.chars)).head?, isQuote c = true := by
  cases h with
  | plain hcs hhead h =>
    have hquote := h.isQuote_head hhead id
    rwa [respelled_id, List.map_id] at hquote
  | closed | unclosed => cases hq

/-- The tokens of a text are those of its first stretch and those of the others. -/
theorem Segmented.spells_split (h : Segmented (s :: ss))
    (hs : Spells ((s :: ss).flatMap (·.chars)) ts) :
    ∃ us vs, ts = us ++ vs ∧ Spells s.chars us ∧ Spells (ss.flatMap (·.chars)) vs := by
  rw [List.flatMap_cons] at hs
  have hquote := h.isQuote_rest
  cases h with
  | plain hcs =>
    exact hs.split (run_of_forall hcs.2) (endsWord_of_isQuote (hquote rfl)).apart
  | closed hcs => exact hs.split hcs.run (hcs.apart _)
  | unclosed => exact ⟨ts, [], by simp, by simpa using hs, spells_nil.mpr rfl⟩

/-- The tokens of a first stretch, which may be respelled where it is plain, and those of the others
with their plain stretches respelled are the tokens of them all. -/
theorem Segmented.spells_append (h : Segmented (s :: ss)) {cs : List Char}
    (hcs : s.quoted = true → cs = s.chars) (hus : Spells cs us)
    (hvs : Spells ((ss.map (Segment.respelled f)).flatMap (·.chars)) vs) :
    Spells (cs ++ (ss.map (Segment.respelled f)).flatMap (·.chars)) (us ++ vs) := by
  cases h with
  | plain _ hhead h =>
    exact hus.append hvs (endsWord_of_isQuote (h.isQuote_head hhead f)).apart
  | closed hclosed =>
    rw [hcs rfl] at hus ⊢
    exact hus.append hvs (hclosed.apart _)
  | unclosed => exact hus.append hvs (by simp [Apart])

end NetQuery.Text
