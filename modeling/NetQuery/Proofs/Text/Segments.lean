import NetQuery.Text.Quotes

namespace NetQuery.Text

namespace QuoteState

variable {state : QuoteState} {body rest : List Char}

/-- No character of the text brings the state back outside. -/
def staysInside (state : QuoteState) : List Char → Bool
  | [] => true
  | c :: rest => !(state.next c).isOutside && (state.next c).staysInside rest

theorem staysInside_append :
    state.staysInside (body ++ rest) =
      (state.staysInside body && (state.run body).staysInside rest) := by
  induction body generalizing state with
  | nil => simp [staysInside]
  | cons c body ih => simp only [List.cons_append, staysInside, ih, run_cons, Bool.and_assoc]

theorem not_outside_run (hs : state.isOutside = false) (h : state.staysInside body = true) :
    (state.run body).isOutside = false := by
  induction body generalizing state with
  | nil => exact hs
  | cons c body ih =>
    simp only [staysInside, Bool.and_eq_true, Bool.not_eq_true'] at h
    exact ih h.1 h.2

theorem next_outside (c : Char) : outside.next c = if isQuote c then inside c else outside := rfl

/-- The quote that ends the quoted text in which the scan stands. -/
def quote? : QuoteState → Option Char
  | outside => none
  | inside quote | escaped quote => some quote

theorem isNone_quote? (state : QuoteState) : state.quote?.isNone = state.isOutside := by
  cases state <;> rfl

theorem quote?_next {c quote : Char} (h : (state.next c).quote? = some quote) :
    state.quote? = some quote ∨ isQuote quote = true := by
  cases state with
  | outside =>
    rw [next_outside] at h
    split at h
    · next hc =>
      cases h
      exact .inr hc
    · cases h
  | inside q =>
    simp only [next] at h
    split at h
    · exact .inl h
    · split at h
      · cases h
      · exact .inl h
  | escaped q => exact .inl h

theorem quote?_run {quote : Char} (h : (state.run body).quote? = some quote) :
    state.quote? = some quote ∨ isQuote quote = true := by
  induction body generalizing state with
  | nil => exact .inl h
  | cons c body ih =>
    obtain h | h := ih h
    · exact quote?_next h
    · exact .inr h

theorem isQuote_of_quote?_run {quote : Char} (h : (outside.run body).quote? = some quote) :
    isQuote quote = true :=
  (quote?_run h).elim nofun id

end QuoteState

open QuoteState

/-- Characters without quotes, at least one. -/
def IsPlain (cs : List Char) : Prop :=
  cs ≠ [] ∧ ∀ c ∈ cs, isQuote c = false

/-- A quote and what it opens, up to the end of the text. -/
def IsUnclosed (cs : List Char) : Prop :=
  ∃ opening body, cs = opening :: body ∧ isQuote opening = true ∧
    (inside opening).staysInside body = true

def IsClosed (cs : List Char) : Prop :=
  ∃ pre closing, cs = pre ++ [closing] ∧ IsUnclosed pre ∧
    ((outside).run pre).next closing = outside

/-- Stretches as they follow each other in a text: no two plain ones meet, and only the last may be
a quoted text without its closing quote. -/
inductive Segmented : List Segment → Prop where
  | nil : Segmented []
  | plain {cs : List Char} {rest : List Segment} : IsPlain cs →
      (∀ s ∈ rest.head?, s.quoted = true) → Segmented rest → Segmented (⟨false, cs⟩ :: rest)
  | closed {cs : List Char} {rest : List Segment} : IsClosed cs → Segmented rest →
      Segmented (⟨true, cs⟩ :: rest)
  | unclosed {cs : List Char} : IsUnclosed cs → Segmented [⟨true, cs⟩]

variable {cs rest reversed : List Char} {state : QuoteState} {ss : List Segment}

theorem segmentsFrom_inside (hs : state.isOutside = false) (h : state.staysInside cs = true) :
    segmentsFrom state reversed (cs ++ rest) =
      segmentsFrom (state.run cs) (cs.reverse ++ reversed) rest := by
  induction cs generalizing state reversed with
  | nil => rfl
  | cons c cs ih =>
    simp only [staysInside, Bool.and_eq_true, Bool.not_eq_true'] at h
    simp only [List.cons_append, segmentsFrom, hs, h.1, ih h.1 h.2, run_cons, List.reverse_cons,
      List.append_assoc, List.nil_append]

theorem segmentsFrom_plain (h : ∀ c ∈ cs, isQuote c = false) :
    segmentsFrom outside reversed (cs ++ rest) =
      segmentsFrom outside (cs.reverse ++ reversed) rest := by
  induction cs generalizing reversed with
  | nil => rfl
  | cons c cs ih =>
    obtain ⟨hc, hcs⟩ := List.forall_mem_cons.mp h
    simp only [List.cons_append, segmentsFrom, next_outside, hc, Bool.false_eq_true, if_false,
      isOutside, ih hcs, List.reverse_cons, List.append_assoc, List.nil_append]

theorem segmentsFrom_unclosed (reversed rest : List Char) (h : IsUnclosed cs) :
    segmentsFrom outside reversed (cs ++ rest) =
      closeSegment false reversed ++ segmentsFrom (outside.run cs) cs.reverse rest := by
  obtain ⟨opening, body, rfl, hopening, hbody⟩ := h
  have hnext : outside.next opening = inside opening := by simp [next_outside, hopening]
  simp only [List.cons_append, segmentsFrom, hnext, isOutside, run_cons, List.reverse_cons]
  rw [segmentsFrom_inside rfl hbody]

theorem IsUnclosed.run (h : IsUnclosed cs) : (outside.run cs).isOutside = false := by
  obtain ⟨opening, body, rfl, hopening, hbody⟩ := h
  rw [run_cons, next_outside, if_pos hopening]
  exact not_outside_run rfl hbody

theorem IsUnclosed.ne_nil (h : IsUnclosed cs) : cs ≠ [] := by
  obtain ⟨_, _, rfl, _⟩ := h
  exact List.cons_ne_nil _ _

theorem segmentsFrom_closed (h : IsClosed cs) :
    segmentsFrom outside reversed (cs ++ rest) =
      closeSegment false reversed ++ ⟨true, cs⟩ :: segments rest := by
  obtain ⟨pre, closing, rfl, hpre, hclosing⟩ := h
  have hrun := hpre.run
  rw [List.append_assoc, segmentsFrom_unclosed _ _ hpre]
  simp only [List.singleton_append, segmentsFrom, hrun, hclosing]
  simp [isOutside, closeSegment, segments]

/-- Stretches of the right shape are the ones of the text that they make up. Behind a plain stretch
that is already known they are found too, if the first of them is quoted. -/
theorem Segmented.segmentsFrom (h : Segmented ss) :
    segments (ss.flatMap (·.chars)) = ss ∧
      ((∀ s ∈ ss.head?, s.quoted = true) → ∀ reversed,
        segmentsFrom outside reversed (ss.flatMap (·.chars)) =
          closeSegment false reversed ++ ss) := by
  induction h with
  | nil => simp [segments, Text.segmentsFrom, isOutside, closeSegment]
  | @plain cs rest hcs hhead _ ih =>
    refine ⟨?_, fun h => absurd (h _ rfl) (by simp)⟩
    rw [List.flatMap_cons, segments, segmentsFrom_plain hcs.2, List.append_nil,
      ih.2 hhead]
    simp [closeSegment, hcs.1]
  | @closed cs rest hcs _ ih =>
    simp only [List.flatMap_cons, segments]
    refine ⟨?_, fun _ reversed => ?_⟩ <;> rw [segmentsFrom_closed hcs, ih.1]
    rfl
  | @unclosed cs hcs =>
    have hfrom (reversed : List Char) : Text.segmentsFrom outside reversed cs =
        closeSegment false reversed ++ [⟨true, cs⟩] := by
      have h := segmentsFrom_unclosed reversed [] hcs
      rw [List.append_nil] at h
      simp [h, Text.segmentsFrom, hcs.run, closeSegment, hcs.ne_nil]
    simp only [List.flatMap_cons, List.flatMap_nil, List.append_nil, segments]
    exact ⟨hfrom [], fun _ reversed => hfrom reversed⟩

theorem Segmented.segments (h : Segmented ss) : segments (ss.flatMap (·.chars)) = ss :=
  h.segmentsFrom.1

/-- Characters already read of a text: of a plain stretch when the state is outside, and otherwise
of a quoted text that leaves the scan in that state. -/
def Pending (state : QuoteState) (reversed : List Char) : Prop :=
  if state.isOutside then ∀ c ∈ reversed, isQuote c = false
  else IsUnclosed reversed.reverse ∧ outside.run reversed.reverse = state

theorem IsUnclosed.append {c : Char} (h : IsUnclosed cs)
    (hnext : ((outside.run cs).next c).isOutside = false) : IsUnclosed (cs ++ [c]) := by
  obtain ⟨opening, body, rfl, hopening, hbody⟩ := h
  rw [run_cons, next_outside, if_pos hopening] at hnext
  exact ⟨opening, body ++ [c], rfl, hopening,
    by simp [staysInside_append, hbody, staysInside, hnext]⟩

/-- A character after those read leaves the scan with characters read, or closes a quoted text. -/
theorem Pending.next {c : Char} (h : Pending state reversed) :
    (state.isOutside = true ∧ isQuote c = true ∧ Pending (state.next c) [c]) ∨
    (state.isOutside = (state.next c).isOutside ∧ Pending (state.next c) (c :: reversed)) ∨
    (state.isOutside = false ∧ (state.next c).isOutside = true ∧
      IsClosed (reversed.reverse ++ [c])) := by
  unfold Pending at h
  cases hs : state.isOutside with
  | true =>
    obtain rfl := eq_outside hs
    cases hc : isQuote c with
    | true =>
      refine .inl ⟨rfl, rfl, ?_⟩
      simp only [next_outside, hc, if_true, Pending, isOutside]
      exact ⟨⟨c, [], rfl, hc, rfl⟩, by simp [next_outside, hc]⟩
    | false =>
      refine .inr (.inl ?_)
      simp only [next_outside, hc, Pending, isOutside]
      exact ⟨rfl, List.forall_mem_cons.mpr ⟨hc, by simpa [hs] using h⟩⟩
  | false =>
    simp only [hs, Bool.false_eq_true, if_false] at h
    obtain ⟨hunclosed, hrun⟩ := h
    cases hnext : (state.next c).isOutside with
    | true =>
      refine .inr (.inr ⟨rfl, rfl, reversed.reverse, c, rfl, hunclosed, ?_⟩)
      rw [hrun]
      exact eq_outside hnext
    | false =>
      refine .inr (.inl ⟨rfl, ?_⟩)
      simp only [Pending, hnext, Bool.false_eq_true, if_false, List.reverse_cons, run_append, hrun]
      exact ⟨hunclosed.append (by rwa [hrun]), rfl⟩

theorem quoted_head_segmentsFrom (hs : state.isOutside = false) :
    ∀ s ∈ (segmentsFrom state reversed cs).head?, s.quoted = true := by
  induction cs generalizing state reversed with
  | nil =>
    simp only [segmentsFrom, hs, closeSegment]
    split <;> simp
  | cons c rest ih =>
    cases hnext : (state.next c).isOutside with
    | true => simp [segmentsFrom, hs, hnext, closeSegment]
    | false => simpa only [segmentsFrom, hs, hnext] using ih hnext

theorem segmented_closeSegment (h : ∀ c ∈ reversed, isQuote c = false) (hss : Segmented ss)
    (hhead : ∀ s ∈ ss.head?, s.quoted = true) : Segmented (closeSegment false reversed ++ ss) := by
  unfold closeSegment
  split
  · exact hss
  · next hne => exact .plain ⟨by simpa using hne, by simpa using h⟩ hhead hss

theorem chars_closeSegment (quoted : Bool) :
    (closeSegment quoted reversed).flatMap (·.chars) = reversed.reverse := by
  unfold closeSegment
  split <;> simp_all

/-- The stretches found from a state on have the right shape and make the text up. -/
theorem segmentsFrom_spec (h : Pending state reversed) :
    Segmented (segmentsFrom state reversed cs) ∧
      (segmentsFrom state reversed cs).flatMap (·.chars) = reversed.reverse ++ cs := by
  induction cs generalizing state reversed with
  | nil =>
    simp only [segmentsFrom, chars_closeSegment, List.append_nil, and_true]
    unfold Pending at h
    split at h
    · next hs => simpa [hs] using segmented_closeSegment h .nil (by simp)
    · next hs =>
      have hne : reversed ≠ [] := by simpa using h.1.ne_nil
      simpa [hs, closeSegment, hne] using Segmented.unclosed h.1
  | cons c rest ih =>
    obtain ⟨hs, hc, hpending⟩ | ⟨hsame, hpending⟩ | ⟨hs, hnext, hclosed⟩ := h.next (c := c)
    · obtain rfl := eq_outside hs
      have hinside : (outside.next c).isOutside = false := by simp [next_outside, hc, isOutside]
      obtain ⟨hss, hchars⟩ := ih hpending
      simp only [segmentsFrom, hs, hinside, List.flatMap_append, chars_closeSegment, hchars]
      exact ⟨segmented_closeSegment (by simpa [Pending, isOutside] using h) hss
        (quoted_head_segmentsFrom hinside), by simp⟩
    · obtain ⟨hss, hchars⟩ := ih hpending
      have hstep : segmentsFrom state reversed (c :: rest) =
          segmentsFrom (state.next c) (c :: reversed) rest := by
        rw [segmentsFrom, hsame]
        cases (state.next c).isOutside <;> rfl
      rw [hstep, hchars]
      exact ⟨hss, by simp⟩
    · have hpending : Pending (state.next c) [] := by simp [Pending, hnext]
      obtain ⟨hss, hchars⟩ := ih hpending
      simp only [segmentsFrom, hs, hnext, List.flatMap_append, chars_closeSegment, hchars]
      exact ⟨by simpa [closeSegment] using Segmented.closed hclosed hss, by simp⟩

theorem segmented_segments (cs : List Char) : Segmented (segments cs) :=
  (segmentsFrom_spec (by simp [Pending, isOutside])).1

theorem flatMap_segments (cs : List Char) : (segments cs).flatMap (·.chars) = cs :=
  (segmentsFrom_spec (by simp [Pending, isOutside])).2

/-- A stretch with its characters respelled, unless it is quoted. -/
def Segment.respelled (f : List Char → List Char) (s : Segment) : Segment :=
  if s.quoted then s else { s with chars := f s.chars }

@[simp] theorem Segment.quoted_respelled (f : List Char → List Char) (s : Segment) :
    (s.respelled f).quoted = s.quoted := by
  unfold respelled
  split <;> rfl

variable {f : List Char → List Char}

theorem Segmented.respelled (hf : ∀ cs, IsPlain cs → IsPlain (f cs)) (h : Segmented ss) :
    Segmented (ss.map (Segment.respelled f)) := by
  induction h with
  | nil => exact .nil
  | plain hcs hhead _ ih =>
    refine .plain (hf _ hcs) (fun s hs => ?_) ih
    rw [List.head?_map] at hs
    obtain ⟨s', hs', rfl⟩ := Option.map_eq_some_iff.mp hs
    rw [Segment.quoted_respelled]
    exact hhead s' hs'
  | closed hcs _ ih => exact .closed hcs ih
  | unclosed hcs => exact .unclosed hcs

/-- The stretches of a text with its plain stretches respelled are the respelled stretches. -/
theorem segments_respelled (hf : ∀ cs, IsPlain cs → IsPlain (f cs)) (cs : List Char) :
    segments (((segments cs).map (Segment.respelled f)).flatMap (·.chars)) =
      (segments cs).map (Segment.respelled f) :=
  ((segmented_segments cs).respelled hf).segments

/-- A text with its plain stretches respelled is the text just when each of them is. -/
theorem flatMap_respelled_eq_self_iff (hf : ∀ cs, IsPlain cs → IsPlain (f cs)) :
    ((segments cs).map (Segment.respelled f)).flatMap (·.chars) = cs ↔
      ∀ s ∈ segments cs, s.quoted = false → f s.chars = s.chars := by
  have hstep (s : Segment) : s.respelled f = s ↔ (s.quoted = false → f s.chars = s.chars) := by
    obtain ⟨quoted, chars⟩ := s
    cases quoted <;> simp [Segment.respelled]
  constructor
  · intro hsame s hs
    have hsegments := segments_respelled hf cs
    rw [hsame] at hsegments
    have hkept : (segments cs).map (Segment.respelled f) = (segments cs).map id := by
      rw [← hsegments, List.map_id]
    exact (hstep s).mp (List.map_inj_left.mp hkept s hs)
  · intro h
    have hkept : (segments cs).map (Segment.respelled f) = segments cs :=
      (List.map_congr_left fun s hs => (hstep s).mpr (h s hs)).trans (List.map_id' _)
    rw [hkept, flatMap_segments]

theorem Segmented.isPlain {s : Segment} (h : Segmented ss) (hs : s ∈ ss) (hq : s.quoted = false) :
    IsPlain s.chars := by
  induction h with
  | nil => cases hs
  | plain hcs _ _ ih =>
    cases hs with
    | head => exact hcs
    | tail _ hs => exact ih hs
  | closed _ _ ih =>
    cases hs with
    | head => cases hq
    | tail _ hs => exact ih hs
  | unclosed _ =>
    cases hs with
    | head => cases hq
    | tail _ hs => cases hs

end NetQuery.Text
