import NetQuery.Proofs.Score.Places
import NetQuery.Proofs.Score.Words
import NetQuery.Score.Weighing

namespace NetQuery

namespace Score

open Place (free)

inductive Role where
  | connective (w : Connective)
  /-- A condition, without the parentheses around it. -/
  | condition (bare : List Char)
  | nothing

def role (word : List Char) : Role :=
  match connectiveOf? word with
  | some w => .connective w
  | none =>
    let bare := dropParentheses word
    if bare.isEmpty then .nothing
    else
      match connectiveOf? bare with
      | some w => .connective w
      | none => .condition bare

def Role.tenths : Role → Nat
  | connective _ => connectiveWeight
  | condition bare => (classify bare []).kind.weight
  | nothing => 0

def Reading.tenths (r : Reading) : Nat :=
  (r.components.map Component.weight).sum + connectiveWeight * r.pending.length

variable {word more cs : List Char} {c : Char} {r : Reading}

/-- What reading a word does to the components and the connectives that wait for the next one. -/
theorem Reading.add_eq (r : Reading) (word : List Char) : ∃ grouped, r.add word =
    match role word with
    | .connective w => ⟨r.components, w :: r.pending, grouped⟩
    | .condition bare => ⟨classify bare r.pending.reverse :: r.components, [], grouped⟩
    | .nothing => ⟨r.components, r.pending, grouped⟩ := by
  unfold Reading.add role
  cases connectiveOf? word with
  | some w => exact ⟨r.grouped, rfl⟩
  | none =>
    refine ⟨r.grouped || (dropParentheses word).length != word.length, ?_⟩
    simp only
    split
    · rfl
    · cases connectiveOf? (dropParentheses word) <;> rfl

@[simp] theorem connectives_classify (word : List Char) (connectives : List Connective) :
    (classify word connectives).connectives = connectives := by
  unfold classify
  split <;> rfl

@[simp] theorem text_classify (word : List Char) (connectives : List Connective) :
    (classify word connectives).text = String.ofList word := by
  unfold classify
  split <;> rfl

/-- A condition is of the same kind whatever stands before it. -/
theorem kind_classify (word : List Char) (connectives : List Connective) :
    (classify word connectives).kind = (classify word []).kind := by
  unfold classify
  split <;> rfl

/-- A condition weighs between one and three. -/
theorem ConditionKind.weight_bounds (kind : ConditionKind) :
    10 ≤ kind.weight ∧ kind.weight ≤ 30 := by
  cases kind <;> simp [weight]

/-- Reading a word adds its weight. A connective weighs as much while it waits as it does with the
condition that takes it. -/
theorem Reading.tenths_add (r : Reading) (word : List Char) :
    (r.add word).tenths = r.tenths + (role word).tenths := by
  obtain ⟨grouped, hadd⟩ := r.add_eq word
  rw [hadd]
  cases role word with
  | connective w => simp [Reading.tenths, Role.tenths, Nat.mul_add, Nat.add_assoc]
  | condition bare =>
    simp only [Reading.tenths, Role.tenths, List.map_cons, List.sum_cons, Component.weight,
      connectives_classify, kind_classify bare r.pending.reverse, List.length_reverse,
      List.length_nil]
    omega
  | nothing => rfl

theorem tenths_foldl (words : List (List Char)) (r : Reading) :
    (words.foldl Reading.add r).tenths =
      r.tenths + (words.map fun word => (role word).tenths).sum := by
  induction words generalizing r with
  | nil => rfl
  | cons word words ih =>
    rw [List.foldl_cons, ih, Reading.tenths_add, List.map_cons, List.sum_cons, Nat.add_assoc]

/-- The complexity of a text is the sum of what its words weigh. -/
theorem tenths_ofText (text : String) : (Weighing.ofText text).tenths =
    ((splitWords text.toList).map fun word => (role word).tenths).sum := by
  have hread := tenths_foldl (splitWords text.toList) ⟨[], [], false⟩
  have hzero : (⟨[], [], false⟩ : Reading).tenths = 0 := rfl
  rw [hzero, Nat.zero_add] at hread
  rw [← hread, Weighing.tenths, Reading.tenths, Weighing.ofText, List.length_reverse,
    List.map_reverse, List.sum_reverse]
  rfl

/-- Components stay as they were read. -/
theorem exists_components_foldl (words : List (List Char)) (r : Reading) :
    ∃ later, (words.foldl Reading.add r).components = later ++ r.components := by
  induction words generalizing r with
  | nil => exact ⟨[], rfl⟩
  | cons word words ih =>
    obtain ⟨later, hlater⟩ := ih (r.add word)
    obtain ⟨grouped, hadd⟩ := r.add_eq word
    rw [List.foldl_cons, hlater, hadd]
    cases role word with
    | connective w => exact ⟨later, rfl⟩
    | condition bare => exact ⟨later ++ [classify bare r.pending.reverse], by simp⟩
    | nothing => exact ⟨later, rfl⟩

/-- A word with a quote or an opening bracket is a condition. -/
theorem role_of_opening (hc : c ∈ word) (hopening : Text.isQuote c = true ∨ c = '[') :
    role word = .condition (dropParentheses word) := by
  have hsign : c.isAlpha = false ∧ c ≠ '(' ∧ c ≠ ')' := by
    simp only [Text.isQuote, Bool.or_eq_true, beq_iff_eq] at hopening
    obtain (rfl | rfl) | rfl := hopening <;> decide
  obtain ⟨hletter, hleft, hright⟩ := hsign
  have hnone {word : List Char} (hc : c ∈ word) : connectiveOf? word = none := by
    cases h : connectiveOf? word with
    | none => rfl
    | some w =>
      rw [isAlpha_of_connectiveOf? h hc] at hletter
      cases hletter
  have hbare : c ∈ dropParentheses word := by
    obtain ⟨opening, closing, hsplit, hopening, hclosing⟩ := exists_parentheses word
    rw [hsplit, List.mem_append, List.mem_append] at hc
    obtain hc | hc | hc := hc
    · exact absurd (hopening c hc) hleft
    · exact hc
    · exact absurd (hclosing c hc) hright
  have hne : (dropParentheses word).isEmpty = false := by
    simpa using List.ne_nil_of_mem hbare
  simp [role, hnone hc, hnone hbare, hne]

/-- A word that leaves the free place is a condition, whatever it goes on with. -/
theorem role_of_open (h : free.run word ≠ free) (more : List Char) :
    role (word ++ more) = .condition (dropParentheses (word ++ more)) := by
  obtain ⟨c, hc, hopening⟩ : ∃ c ∈ word, Text.isQuote c = true ∨ c = '[' := by
    refine Classical.byContradiction fun hnone => h (Place.free_run fun c hc => ?_)
    exact ⟨Bool.eq_false_iff.mpr fun hq => hnone ⟨c, hc, .inl hq⟩, fun hb => hnone ⟨c, hc, .inr hb⟩⟩
  exact role_of_opening (List.mem_append_left _ hc) hopening

/-- A condition is its word without the parentheses around it. -/
theorem eq_dropParentheses {bare : List Char} (h : role word = .condition bare) :
    bare = dropParentheses word := by
  unfold role at h
  split at h
  · cases h
  · simp only at h
    split at h
    · cases h
    · split at h
      · cases h
      · cases h
        rfl

theorem splitWords_and {a : List Char} (h : free.run a = free) (b : List Char) :
    splitWords (a ++ ' ' :: 'A' :: 'N' :: 'D' :: ' ' :: b) =
      splitWords a ++ ['A', 'N', 'D'] :: splitWords b := by
  have hand : splitWords (['A', 'N', 'D'] ++ ' ' :: b) = [['A', 'N', 'D']] ++ splitWords b :=
    splitWords_append (by decide) (by decide) b
  rw [splitWords_append h (by decide)]
  exact congrArg (splitWords a ++ ·) hand

theorem toList_and (a b : String) :
    (a ++ " AND " ++ b).toList = a.toList ++ ' ' :: 'A' :: 'N' :: 'D' :: ' ' :: b.toList := by
  simp [String.toList_append]

/-- The last component of a text that is not left at the free place is classified anew with what
follows; those before it stay. -/
theorem exists_components_append {a : String} (h : free.run a.toList ≠ free) (b : String) :
    ∃ before last last' after,
      (Weighing.ofText a).components = before ++ [last] ∧ (Weighing.ofText a).dangling = [] ∧
      (Weighing.ofText (a ++ b)).components = before ++ last' :: after ∧
      last'.connectives = last.connectives := by
  obtain ⟨words, last, more, others, hwords, hlast, hjoined⟩ :=
    exists_splitWords_append h b.toList
  generalize hr : words.foldl Reading.add ⟨[], [], false⟩ = r
  -- what opens a quoted text or a bracket makes the word a condition, whatever it goes on with
  have hadd (more : List Char) : ∃ grouped, r.add (last ++ more) =
      ⟨classify (dropParentheses (last ++ more)) r.pending.reverse :: r.components, [],
        grouped⟩ := by
    obtain ⟨grouped, hadd⟩ := r.add_eq (last ++ more)
    rw [role_of_open hlast more] at hadd
    exact ⟨grouped, hadd⟩
  obtain ⟨grouped, hfirst⟩ := hadd []
  obtain ⟨grouped', hlonger⟩ := hadd more
  rw [List.append_nil] at hfirst
  obtain ⟨later, hlater⟩ := exists_components_foldl others (r.add (last ++ more))
  rw [hlonger] at hlater
  refine ⟨r.components.reverse, classify (dropParentheses last) r.pending.reverse,
    classify (dropParentheses (last ++ more)) r.pending.reverse, later.reverse, ?_, ?_, ?_, by simp⟩
  · simp only [Weighing.ofText, read, hwords, List.foldl_append, List.foldl_cons, List.foldl_nil,
      hr, hfirst, List.reverse_cons]
  · simp only [Weighing.ofText, read, hwords, List.foldl_append, List.foldl_cons, List.foldl_nil,
      hr, hfirst, List.reverse_nil]
  · simp only [Weighing.ofText, read, String.toList_append, hjoined, List.foldl_append,
      List.foldl_cons, hr, hlonger, hlater, List.reverse_append, List.reverse_cons,
      List.append_assoc, List.singleton_append]

/-- A clause behind AND adds its complexity and that of the connective to a text that is left
outside quoted texts and brackets. In any other text it belongs to the last word: the components
before the last stay, the last one is classified anew behind the same connectives, and the
complexity falls by no more than the weight of its condition does, which is two at most. -/
theorem tenths_and (a b : String) :
    let joined := Weighing.ofText (a ++ " AND " ++ b)
    (free.run a.toList = free → joined.tenths =
      (Weighing.ofText a).tenths + connectiveWeight + (Weighing.ofText b).tenths) ∧
    (free.run a.toList ≠ free →
      (∃ before last last' after,
        (Weighing.ofText a).components = before ++ [last] ∧
        joined.components = before ++ last' :: after ∧ last'.connectives = last.connectives ∧
        (Weighing.ofText a).tenths + last'.kind.weight ≤ joined.tenths + last.kind.weight) ∧
      (Weighing.ofText a).tenths ≤ joined.tenths + 20) := by
  intro joined
  constructor
  · intro h
    have hand : (role ['A', 'N', 'D']).tenths = connectiveWeight := rfl
    rw [tenths_ofText, tenths_ofText, tenths_ofText, toList_and, splitWords_and h]
    simp only [List.map_append, List.map_cons, List.sum_append, List.sum_cons, hand]
    omega
  · intro h
    obtain ⟨before, last, last', after, hlast, hdangling, hjoined, hsame⟩ :=
      exists_components_append h (" AND " ++ b)
    rw [← String.append_assoc] at hjoined
    have hweight : (Weighing.ofText a).tenths + last'.kind.weight ≤
        joined.tenths + last.kind.weight := by
      simp only [Weighing.tenths, hlast, hdangling, hjoined, joined, List.map_append, List.map_cons,
        List.map_nil, List.sum_append, List.sum_cons, List.sum_nil, Component.weight, hsame,
        List.length_nil]
      omega
    refine ⟨⟨before, last, last', after, hlast, hjoined, hsame, hweight⟩, ?_⟩
    have hupper := last.kind.weight_bounds.2
    have hlower := last'.kind.weight_bounds.1
    omega

/-- A text that ends in a connective, and one whose last word has an open bracket. -/
theorem tenths_and_of_range :
    (Weighing.ofText "name:'x y' OR AND ts:[1 TO 2]").tenths =
      (Weighing.ofText "name:'x y' OR").tenths + 5 + (Weighing.ofText "ts:[1 TO 2]").tenths ∧
    (Weighing.ofText "type:1 name:/[/").tenths ≤
      (Weighing.ofText "type:1 name:/[/ AND severity:low").tenths + 20 :=
  ⟨(tenths_and "name:'x y' OR" "ts:[1 TO 2]").1 (by decide),
    ((tenths_and "type:1 name:/[/" "severity:low").2 (by decide)).2⟩

/-- The bracket that is left open takes the clause into the free text before it, which becomes the
name of a field. -/
theorem tenths_and_of_open_bracket :
    (Weighing.ofText "[a").tenths = 20 ∧
      (Weighing.ofText ("[a" ++ " AND " ++ "b:1")).tenths = 10 := by
  decide

end Score

end NetQuery
