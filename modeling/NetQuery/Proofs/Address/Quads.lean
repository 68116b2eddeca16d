import NetQuery.Address.DottedQuad
import NetQuery.Proofs.Number.Digits

namespace NetQuery.Address

open Number

variable {cs ds part : List Char} {parts : List (List Char)} {octets octets' : List Nat} {m n : Nat}

/-- One to three digits of a value up to 255. -/
structure IsOctet (cs : List Char) : Prop where
  ne_nil : cs ≠ []
  digits : ∀ c ∈ cs, c.isDigit = true
  length_le : cs.length ≤ 3
  value_le : digitsFrom 0 cs ≤ maxOctet

theorem octet?_eq_some_iff : octet? cs = some n ↔ IsOctet cs ∧ digitsFrom 0 cs = n := by
  unfold octet?
  constructor
  · intro h
    split at h
    · next hlength =>
      obtain ⟨hread, hle⟩ := Option.filter_eq_some_iff.mp h
      obtain ⟨hne, hdigits, rfl⟩ := readDigits?_eq_some_iff.mp hread
      exact ⟨⟨hne, hdigits, hlength, by simpa using hle⟩, rfl⟩
    · cases h
  · rintro ⟨⟨hne, hdigits, hlength, hle⟩, rfl⟩
    have hread : readDigits? cs = some (digitsFrom 0 cs) :=
      readDigits?_eq_some_iff.mpr ⟨hne, hdigits, rfl⟩
    simp [hlength, hread, hle]

theorem mapM_octet?_eq_some_iff :
    parts.mapM octet? = some octets ↔
      (∀ part ∈ parts, IsOctet part) ∧ parts.map (digitsFrom 0) = octets := by
  induction parts generalizing octets with
  | nil => simp [eq_comm]
  | cons part parts ih =>
    simp only [List.mapM_cons, Option.bind_eq_bind, Option.bind_eq_some_iff, octet?_eq_some_iff, ih,
      Option.pure_def, Option.some.injEq, List.forall_mem_cons, List.map_cons]
    constructor
    · rintro ⟨_, ⟨hpart, rfl⟩, _, ⟨hparts, rfl⟩, rfl⟩
      exact ⟨⟨hpart, hparts⟩, rfl⟩
    · rintro ⟨⟨hpart, hparts⟩, rfl⟩
      exact ⟨_, ⟨hpart, rfl⟩, _, ⟨hparts, rfl⟩, rfl⟩

def octetValues (cs : List Char) : List Nat :=
  (pointParts cs).map (digitsFrom 0)

/-- A quad has four parts between its points, and each of them is an octet. -/
theorem quad?_eq_some_iff :
    quad? cs = some n ↔ (pointParts cs).length = 4 ∧ (∀ part ∈ pointParts cs, IsOctet part) ∧
      ofOctets (octetValues cs) = n := by
  simp only [quad?]
  split
  · next hlength =>
    simp only [Option.map_eq_some_iff, mapM_octet?_eq_some_iff, hlength, true_and, octetValues]
    constructor
    · rintro ⟨_, ⟨hparts, rfl⟩, hn⟩
      exact ⟨hparts, hn⟩
    · rintro ⟨hparts, hn⟩
      exact ⟨_, ⟨hparts, rfl⟩, hn⟩
  · next hlength => simp [hlength]

theorem octetValues_of_quad? (h : quad? cs = some n) :
    (octetValues cs).length = 4 ∧ ∀ v ∈ octetValues cs, v ≤ 255 := by
  obtain ⟨hlength, hparts, -⟩ := quad?_eq_some_iff.mp h
  refine ⟨by rw [octetValues, List.length_map, hlength], ?_⟩
  intro v hv
  obtain ⟨part, hpart, rfl⟩ := List.mem_map.mp hv
  exact (hparts part hpart).value_le

theorem ofOctets_lt (hlength : octets.length = 4) (hle : ∀ v ∈ octets, v ≤ 255) :
    ofOctets octets < 4294967296 := by
  match octets, hlength with
  | [x, y, z, w], _ =>
    simp only [List.forall_mem_cons] at hle
    simp only [ofOctets, List.foldl_cons, List.foldl_nil]
    omega

/-- Four octets make a number that no other four make. -/
theorem ofOctets_injective (hlength : octets.length = 4) (hle : ∀ v ∈ octets, v ≤ 255)
    (hlength' : octets'.length = 4) (hle' : ∀ v ∈ octets', v ≤ 255)
    (h : ofOctets octets = ofOctets octets') : octets = octets' := by
  match octets, octets', hlength, hlength' with
  | [x, y, z, w], [x', y', z', w'], _, _ =>
    simp only [List.forall_mem_cons] at hle hle'
    simp only [ofOctets, List.foldl_cons, List.foldl_nil] at h
    simp only [List.cons.injEq, and_true]
    omega

theorem quad?_lt (h : quad? cs = some n) : n < 4294967296 := by
  obtain ⟨hlength, hle⟩ := octetValues_of_quad? h
  obtain ⟨-, -, rfl⟩ := quad?_eq_some_iff.mp h
  exact ofOctets_lt hlength hle

/-- The number of a quad tells the value of each octet. -/
theorem octetValues_eq_iff (hcs : quad? cs = some m) (hds : quad? ds = some n) :
    octetValues cs = octetValues ds ↔ m = n := by
  obtain ⟨hlength, hle⟩ := octetValues_of_quad? hcs
  obtain ⟨hlength', hle'⟩ := octetValues_of_quad? hds
  obtain ⟨-, -, rfl⟩ := quad?_eq_some_iff.mp hcs
  obtain ⟨-, -, rfl⟩ := quad?_eq_some_iff.mp hds
  constructor
  · intro h
    rw [h]
  · exact ofOctets_injective hlength hle hlength' hle'

theorem intercalate_pointParts (cs : List Char) : ['.'].intercalate (pointParts cs) = cs :=
  List.intercalate_splitOn '.'

/-- No part has a point. -/
theorem point_notMem_of_mem_pointParts (h : part ∈ pointParts cs) : '.' ∉ part := by
  unfold pointParts at h
  induction cs generalizing part with
  | nil =>
    obtain rfl := List.mem_singleton.mp h
    exact List.not_mem_nil
  | cons c cs ih =>
    rw [List.splitOnP_cons_eq_if_modifyHead] at h
    split at h
    · rcases List.mem_cons.mp h with rfl | h
      · exact List.not_mem_nil
      · exact ih h
    · next hc =>
      obtain ⟨first, rest, hparts⟩ :=
        List.exists_cons_of_ne_nil (List.splitOnP_ne_nil (· == '.') cs)
      rw [hparts] at h ih
      rcases List.mem_cons.mp h with rfl | h
      · rintro (_ | ⟨_, hmem⟩)
        · exact hc rfl
        · exact ih List.mem_cons_self hmem
      · exact ih (List.mem_cons_of_mem _ h)

/-- In parts with a separator between them stands nothing else. -/
theorem mem_intercalate {α : Type} {separator a : α} {parts : List (List α)}
    (h : a ∈ [separator].intercalate parts) : a = separator ∨ ∃ part ∈ parts, a ∈ part := by
  induction parts with
  | nil => cases h
  | cons part parts ih =>
    cases parts with
    | nil => exact .inr ⟨part, List.mem_cons_self, by simpa using h⟩
    | cons next rest =>
      rw [List.intercalate_cons_cons, List.append_assoc, List.mem_append, List.mem_append] at h
      rcases h with hpart | hseparator | hrest
      · exact .inr ⟨part, List.mem_cons_self, hpart⟩
      · exact .inl (List.mem_singleton.mp hseparator)
      · rcases ih hrest with hseparator | ⟨other, hother, ha⟩
        · exact .inl hseparator
        · exact .inr ⟨other, List.mem_cons_of_mem _ hother, ha⟩

theorem isDigit_or_point_of_quad? (h : quad? cs = some n) :
    ∀ c ∈ cs, c.isDigit = true ∨ c = '.' := by
  obtain ⟨-, hparts, -⟩ := quad?_eq_some_iff.mp h
  intro c hc
  rw [← intercalate_pointParts cs] at hc
  rcases mem_intercalate hc with hpoint | ⟨part, hpart, hmem⟩
  · exact .inr hpoint
  · exact .inl ((hparts part hpart).digits c hmem)

/-- No part of the text between points has a zero in front of other digits. -/
def IsPlain (cs : List Char) : Prop :=
  ∀ part ∈ pointParts cs, part.head? = some '0' → part.length = 1

instance (cs : List Char) : Decidable (IsPlain cs) :=
  inferInstanceAs (Decidable (∀ part ∈ pointParts cs, _))

/-- The parts of a plain quad are written as their values are. -/
theorem pointParts_of_isPlain (h : quad? cs = some n) (hplain : IsPlain cs) :
    pointParts cs = (octetValues cs).map natDigits := by
  obtain ⟨-, hparts, -⟩ := quad?_eq_some_iff.mp h
  have hpart : ∀ part ∈ pointParts cs, natDigits (digitsFrom 0 part) = part := fun part hmem =>
    natDigits_digitsFrom (hparts part hmem).ne_nil (hparts part hmem).digits (hplain part hmem)
  calc pointParts cs = (pointParts cs).map id := (List.map_id _).symm
    _ = (pointParts cs).map (natDigits ∘ digitsFrom 0) :=
        List.map_congr_left fun part hmem => (hpart part hmem).symm
    _ = (octetValues cs).map natDigits := List.map_map.symm

/-- Without zeros in front of octets a number has one text. -/
theorem eq_of_isPlain (hcs : quad? cs = some n) (hds : quad? ds = some n) (hplain : IsPlain cs)
    (hplain' : IsPlain ds) : cs = ds := by
  have hvalues : octetValues cs = octetValues ds := (octetValues_eq_iff hcs hds).mpr rfl
  rw [← intercalate_pointParts cs, ← intercalate_pointParts ds, pointParts_of_isPlain hcs hplain,
    pointParts_of_isPlain hds hplain', hvalues]

end NetQuery.Address
