import NetQuery.Address.Numeric
import NetQuery.Library
import NetQuery.Proofs.Address.Blocks

namespace NetQuery

namespace Address

open Number

variable {cs rest : List Char} {n : Nat}

theorem strictOctet?_eq_some (h : strictOctet? cs = some (n, rest)) :
    ∃ digits, cs = digits ++ rest ∧ octet? digits = some n := by
  simp only [strictOctet?] at h
  split at h
  · next hshort =>
    obtain ⟨m, hm, hpair⟩ := Option.map_eq_some_iff.mp h
    simp only [Prod.mk.injEq] at hpair
    obtain ⟨rfl, rfl⟩ := hpair
    rw [Bool.and_eq_true, decide_eq_true_eq] at hshort
    refine ⟨cs.takeWhile Char.isDigit, ?_, ?_⟩
    · exact (List.prefix_iff_eq_append.mp (List.takeWhile_prefix _)).symm
    · rw [octet?, if_pos hshort.1]
      exact hm
  · cases h

theorem after?_eq_some {sign : Char} (h : after? sign cs = some rest) : cs = sign :: rest := by
  unfold after? at h
  split at h
  · split at h
    · next heq =>
      cases h
      rw [eq_of_beq heq]
    · cases h
  · cases h

theorem point_notMem_of_octet? (h : octet? cs = some n) : '.' ∉ cs :=
  Text.notMem_of_not (octet?_eq_some_iff.mp h).1.digits (by decide)

theorem leadingQuad?_eq_some (h : leadingQuad? cs = some (n, rest)) :
    ∃ quad, cs = quad ++ rest ∧ quad? quad = some n := by
  simp only [leadingQuad?, Option.bind_eq_bind, Option.bind_eq_some_iff, Prod.exists] at h
  obtain ⟨a, _, ha, _, hp, b, _, hb, _, hq, c, _, hc, _, hr, d, _, hd, hn⟩ := h
  cases hn
  obtain ⟨p, rfl, ho₁⟩ := strictOctet?_eq_some ha
  cases after?_eq_some hp
  obtain ⟨q, rfl, ho₂⟩ := strictOctet?_eq_some hb
  cases after?_eq_some hq
  obtain ⟨r, rfl, ho₃⟩ := strictOctet?_eq_some hc
  cases after?_eq_some hr
  obtain ⟨s, rfl, ho₄⟩ := strictOctet?_eq_some hd
  refine ⟨['.'].intercalate [p, q, r, s], by simp, ?_⟩
  have hoctets : ∀ part ∈ [p, q, r, s], '.' ∉ part := by
    simp only [List.forall_mem_cons]
    exact ⟨point_notMem_of_octet? ho₁, point_notMem_of_octet? ho₂, point_notMem_of_octet? ho₃,
      point_notMem_of_octet? ho₄, by simp⟩
  have hparts : pointParts (['.'].intercalate [p, q, r, s]) = [p, q, r, s] :=
    List.splitOn_intercalate '.' hoctets (by simp)
  unfold quad?
  simp only [hparts]
  simp [ho₁, ho₂, ho₃, ho₄]

/-- A group has one to four hexadecimal digits. -/
theorem hexGroup?_eq_some (h : hexGroup? cs = some (n, rest)) :
    ∃ group, cs = group ++ rest ∧ group.length ≤ 4 ∧ ∀ c ∈ group, isHexDigit c = true := by
  simp only [hexGroup?] at h
  split at h
  · cases h
  · next hlength =>
    obtain ⟨m, -, hpair⟩ := Option.map_eq_some_iff.mp h
    cases hpair
    rw [Bool.or_eq_true, not_or, decide_eq_true_eq] at hlength
    refine ⟨cs.takeWhile isHexDigit, ?_, Nat.le_of_not_lt hlength.2, ?_⟩
    · exact (List.prefix_iff_eq_append.mp (List.takeWhile_prefix _)).symm
    · exact fun c hc => List.all_eq_true.mp List.all_takeWhile c hc

/-- What may stand between the colons of an address: a few hexadecimal digits, or a quad. -/
structure IsPiece (cs : List Char) : Prop where
  chars : ∀ c ∈ cs, isHexDigit c = true ∨ c = '.'
  length_le : '.' ∉ cs → cs.length ≤ 4

theorem IsPiece.colon_notMem (h : IsPiece cs) : ':' ∉ cs := by
  intro hmem
  have hcolon := h.chars ':' hmem
  revert hcolon
  decide

theorem isHexDigit_of_isDigit {c : Char} (h : c.isDigit = true) : isHexDigit c = true := by
  rw [isHexDigit, h, Bool.true_or, Bool.true_or]

theorem point_mem_of_quad? (h : quad? cs = some n) : '.' ∈ cs := by
  obtain ⟨hlength, -, -⟩ := quad?_eq_some_iff.mp h
  match hparts : pointParts cs, hlength with
  | p :: q :: rest, _ =>
    rw [← intercalate_pointParts cs, hparts, List.intercalate_cons_cons]
    simp

/-- A quad has a point, so nothing is said of its length. -/
theorem IsPiece.of_quad? (h : quad? cs = some n) : IsPiece cs :=
  ⟨fun c hc => (isDigit_or_point_of_quad? h c hc).imp_left isHexDigit_of_isDigit,
    fun hpoint => absurd (point_mem_of_quad? h) hpoint⟩

theorem IsPiece.of_group (hlength : cs.length ≤ 4) (hdigits : ∀ c ∈ cs, isHexDigit c = true) :
    IsPiece cs :=
  ⟨fun c hc => .inl (hdigits c hc), fun _ => hlength⟩

/-- Pieces with colons between them, and one before them too unless they come first. -/
def joined (first : Bool) (pieces : List (List Char)) : List Char :=
  if first then [':'].intercalate pieces else pieces.flatMap (':' :: ·)

theorem intercalate_cons (piece : List Char) (pieces : List (List Char)) :
    [':'].intercalate (piece :: pieces) = piece ++ pieces.flatMap (':' :: ·) := by
  induction pieces generalizing piece with
  | nil => simp
  | cons next pieces ih => rw [List.intercalate_cons_cons, ih]; simp

/-- A piece stands at the start, or behind the colon in front of it. -/
theorem joined_cons {first : Bool} {start piece pieces : List Char}
    {more : List (List Char)} (hstart : (if first then some cs else after? ':' cs) = some start)
    (hpiece : start = piece ++ rest) (hrest : rest = joined false more ++ pieces) :
    cs = joined first (piece :: more) ++ pieces := by
  cases first with
  | true =>
    cases hstart
    rw [joined, if_pos rfl, intercalate_cons, hpiece, hrest, List.append_assoc]
    rfl
  | false =>
    rw [after?_eq_some hstart, hpiece, hrest]
    simp [joined]

/-- Groups are read off pieces of the text, at most one of which makes two groups. -/
theorem readGroups_eq (first : Bool) (room : Nat) (cs : List Char) :
    ∃ pieces, (∀ p ∈ pieces, IsPiece p) ∧
      cs = joined first pieces ++ (readGroups first room cs).rest ∧
      (readGroups first room cs).values.length ≤ pieces.length + 1 := by
  induction room generalizing first cs with
  | zero => exact ⟨[], by simp, by cases first <;> rfl, by simp [readGroups]⟩
  | succ room ih =>
    unfold readGroups
    dsimp only
    split
    · next n rest hquad =>
      split at hquad
      · next hroom =>
        obtain ⟨start, hstart, hread⟩ := Option.bind_eq_some_iff.mp hquad
        obtain ⟨quad, hcs, hquad⟩ := leadingQuad?_eq_some hread
        exact ⟨[quad], by simpa using IsPiece.of_quad? hquad, joined_cons hstart hcs rfl,
          Nat.le_refl 2⟩
      · cases hquad
    · split
      · next n rest hgroup =>
        obtain ⟨start, hstart, hread⟩ := Option.bind_eq_some_iff.mp hgroup
        obtain ⟨group, hcs, hlength, hdigits⟩ := hexGroup?_eq_some hread
        obtain ⟨pieces, hpieces, hrest, hcount⟩ := ih false rest
        exact ⟨group :: pieces, List.forall_mem_cons.mpr ⟨.of_group hlength hdigits, hpieces⟩,
          joined_cons hstart hcs hrest, Nat.succ_le_succ hcount⟩
      · exact ⟨[], by simp, by cases first <;> rfl, by simp⟩

/-- No pieces at all are the same text as one that is empty. -/
theorem exists_piece {pieces : List (List Char)} (h : ∀ p ∈ pieces, IsPiece p) :
    ∃ p ps, [':'].intercalate pieces = [':'].intercalate (p :: ps) ∧ ∀ q ∈ p :: ps, IsPiece q := by
  cases pieces with
  | nil => exact ⟨[], [], rfl, by simpa using IsPiece.of_group (by simp) (by simp)⟩
  | cons p ps => exact ⟨p, ps, rfl, h⟩

/-- An address of the second family is pieces with colons between them, at least three of them. Some
are empty where zeros are left out. -/
theorem v6?_eq_some (h : v6? cs = some n) :
    ∃ pieces, cs = [':'].intercalate pieces ∧ (∀ p ∈ pieces, IsPiece p) ∧ 3 ≤ pieces.length := by
  obtain ⟨pieces, hpieces, hcs, hcount⟩ := readGroups_eq true 8 cs
  simp only [v6?] at h
  split at h
  · next hfull =>
    split at h
    · next hend =>
      rw [List.isEmpty_iff.mp hend, List.append_nil] at hcs
      exact ⟨pieces, hcs, hpieces, by omega⟩
    · cases h
  · split at h
    · cases h
    · split at h
      · next rest hrest =>
        split at h
        · next hend =>
          -- nothing may stand on either side of the double colon
          obtain ⟨more, hmore, hrest', -⟩ :=
            readGroups_eq true (7 - (readGroups true 8 cs).values.length) rest
          obtain ⟨p, ps, hps, hp⟩ := exists_piece hpieces
          obtain ⟨q, qs, hqs, hq⟩ := exists_piece hmore
          rw [List.isEmpty_iff.mp hend, List.append_nil, joined, if_pos rfl, hqs,
            intercalate_cons] at hrest'
          rw [hrest, joined, if_pos rfl, hps, intercalate_cons, hrest'] at hcs
          refine ⟨p :: ps ++ [] :: q :: qs, ?_, ?_, by simp; omega⟩
          · rw [hcs, List.cons_append, intercalate_cons]
            simp
          · have hempty : IsPiece [] := .of_group (by simp) (by simp)
            exact List.forall_mem_append.mpr ⟨hp, List.forall_mem_cons.mpr ⟨hempty, hq⟩⟩
        · cases h
      · cases h

end Address

namespace AddressPattern

open Address

variable {c : Char} {s : String} {address : Address}

theorem allows_iff : addressStyle.allows c = true ↔ isHexDigit c = true ∨ c = '.' ∨ c = ':' := by
  simp [addressStyle, or_assoc]

theorem isHexDigit_iff : isHexDigit c = true ↔ (0x30 ≤ c.toNat ∧ c.toNat ≤ 0x39) ∨
    (0x61 ≤ c.toNat ∧ c.toNat ≤ 0x66) ∨ (0x41 ≤ c.toNat ∧ c.toNat ≤ 0x46) := by
  simp only [isHexDigit, Char.isDigit, Char.le_def, UInt32.le_iff_toNat_le, Bool.or_eq_true,
    Bool.and_eq_true, decide_eq_true_eq, or_assoc]
  rfl

theorem not_blank_of_allows (h : addressStyle.allows c = true) : Text.isBlank c = false := by
  rcases allows_iff.mp h with hhex | rfl | rfl
  · rw [isHexDigit_iff] at hhex
    exact Text.not_blank_of_visible (by omega) (by omega)
  · decide
  · decide

/-- A text of what addresses are written with is the pattern of one address or none. -/
theorem ofText_of_allows [Regex.Library] (h : ∀ c ∈ s.toList, addressStyle.allows c = true) :
    ofText s = if isQuad s || looksLikeV6 s then exact (Text.lowerAscii s) else invalid s := by
  have htrim : Text.trimBlanks s.toList = s.toList :=
    Text.trimBlanks_of_not_blank fun c hc => not_blank_of_allows (h c hc)
  have hplain : hasWildcard s.toList = false := by
    rw [hasWildcard, List.any_eq_false]
    intro c hc hwild
    rcases Bool.or_eq_true_iff.mp hwild with heq | heq <;> cases eq_of_beq heq
    · exact Text.notMem_of_not h (by decide) hc
    · exact Text.notMem_of_not h (by decide) hc
  have hsplit := splitAtSlash?_eq_none (Text.notMem_of_not h (by decide))
  unfold ofText
  simp only [htrim, hplain, hsplit, String.ofList_toList, Bool.false_eq_true, if_false]

/-- A text of what addresses are written with matches itself if it is a pattern. -/
theorem matchesText_self [Regex.Library] (h : ∀ c ∈ s.toList, addressStyle.allows c = true) :
    (ofText s).matchesText s = !(ofText s).isInvalid := by
  have htrim : Text.trimBlanks s.toList = s.toList :=
    Text.trimBlanks_of_not_blank fun c hc => not_blank_of_allows (h c hc)
  have hlower : Text.eqIgnoringCase s (Text.lowerAscii s) = true := by
    simp only [Text.eqIgnoringCase, Text.lowerAscii, String.toList_ofList, List.map_map,
      Function.comp_def, Text.toLower_toLower, beq_self_eq_true]
  rw [ofText_of_allows h]
  split
  · simp only [matchesText, htrim, String.ofList_toList, hlower]
    rfl
  · rfl

/-- Each piece but the first has a colon in front of it. -/
theorem count_colon_intercalate {p : List Char} {pieces : List (List Char)}
    (h : ∀ q ∈ p :: pieces, ':' ∉ q) :
    ([':'].intercalate (p :: pieces)).count ':' = pieces.length := by
  induction pieces generalizing p with
  | nil => simpa [List.count_eq_zero] using h
  | cons q pieces ih =>
    obtain ⟨hp, hrest⟩ := List.forall_mem_cons.mp h
    rw [List.intercalate_cons_cons, List.count_append, List.count_append, ih hrest,
      List.count_eq_zero.mpr hp]
    simp [Nat.add_comm]

/-- A point stands in no group, so what remains are groups of at most four digits. -/
theorem isGroup_iff {p : List Char} (h : IsPiece p) :
    (p.length ≤ 4 && p.all isHexDigit) = true ↔ '.' ∉ p := by
  rw [Bool.and_eq_true, decide_eq_true_eq, List.all_eq_true]
  constructor
  · rintro ⟨-, hhex⟩
    exact Text.notMem_of_not hhex (by decide)
  · intro hpoint
    refine ⟨h.length_le hpoint, fun c hc => (h.chars c hc).resolve_right ?_⟩
    rintro rfl
    exact hpoint hc

/-- An address of the second family looks like one unless it ends in a quad or has eight colons. -/
theorem looksLikeV6_iff {n : Nat} (h : v6? s.toList = some n) :
    looksLikeV6 s = true ↔ '.' ∉ s.toList ∧ s.toList.count ':' ≤ 7 := by
  obtain ⟨pieces, hcs, hpieces, hlength⟩ := v6?_eq_some h
  have hcolon : ∀ p ∈ pieces, ':' ∉ p := fun p hp => (hpieces p hp).colon_notMem
  have hsplit : s.toList.splitOnP (· == ':') = pieces := by
    rw [hcs]
    exact List.splitOn_intercalate ':' hcolon (by rintro rfl; cases hlength)
  obtain ⟨p, ps, rfl⟩ : ∃ p ps, pieces = p :: ps :=
    List.exists_cons_of_ne_nil (by rintro rfl; cases hlength)
  have hcount : s.toList.count ':' = ps.length := by
    rw [hcs, count_colon_intercalate hcolon]
  have hpoint : '.' ∈ s.toList ↔ ∃ q ∈ p :: ps, '.' ∈ q := by
    simp [hcs, intercalate_cons]
  have hgroups : (p :: ps).all (fun g => g.length ≤ 4 && g.all isHexDigit) = true ↔
      '.' ∉ s.toList := by
    rw [List.all_eq_true, hpoint, not_exists]
    simp only [not_and]
    exact forall₂_congr fun q hq => isGroup_iff (hpieces q hq)
  rw [List.length_cons] at hlength
  rw [looksLikeV6, hsplit]
  simp only [Bool.and_eq_true, decide_eq_true_eq, hgroups, List.length_cons]
  constructor
  · rintro ⟨⟨-, hle⟩, hnone⟩
    exact ⟨hnone, by omega⟩
  · rintro ⟨hnone, hle⟩
    exact ⟨⟨hlength, by omega⟩, hnone⟩

/-- An address of the second family has a colon, so it is no quad. -/
theorem not_isQuad_of_v6? {n : Nat} (h : v6? s.toList = some n) : isQuad s = false := by
  obtain ⟨pieces, hcs, -, hlength⟩ := v6?_eq_some h
  have hcolon : ':' ∈ s.toList := by
    match pieces, hlength with
    | p :: q :: ps, _ =>
      rw [hcs, List.intercalate_cons_cons]
      simp
  rw [isQuad, Option.isSome_eq_false_iff, Option.isNone_iff_eq_none,
    Option.eq_none_iff_forall_ne_some]
  intro m hquad
  exact (IsPiece.of_quad? hquad).colon_notMem hcolon

theorem allows_of_quad? {cs : List Char} {n : Nat} (h : quad? cs = some n) :
    ∀ c ∈ cs, addressStyle.allows c = true := by
  intro c hc
  rcases isDigit_or_point_of_quad? h c hc with hdigit | hpoint
  · exact allows_iff.mpr (.inl (isHexDigit_of_isDigit hdigit))
  · exact allows_iff.mpr (.inr (.inl hpoint))

theorem allows_of_v6? {n : Nat} (h : v6? s.toList = some n) :
    ∀ c ∈ s.toList, addressStyle.allows c = true := by
  obtain ⟨pieces, hcs, hpieces, -⟩ := v6?_eq_some h
  intro c hc
  rw [hcs] at hc
  rcases mem_intercalate hc with rfl | ⟨p, hp, hmem⟩
  · exact allows_iff.mpr (.inr (.inr rfl))
  · exact allows_iff.mpr (((hpieces p hp).chars c hmem).imp_right .inl)

/-- An address that is read in full is a pattern and matches its own text, unless it is of the
second family and ends in a quad or has eight colons, as it does where a double colon at one end
stands for a single group. Then it is no pattern and matches nothing. -/
theorem matches_own_text [Regex.Library] (h : Address.ofText? s = some address) :
    ((ofText s).isInvalid = true ↔
      (∃ bits, address = .v6 bits) ∧ ('.' ∈ s.toList ∨ 7 < s.toList.count ':')) ∧
    (ofText s).matchesText s = !(ofText s).isInvalid := by
  unfold Address.ofText? at h
  split at h
  · next n hleading =>
    cases h
    obtain ⟨quad, hs, hquad⟩ := leadingQuad?_eq_some hleading
    rw [List.append_nil] at hs
    rw [← hs] at hquad
    refine ⟨?_, matchesText_self (allows_of_quad? hquad)⟩
    rw [ofText_quad hquad]
    simp [isInvalid]
  · cases h
  · obtain ⟨n, hv6, rfl⟩ := Option.map_eq_some_iff.mp h
    have hallows := allows_of_v6? hv6
    refine ⟨?_, matchesText_self hallows⟩
    have hlooks : looksLikeV6 s = false ↔ '.' ∈ s.toList ∨ 7 < s.toList.count ':' := by
      rw [Bool.eq_false_iff, Ne, looksLikeV6_iff hv6, Decidable.not_and_iff_not_or_not,
        Decidable.not_not, Nat.not_le]
    rw [ofText_of_allows hallows, not_isQuad_of_v6? hv6, Bool.false_or, ← hlooks]
    cases looksLikeV6 s <;> simp [isInvalid]

/-- Groups left out in the middle, and letters in both cases. -/
theorem matches_own_text_of_shortened :
    Address.ofText? "2001:DB8::a:1" = some (.v6 42540766411282592856903984951654481921) ∧
      (ofText "2001:DB8::a:1").isInvalid = false ∧
      (ofText "2001:DB8::a:1").matchesText "2001:DB8::a:1" = true := by
  have hread : Address.ofText? "2001:DB8::a:1" =
      some (.v6 42540766411282592856903984951654481921) := by
    decide
  obtain ⟨hinvalid, hmatches⟩ := matches_own_text hread
  have hvalid : (ofText "2001:DB8::a:1").isInvalid = false := by
    rw [Bool.eq_false_iff, Ne, hinvalid]
    rintro ⟨-, hpoint | hcolons⟩
    · revert hpoint
      decide
    · revert hcolons
      decide
  exact ⟨hread, hvalid, by rw [hmatches, hvalid, Bool.not_false]⟩

/-- A quad at the end, and one group left out at the end: both are addresses and no patterns. -/
theorem matches_not_own_text :
    Address.ofText? "::ffff:10.0.0.1" = some (.v6 281470849515521) ∧
      (ofText "::ffff:10.0.0.1").isInvalid = true ∧
      (ofText "::ffff:10.0.0.1").matchesText "::ffff:10.0.0.1" = false ∧
      Address.ofText? "1:2:3:4:5:6:7::" = some (.v6 5192455318486707404433266433261568) ∧
      (ofText "1:2:3:4:5:6:7::").isInvalid = true ∧
      (ofText "1:2:3:4:5:6:7::").matchesText "1:2:3:4:5:6:7::" = false := by
  decide

end AddressPattern

end NetQuery
