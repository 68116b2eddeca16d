import NetQuery.Address.Pattern
import NetQuery.Library
import NetQuery.Proofs.Address.Quads

namespace NetQuery

namespace AddressPattern

open Number Address

variable {bits x y : Nat}

/-- The first `count` of the 32 bits of two numbers are the same. -/
def SameLeadingBits (count x y : Nat) : Prop :=
  ∀ i < count, x.testBit (width - 1 - i) = y.testBit (width - 1 - i)

instance (count x y : Nat) : Decidable (SameLeadingBits count x y) :=
  inferInstanceAs (Decidable (∀ i < count, _))

theorem testBit_mask (hbits : bits ≤ width) (i : Nat) :
    (mask bits).testBit i = (decide (width - bits ≤ i) && decide (i < width)) := by
  rw [mask, blockSize, Nat.testBit_mul_two_pow, Nat.testBit_two_pow_sub_one]
  by_cases hlow : width - bits ≤ i
  · have hiff : i - (width - bits) < bits ↔ i < width := by omega
    simp [hlow, hiff]
  · simp [hlow]

theorem testBit_of_le_width (hx : x < 2 ^ width) {i : Nat} (hi : width ≤ i) :
    x.testBit i = false :=
  Nat.testBit_lt_two_pow (Nat.lt_of_lt_of_le hx (Nat.pow_le_pow_right (by decide) hi))

/-- The first address of a block is any of its addresses under the mask. -/
theorem div_mul_blockSize (hbits : bits ≤ width) (hx : x < 2 ^ width) :
    x / blockSize bits * blockSize bits = x &&& mask bits := by
  apply Nat.eq_of_testBit_eq
  intro i
  rw [Nat.testBit_and, testBit_mask hbits, blockSize, Nat.testBit_mul_two_pow,
    Nat.testBit_div_two_pow]
  by_cases hlow : width - bits ≤ i
  · rw [Nat.sub_add_cancel hlow]
    by_cases hhigh : i < width
    · simp [hlow, hhigh]
    · simp [hlow, hhigh, testBit_of_le_width hx (Nat.le_of_not_lt hhigh)]
  · simp [hlow]

/-- What two numbers have in common under a mask are their leading bits. -/
theorem and_mask_eq_iff (hbits : bits ≤ width) :
    y &&& mask bits = x &&& mask bits ↔ SameLeadingBits bits x y := by
  constructor
  · intro h i hi
    have hbit := congrArg (Nat.testBit · (width - 1 - i)) h
    simp only [Nat.testBit_and, testBit_mask hbits] at hbit
    have hlow : width - bits ≤ width - 1 - i := by omega
    have hhigh : width - 1 - i < width := by
      unfold width
      omega
    simpa [hlow, hhigh] using hbit.symm
  · intro h
    apply Nat.eq_of_testBit_eq
    intro i
    rw [Nat.testBit_and, Nat.testBit_and, testBit_mask hbits]
    by_cases hin : width - bits ≤ i ∧ i < width
    · have hsame := h (width - 1 - i) (by omega)
      rw [show width - 1 - (width - 1 - i) = i by omega] at hsame
      rw [hsame]
    · have hout : (decide (width - bits ≤ i) && decide (i < width)) = false := by
        simpa using hin
      rw [hout, Bool.and_false, Bool.and_false]

theorem SameLeadingBits.mono {count count' : Nat} (h : SameLeadingBits count x y)
    (hle : count' ≤ count) : SameLeadingBits count' x y :=
  fun i hi => h i (Nat.lt_of_lt_of_le hi hle)

theorem sameLeadingBits_width_iff (hx : x < 2 ^ width) (hy : y < 2 ^ width) :
    SameLeadingBits width x y ↔ x = y := by
  constructor
  · intro h
    apply Nat.eq_of_testBit_eq
    intro i
    by_cases hi : i < width
    · have hsame := h (width - 1 - i) (by omega)
      rwa [show width - 1 - (width - 1 - i) = i by omega] at hsame
    · rw [testBit_of_le_width hx (Nat.le_of_not_lt hi),
        testBit_of_le_width hy (Nat.le_of_not_lt hi)]
  · rintro rfl i -
    rfl

section Texts

variable {a b size : String} {n : Nat}

/-- What quads and blocks are written with. -/
def isBlockChar (c : Char) : Bool :=
  c.isDigit || c == '.' || c == '/'

theorem isBlockChar_iff {c : Char} :
    isBlockChar c = true ↔ c.isDigit = true ∨ c = '.' ∨ c = '/' := by
  simp [isBlockChar, or_assoc]

theorem isBlockChar_of_quad? {cs : List Char} (h : quad? cs = some x) :
    ∀ c ∈ cs, isBlockChar c = true := by
  intro c hc
  rcases isDigit_or_point_of_quad? h c hc with hdigit | hpoint
  · exact isBlockChar_iff.mpr (.inl hdigit)
  · exact isBlockChar_iff.mpr (.inr (.inl hpoint))

/-- A character of blocks is no blank and no wildcard. -/
theorem isBlockChar_cases {c : Char} (h : isBlockChar c = true) :
    Text.isBlank c = false ∧ c ≠ '*' ∧ c ≠ '?' := by
  rcases isBlockChar_iff.mp h with hdigit | rfl | rfl
  · refine ⟨Text.not_blank_of_isDigit hdigit, ?_, ?_⟩ <;> rintro rfl <;> revert hdigit <;> decide
  · decide
  · decide

theorem toLower_of_isBlockChar {c : Char} (h : isBlockChar c = true) : c.toLower = c := by
  rcases isBlockChar_iff.mp h with hdigit | rfl | rfl
  · exact Text.toLower_of_isDigit hdigit
  · rfl
  · rfl

theorem lowerAscii_of_isBlockChar {s : String} (h : ∀ c ∈ s.toList, isBlockChar c = true) :
    Text.lowerAscii s = s := by
  have hsame : s.toList.map Char.toLower = s.toList :=
    (List.map_congr_left fun c hc => toLower_of_isBlockChar (h c hc)).trans (List.map_id _)
  rw [Text.lowerAscii, hsame, String.ofList_toList]

theorem trimBlanks_of_isBlockChar {cs : List Char} (h : ∀ c ∈ cs, isBlockChar c = true) :
    Text.trimBlanks cs = cs ∧ hasWildcard cs = false := by
  refine ⟨Text.trimBlanks_of_not_blank fun c hc => (isBlockChar_cases (h c hc)).1, ?_⟩
  rw [hasWildcard, List.any_eq_false]
  intro c hc
  obtain ⟨-, hstar, hquestion⟩ := isBlockChar_cases (h c hc)
  simp [hstar, hquestion]

theorem splitAtSlash?_append {cs ds : List Char} (h : '/' ∉ cs) :
    splitAtSlash? (cs ++ '/' :: ds) = some (cs, ds) := by
  have hrun := Text.bne_of_notMem h
  have hend : ∀ c ∈ ('/' :: ds).head?, (c != '/') = false := by
    rintro _ ⟨⟩
    rfl
  simp only [splitAtSlash?, Text.takeWhile_run hrun hend, Text.dropWhile_run hrun hend]

theorem splitAtSlash?_eq_none {cs : List Char} (h : '/' ∉ cs) : splitAtSlash? cs = none := by
  have hrest := Text.dropWhile_run (x := []) (Text.bne_of_notMem h) (by simp)
  rw [List.append_nil] at hrest
  simp only [splitAtSlash?, hrest]

theorem slash_notMem_of_quad? {cs : List Char} (h : quad? cs = some x) : '/' ∉ cs := by
  intro hmem
  rcases isDigit_or_point_of_quad? h '/' hmem with hdigit | hpoint
  · revert hdigit
    decide
  · revert hpoint
    decide

/-- A quad and a number of bits make a block where the number is at most 32. -/
theorem block?_eq {cs ds : List Char} (hcs : quad? cs = some x) (hds : readDigits? ds = some n) :
    block? cs ds = if n ≤ width then some (block (x &&& mask n) n) else none := by
  have hread := readUnsigned?_of_readDigits? hds maxWord
  rw [block?, hcs, hread]
  by_cases hn : n ≤ width
  · have hword : n ≤ maxWord := Nat.le_trans hn (by decide)
    rw [if_pos hword, if_pos hn, ← div_mul_blockSize hn (quad?_lt hcs)]
    simp only [Option.bind_eq_bind, Option.bind_some, Option.filter_some, hn, decide_true, if_true]
  · rw [if_neg hn]
    split
    · simp only [Option.bind_eq_bind, Option.bind_some, Option.filter_some, hn, decide_false,
        Bool.false_eq_true, if_false, Option.bind_none]
    · rfl

theorem ofText_block [Regex.Library] (ha : quad? a.toList = some x)
    (hsize : readDigits? size.toList = some n) :
    ofText (a ++ "/" ++ size) =
      if n ≤ width then .block (x &&& mask n) n else .invalid (a ++ "/" ++ size) := by
  have htext : (a ++ "/" ++ size).toList = a.toList ++ '/' :: size.toList := by simp
  have hchars : ∀ c ∈ (a ++ "/" ++ size).toList, isBlockChar c = true := by
    intro c hc
    rw [htext] at hc
    rcases List.mem_append.mp hc with hc | hc
    · exact isBlockChar_of_quad? ha c hc
    · rcases List.mem_cons.mp hc with rfl | hc
      · rfl
      · exact isBlockChar_iff.mpr (.inl ((readDigits?_eq_some_iff.mp hsize).2.1 c hc))
  obtain ⟨htrim, hplain⟩ := trimBlanks_of_isBlockChar hchars
  have hsplit : splitAtSlash? (a ++ "/" ++ size).toList = some (a.toList, size.toList) := by
    rw [htext, splitAtSlash?_append (slash_notMem_of_quad? ha)]
  unfold ofText
  simp only [htrim, hplain, hsplit, Bool.false_eq_true, if_false, block?_eq ha hsize,
    String.ofList_toList]
  split <;> rfl

/-- A block matches the quads with the same bits under its mask. -/
theorem matchesText_block_iff (hbits : bits ≤ width) :
    (block (x &&& mask bits) bits).matchesText b = true ↔
      ∃ y, quad? (Text.trimBlanks b.toList) = some y ∧ SameLeadingBits bits x y := by
  simp only [matchesText, Option.any_eq_true, beq_iff_eq]
  constructor
  · rintro ⟨y, hy, hsame⟩
    rw [div_mul_blockSize hbits (quad?_lt hy), and_mask_eq_iff hbits] at hsame
    exact ⟨y, hy, hsame⟩
  · rintro ⟨y, hy, hsame⟩
    rw [← and_mask_eq_iff hbits, ← div_mul_blockSize hbits (quad?_lt hy)] at hsame
    exact ⟨y, hy, hsame⟩

theorem ofText_quad [Regex.Library] (ha : quad? a.toList = some x) : ofText a = .exact a := by
  have hchars := isBlockChar_of_quad? ha
  obtain ⟨htrim, hplain⟩ := trimBlanks_of_isBlockChar hchars
  have hsplit := splitAtSlash?_eq_none (slash_notMem_of_quad? ha)
  have hquad : isQuad a = true := by rw [isQuad, ha, Option.isSome_some]
  unfold ofText
  simp only [htrim, hplain, hsplit, String.ofList_toList, hquad, Bool.true_or, if_true,
    Bool.false_eq_true, if_false, lowerAscii_of_isBlockChar hchars]

/-- The pattern of one address matches no other text of digits and points. -/
theorem matchesText_exact_iff (ha : quad? a.toList = some x) (hb : quad? b.toList = some y) :
    (exact a).matchesText b = true ↔ a = b := by
  have htrim := (trimBlanks_of_isBlockChar (isBlockChar_of_quad? hb)).1
  simp only [matchesText, htrim, String.ofList_toList, Text.eqIgnoringCase,
    lowerAscii_of_isBlockChar (isBlockChar_of_quad? ha),
    lowerAscii_of_isBlockChar (isBlockChar_of_quad? hb), beq_iff_eq]
  exact eq_comm

/-- A quad with a slash and a decimal number behind it is a block where the number is at most 32,
and no pattern beyond that. The block matches the quads that begin with so many bits of the first
one, and so a longer prefix makes a block within that of a shorter one. -/
theorem block_matches_leading_bits [Regex.Library] (ha : quad? a.toList = some x) :
    (∀ size n, readDigits? size.toList = some n →
      ((ofText (a ++ "/" ++ size)).isInvalid = true ↔ width < n) ∧
      (n ≤ width → ∀ b, (ofText (a ++ "/" ++ size)).matchesText b = true ↔
        ∃ y, quad? (Text.trimBlanks b.toList) = some y ∧ SameLeadingBits n x y)) ∧
    ∀ size size' n m, readDigits? size.toList = some n → readDigits? size'.toList = some m →
      n ≤ m → ∀ b, (ofText (a ++ "/" ++ size')).matchesText b = true →
        (ofText (a ++ "/" ++ size)).matchesText b = true := by
  have hmatches {size : String} {n : Nat} (hsize : readDigits? size.toList = some n)
      (hn : n ≤ width) (b : String) : (ofText (a ++ "/" ++ size)).matchesText b = true ↔
        ∃ y, quad? (Text.trimBlanks b.toList) = some y ∧ SameLeadingBits n x y := by
    rw [ofText_block ha hsize, if_pos hn]
    exact matchesText_block_iff hn
  refine ⟨?_, ?_⟩
  · intro size n hsize
    refine ⟨?_, hmatches hsize⟩
    rw [ofText_block ha hsize]
    split
    · next hn => simp [isInvalid, hn]
    · next hn => simp [isInvalid, Nat.lt_of_not_le hn]
  · intro size size' n m hsize hsize' hle b hb
    by_cases hm : m ≤ width
    · obtain ⟨y, hy, hsame⟩ := (hmatches hsize' hm b).mp hb
      exact (hmatches hsize (Nat.le_trans hle hm) b).mpr ⟨y, hy, hsame.mono hle⟩
    · rw [ofText_block ha hsize', if_neg hm] at hb
      cases hb

/-- Twelve bits reach to the middle of the second octet. -/
theorem block_matches_leading_bits_of_twelve_bits :
    (ofText "172.016.0.9/012").isInvalid = false ∧
      (ofText "172.016.0.9/012").matchesText " 172.31.255.255 " = true ∧
      (ofText "172.016.0.9/012").matchesText "172.32.0.0" = false ∧
      (ofText "172.016.0.9/33").isInvalid = true := by
  have ha : quad? "172.016.0.9".toList = some 2886729737 := by decide
  have hsize : readDigits? "012".toList = some 12 := by decide
  have hlong : readDigits? "33".toList = some 33 := by decide
  obtain ⟨hvalid, hmatches⟩ := (block_matches_leading_bits ha).1 "012" 12 hsize
  refine ⟨?_, ?_, ?_, ?_⟩
  · rw [Bool.eq_false_iff]
    exact mt hvalid.mp (by decide)
  · refine (hmatches (by decide) _).mpr ⟨2887778303, by decide, by decide⟩
  · rw [Bool.eq_false_iff]
    intro hmatch
    obtain ⟨y, hy, hsame⟩ := (hmatches (by decide) _).mp hmatch
    have hother : quad? (Text.trimBlanks "172.32.0.0".toList) = some 2887778304 := by
      decide
    rw [hother] at hy
    cases hy
    revert hsame
    decide
  · exact ((block_matches_leading_bits ha).1 "33" 33 hlong).1.mpr (by decide)

/-- The pattern of one address matches its text, and the block of its 32 bits matches the texts with
the same values of octets. Both answer alike but for other texts of the same values, and those need
a zero in front of an octet. -/
theorem exact_answers_like_block [Regex.Library] (ha : isQuad a = true) (hb : isQuad b = true) :
    ((ofText a).matchesText b = true ↔ a = b) ∧
      ((ofText (a ++ "/32")).matchesText b = true ↔
        octetValues a.toList = octetValues b.toList) ∧
      ((ofText a).matchesText b = (ofText (a ++ "/32")).matchesText b ↔
        (octetValues a.toList = octetValues b.toList → a = b)) ∧
      (IsPlain a.toList → IsPlain b.toList →
        (ofText a).matchesText b = (ofText (a ++ "/32")).matchesText b) := by
  obtain ⟨x, hx⟩ := Option.isSome_iff_exists.mp ha
  obtain ⟨y, hy⟩ := Option.isSome_iff_exists.mp hb
  have hexact : (ofText a).matchesText b = true ↔ a = b := by
    rw [ofText_quad hx]
    exact matchesText_exact_iff hx hy
  have hblock : (ofText (a ++ "/32")).matchesText b = true ↔
      octetValues a.toList = octetValues b.toList := by
    have hsize : readDigits? "32".toList = some width := by decide
    have htrim := (trimBlanks_of_isBlockChar (isBlockChar_of_quad? hy)).1
    have htext : a ++ "/32" = a ++ "/" ++ "32" := by rw [String.append_assoc]; rfl
    rw [htext, ofText_block hx hsize, if_pos (Nat.le_refl _),
      matchesText_block_iff (Nat.le_refl _), htrim, octetValues_eq_iff hx hy]
    simp only [hy, Option.some.injEq, exists_eq_left']
    exact sameLeadingBits_width_iff (quad?_lt hx) (quad?_lt hy)
  have hvalues : a = b → octetValues a.toList = octetValues b.toList := by
    rintro rfl
    rfl
  have halike : (ofText a).matchesText b = (ofText (a ++ "/32")).matchesText b ↔
      (octetValues a.toList = octetValues b.toList → a = b) := by
    rw [Bool.eq_iff_iff, hexact, hblock]
    exact ⟨fun h => h.mpr, fun h => ⟨hvalues, h⟩⟩
  refine ⟨hexact, hblock, halike, fun hplain hplain' => halike.mpr fun h => ?_⟩
  obtain rfl : x = y := (octetValues_eq_iff hx hy).mp h
  exact String.toList_inj.mp (eq_of_isPlain hx hy hplain hplain')

/-- An address, and another one that begins with its text. -/
theorem exact_answers_like_block_of_longer_address :
    (ofText "192.168.1.7").matchesText "192.168.1.77" = false ∧
      (ofText "192.168.1.7/32").matchesText "192.168.1.77" = false := by
  have ha : isQuad "192.168.1.7" = true := by decide
  have hb : isQuad "192.168.1.77" = true := by decide
  obtain ⟨hexact, -, -, hplain⟩ := exact_answers_like_block ha hb
  have hfalse : (ofText "192.168.1.7").matchesText "192.168.1.77" = false := by
    rw [Bool.eq_false_iff]
    exact mt hexact.mp (by decide)
  exact ⟨hfalse, (hplain (by decide) (by decide)).symm.trans hfalse⟩

/-- With a zero in front of an octet the text of an address is another one, and the block of all its
bits matches it still. -/
theorem exact_answers_unlike_block :
    isQuad "10.0.0.1" = true ∧ isQuad "010.0.0.1" = true ∧
      (ofText "10.0.0.1").matchesText "010.0.0.1" = false ∧
      (ofText "10.0.0.1/32").matchesText "010.0.0.1" = true := by
  decide

end Texts

end AddressPattern

end NetQuery
