import NetQuery.Number.Decimal
import NetQuery.Proofs.Number.Digits

namespace NetQuery

namespace Number

variable {cs digits : List Char} {n : Nat} {negative : Bool} {x : Binary64}

theorem getLast?_of_readDigits? (h : readDigits? cs = some n) :
    ∃ c, cs.getLast? = some c ∧ c.isDigit = true := by
  obtain ⟨hne, hdigits, -⟩ := readDigits?_eq_some_iff.mp h
  exact ⟨_, List.getLast?_eq_some_getLast hne, hdigits _ (List.getLast_mem hne)⟩

theorem getLast?_of_readExponent? {e : Int} (h : readExponent? cs = some e) :
    ∃ c, cs.getLast? = some c ∧ c.isDigit = true := by
  have hsigned {sign : Char} {rest : List Char}
      (hrest : ∃ c, rest.getLast? = some c ∧ c.isDigit = true) :
      ∃ c, (sign :: rest).getLast? = some c ∧ c.isDigit = true := by
    obtain ⟨c, hlast, hc⟩ := hrest
    exact ⟨c, by rw [List.getLast?_cons, hlast, Option.getD_some], hc⟩
  unfold readExponent? at h
  split at h
  · obtain ⟨_, hm, -⟩ := Option.map_eq_some_iff.mp h
    obtain ⟨n, hn, -⟩ := Option.bind_eq_some_iff.mp hm
    exact hsigned (getLast?_of_readDigits? hn)
  · obtain ⟨n, hn, -⟩ := Option.map_eq_some_iff.mp h
    exact hsigned (getLast?_of_readDigits? hn)
  · obtain ⟨n, hn, -⟩ := Option.map_eq_some_iff.mp h
    exact getLast?_of_readDigits? hn

/-- The exponent behind the digits of a plain number, zero where nothing stands there. -/
def exponent? : List Char → Option Int
  | [] => some 0
  | c :: rest => if c == 'e' || c == 'E' then readExponent? rest else none

theorem exponent?_cases {tail : List Char} {e : Int} (h : exponent? tail = some e) :
    tail = [] ∨ ∃ c rest e, tail = c :: rest ∧ readExponent? rest = some e := by
  cases tail with
  | nil => exact .inl rfl
  | cons c rest =>
    simp only [exponent?] at h
    split at h
    · exact .inr ⟨c, rest, e, rfl, h⟩
    · cases h

/-- A plain number is made of digits and a point, and perhaps an exponent behind them. -/
theorem exists_mantissa_of_readPlain? (h : readPlain? negative cs = some x) :
    ∃ mantissa tail, cs = mantissa ++ tail ∧ mantissa ≠ [] ∧
      (∀ c ∈ mantissa, c.isDigit = true ∨ c = '.') ∧
      (tail = [] ∨ ∃ c rest e, tail = c :: rest ∧ readExponent? rest = some e) := by
  have hwhole : ∀ c ∈ cs.takeWhile Char.isDigit, c.isDigit = true ∨ c = '.' := fun c hc =>
    .inl (List.all_eq_true.mp List.all_takeWhile c hc)
  have hsplit : cs.takeWhile Char.isDigit ++ cs.dropWhile Char.isDigit = cs :=
    List.takeWhile_append_dropWhile
  unfold readPlain? at h
  simp only at h
  split at h
  · next rest hrest =>
    split at h
    · cases h
    · obtain ⟨e, he, -⟩ := Option.map_eq_some_iff.mp h
      refine ⟨cs.takeWhile Char.isDigit ++ '.' :: rest.takeWhile Char.isDigit,
        rest.dropWhile Char.isDigit, ?_, by simp, ?_, exponent?_cases he⟩
      · rw [List.append_assoc, List.cons_append, List.takeWhile_append_dropWhile, ← hrest, hsplit]
      · intro c hc
        rcases List.mem_append.mp hc with hc | hc
        · exact hwhole c hc
        · rcases List.mem_cons.mp hc with hpoint | hc
          · exact .inr hpoint
          · exact .inl (List.all_eq_true.mp List.all_takeWhile c hc)
  · split at h
    · cases h
    · next hne =>
      obtain ⟨e, he, -⟩ := Option.map_eq_some_iff.mp h
      exact ⟨cs.takeWhile Char.isDigit, cs.dropWhile Char.isDigit, hsplit.symm, by simpa using hne,
        hwhole, exponent?_cases he⟩

theorem head?_of_readPlain? (h : readPlain? negative cs = some x) :
    ∃ c, cs.head? = some c ∧ (c.isDigit = true ∨ c = '.') := by
  obtain ⟨mantissa, tail, rfl, hne, hmantissa, -⟩ := exists_mantissa_of_readPlain? h
  obtain ⟨c, rest, rfl⟩ := List.exists_cons_of_ne_nil hne
  exact ⟨c, rfl, hmantissa c List.mem_cons_self⟩

theorem getLast?_of_readPlain? (h : readPlain? negative cs = some x) :
    ∃ c, cs.getLast? = some c ∧ (c.isDigit = true ∨ c = '.') := by
  obtain ⟨mantissa, tail, rfl, hne, hmantissa, htail⟩ := exists_mantissa_of_readPlain? h
  rcases htail with rfl | ⟨c, rest, e, rfl, he⟩
  · rw [List.append_nil]
    exact ⟨_, List.getLast?_eq_some_getLast hne, hmantissa _ (List.getLast_mem hne)⟩
  · obtain ⟨d, hlast, hd⟩ := getLast?_of_readExponent? he
    refine ⟨d, ?_, .inl hd⟩
    rw [List.getLast?_append, List.getLast?_cons, hlast]
    rfl

theorem readMagnitude?_cases (h : readMagnitude? negative cs = some x) :
    (∃ word ∈ ["inf", "infinity"], String.ofList (cs.map Char.toLower) = word ∧
      x = .infinite negative) ∨
    (String.ofList (cs.map Char.toLower) = "nan" ∧ x = .nan) ∨ readPlain? negative cs = some x := by
  unfold readMagnitude? at h
  simp only at h
  split at h
  · next hinf => exact .inl ⟨_, by simpa using hinf, rfl, (Option.some.inj h).symm⟩
  · split at h
    · next hnan => exact .inr (.inl ⟨hnan, (Option.some.inj h).symm⟩)
    · exact .inr (.inr h)

theorem readBinary64?_cases {s : String} (h : readBinary64? s = some x) :
    ∃ sign rest negative, s.toList = sign ++ rest ∧ sign ∈ [[], ['-'], ['+']] ∧
      readMagnitude? negative rest = some x := by
  unfold readBinary64? at h
  split at h
  · next rest hs => exact ⟨['-'], rest, true, hs, by simp, h⟩
  · next rest hs => exact ⟨['+'], rest, false, hs, by simp, h⟩
  · exact ⟨[], s.toList, false, rfl, by simp, h⟩

def beginsNumber (c : Char) : Bool :=
  c.isDigit || ['.', '-', '+'].contains c || ['i', 'n'].contains c.toLower

def endsNumber (c : Char) : Bool :=
  c.isDigit || c == '.' || ['f', 'y', 'n'].contains c.toLower

theorem not_blank_of_beginsNumber {c : Char} (h : beginsNumber c = true) :
    Text.isBlank c = false := by
  simp only [beginsNumber, Bool.or_eq_true, List.contains_iff_mem] at h
  rcases h with (hdigit | hsign) | hletter
  · exact Text.not_blank_of_isDigit hdigit
  · have hsigns : ['.', '-', '+'].any Text.isBlank = false := by decide
    exact Bool.eq_false_iff.mpr (List.any_eq_false.mp hsigns c hsign)
  · have hletters : ['i', 'n'].any Text.isBlank = false := by decide
    exact Text.not_blank_of_toLower
      (Bool.eq_false_iff.mpr (List.any_eq_false.mp hletters _ hletter))

theorem not_blank_of_endsNumber {c : Char} (h : endsNumber c = true) : Text.isBlank c = false := by
  simp only [endsNumber, Bool.or_eq_true, List.contains_iff_mem, beq_iff_eq] at h
  rcases h with (hdigit | rfl) | hletter
  · exact Text.not_blank_of_isDigit hdigit
  · decide
  · have hletters : ['f', 'y', 'n'].any Text.isBlank = false := by decide
    exact Text.not_blank_of_toLower
      (Bool.eq_false_iff.mpr (List.any_eq_false.mp hletters _ hletter))

theorem ends_of_word {word : String} {first last : Char}
    (h : String.ofList (cs.map Char.toLower) = word) (hfirst : word.toList.head? = some first)
    (hlast : word.toList.getLast? = some last) :
    (∃ c, cs.head? = some c ∧ c.toLower = first) ∧
      ∃ c, cs.getLast? = some c ∧ c.toLower = last := by
  rw [← h, String.toList_ofList] at hfirst hlast
  rw [List.head?_map, Option.map_eq_some_iff] at hfirst
  rw [List.getLast?_map, Option.map_eq_some_iff] at hlast
  exact ⟨hfirst, hlast⟩

theorem ends_of_readMagnitude? (h : readMagnitude? negative cs = some x) :
    (∃ c, cs.head? = some c ∧ beginsNumber c = true) ∧
      ∃ c, cs.getLast? = some c ∧ endsNumber c = true := by
  have hword {word : String} {first last : Char}
      (hcs : String.ofList (cs.map Char.toLower) = word)
      (hfirst : word.toList.head? = some first) (hlast : word.toList.getLast? = some last)
      (hbegins : ['i', 'n'].contains first = true)
      (hends : ['f', 'y', 'n'].contains last = true) :
      (∃ c, cs.head? = some c ∧ beginsNumber c = true) ∧
        ∃ c, cs.getLast? = some c ∧ endsNumber c = true := by
    obtain ⟨⟨c, hc, rfl⟩, ⟨d, hd, rfl⟩⟩ := ends_of_word hcs hfirst hlast
    exact ⟨⟨c, hc, by rw [beginsNumber, hbegins, Bool.or_true]⟩,
      d, hd, by rw [endsNumber, hends, Bool.or_true]⟩
  rcases readMagnitude?_cases h with ⟨word, hmem, hcs, -⟩ | ⟨hcs, -⟩ | hplain
  · simp only [List.mem_cons, List.not_mem_nil, or_false] at hmem
    rcases hmem with rfl | rfl
    · exact hword hcs rfl rfl rfl rfl
    · exact hword hcs rfl rfl rfl rfl
  · exact hword hcs rfl rfl rfl rfl
  · obtain ⟨c, hfirst, hc⟩ := head?_of_readPlain? hplain
    obtain ⟨d, hlast, hd⟩ := getLast?_of_readPlain? hplain
    refine ⟨⟨c, hfirst, ?_⟩, d, hlast, ?_⟩
    · rcases hc with hc | rfl <;> simp [beginsNumber, *]
    · rcases hd with hd | rfl <;> simp [endsNumber, *]

/-- A text of a number begins with a sign, a digit, a point or the first letter of a word, and ends
in a digit, a point or the last letter of a word. -/
theorem ends_of_readBinary64? {s : String} (h : readBinary64? s = some x) :
    (∃ c, s.toList.head? = some c ∧ beginsNumber c = true) ∧
      ∃ c, s.toList.getLast? = some c ∧ endsNumber c = true := by
  obtain ⟨sign, rest, negative, hs, hsign, hrest⟩ := readBinary64?_cases h
  obtain ⟨hbegins, d, hlast, hd⟩ := ends_of_readMagnitude? hrest
  rw [hs, List.head?_append, List.getLast?_append, hlast]
  refine ⟨?_, d, rfl, hd⟩
  simp only [List.mem_cons, List.not_mem_nil, or_false] at hsign
  rcases hsign with rfl | rfl | rfl
  · exact hbegins
  · exact ⟨'-', rfl, by decide⟩
  · exact ⟨'+', rfl, by decide⟩

/-- No blanks stand around a number. -/
theorem trim_of_readBinary64? {s : String} (h : readBinary64? s = some x) : Text.trim s = s := by
  obtain ⟨⟨c, hfirst, hc⟩, d, hlast, hd⟩ := ends_of_readBinary64? h
  have htrimmed : Text.trimBlanks s.toList = s.toList := by
    apply Text.trimBlanks_eq_self
    · intro c' hc'
      obtain rfl := Option.some.inj (hfirst.symm.trans hc')
      exact not_blank_of_beginsNumber hc
    · intro d' hd'
      obtain rfl := Option.some.inj (hlast.symm.trans hd')
      exact not_blank_of_endsNumber hd
  rw [Text.trim, htrimmed, String.ofList_toList]

theorem ofUnits_ne_nan (num den : Nat) : Binary64.ofUnits negative num den ≠ .nan := by
  unfold Binary64.ofUnits
  intro h
  simp only at h
  split at h <;> split at h <;> cases h

theorem ofDecimal_ne_nan (exponent : Int) : Binary64.ofDecimal negative n exponent ≠ .nan := by
  unfold Binary64.ofDecimal Binary64.ofRatio
  intro h
  split at h
  · cases h
  · split at h
    · cases h
    · split at h
      · cases h
      · split at h <;> exact ofUnits_ne_nan _ _ h

/-- Digits always spell a number. -/
theorem readPlain?_ne_nan : readPlain? negative cs ≠ some .nan := by
  intro h
  unfold readPlain? at h
  simp only at h
  split at h
  all_goals
    split at h
    · cases h
    · obtain ⟨e, -, he⟩ := Option.map_eq_some_iff.mp h
      exact ofDecimal_ne_nan _ he

theorem readMagnitude?_eq_nan_iff :
    readMagnitude? negative cs = some .nan ↔ String.ofList (cs.map Char.toLower) = "nan" := by
  constructor
  · intro h
    rcases readMagnitude?_cases h with ⟨word, -, -, hx⟩ | ⟨hcs, -⟩ | hplain
    · cases hx
    · exact hcs
    · exact absurd hplain readPlain?_ne_nan
  · intro h
    simp only [readMagnitude?, h]
    rfl

/-- Only one word, in any case of its letters, with a sign or without, spells what is not a
number. -/
theorem readBinary64?_eq_nan_iff {s : String} :
    readBinary64? s = some .nan ↔ Text.lowerAscii s ∈ ["nan", "+nan", "-nan"] := by
  constructor
  · intro h
    obtain ⟨sign, rest, negative, hs, hsign, hrest⟩ := readBinary64?_cases h
    have hword := congrArg String.toList (readMagnitude?_eq_nan_iff.mp hrest)
    rw [String.toList_ofList] at hword
    rw [Text.lowerAscii, hs, List.map_append, hword]
    simp only [List.mem_cons, List.not_mem_nil, or_false] at hsign
    rcases hsign with rfl | rfl | rfl <;> decide
  · intro h
    have hsigned (sign : Char) (hsign : sign.isLower = false)
        (hword : Text.lowerAscii s = String.ofList (sign :: "nan".toList)) :
        ∃ rest, s.toList = sign :: rest ∧ String.ofList (rest.map Char.toLower) = "nan" := by
      obtain ⟨c, rest, hs, hc, hrest⟩ := List.map_eq_cons_iff.mp (String.ofList_injective hword)
      rw [Text.eq_of_toLower_eq hc hsign] at hs
      exact ⟨rest, hs, by rw [hrest, String.ofList_toList]⟩
    simp only [List.mem_cons, List.not_mem_nil, or_false] at h
    rcases h with hword | hword | hword
    · have hfirst {sign : Char} {rest : List Char} (hs : s.toList = sign :: rest) :
          sign.toLower = 'n' := by
        rw [Text.lowerAscii, hs] at hword
        exact (List.cons.inj (String.ofList_injective hword)).1
      unfold readBinary64?
      split
      · next hs => exact absurd (hfirst hs) (by decide)
      · next hs => exact absurd (hfirst hs) (by decide)
      · exact readMagnitude?_eq_nan_iff.mpr hword
    · obtain ⟨rest, hs, hrest⟩ := hsigned '+' rfl hword
      rw [readBinary64?, hs]
      exact readMagnitude?_eq_nan_iff.mpr hrest
    · obtain ⟨rest, hs, hrest⟩ := hsigned '-' rfl hword
      rw [readBinary64?, hs]
      exact readMagnitude?_eq_nan_iff.mpr hrest

/-- The text of a whole number is digits, perhaps with a sign before them. -/
theorem exists_digits_of_readInteger? {n : Int} (h : readInteger? cs = some n) :
    ∃ digits m, readDigits? digits = some m ∧
      ((cs = '-' :: digits ∧ n = -(m : Int)) ∨ ((cs = '+' :: digits ∨ cs = digits) ∧ n = m)) := by
  have hvalue {k n : Int} (hk : (if minInt64 ≤ k ∧ k ≤ maxInt64 then some k else none) = some n) :
      n = k := by
    split at hk
    · exact (Option.some.inj hk).symm
    · cases hk
  simp only [readInteger?] at h
  split at h
  · next rest =>
    obtain ⟨k, hk, hn⟩ := Option.bind_eq_some_iff.mp h
    obtain ⟨_, hm, rfl⟩ := Option.map_eq_some_iff.mp hk
    obtain ⟨m, hread, hm⟩ := Option.bind_eq_some_iff.mp hm
    cases hm
    exact ⟨rest, m, hread, .inl ⟨rfl, hvalue hn⟩⟩
  · next rest =>
    obtain ⟨k, hk, hn⟩ := Option.bind_eq_some_iff.mp h
    obtain ⟨m, hread, rfl⟩ := Option.map_eq_some_iff.mp hk
    exact ⟨rest, m, hread, .inr ⟨.inl rfl, hvalue hn⟩⟩
  · obtain ⟨k, hk, hn⟩ := Option.bind_eq_some_iff.mp h
    obtain ⟨m, hread, rfl⟩ := Option.map_eq_some_iff.mp hk
    exact ⟨cs, m, hread, .inr ⟨.inr rfl, hvalue hn⟩⟩

/-- A text with a digit is none of the words. -/
theorem readMagnitude?_eq_readPlain? {c : Char} (hc : c ∈ cs) (hdigit : c.isDigit = true)
    (negative : Bool) : readMagnitude? negative cs = readPlain? negative cs := by
  have hword (word : String) (hletters : word.toList.any Char.isDigit = false) :
      String.ofList (cs.map Char.toLower) ≠ word := by
    rintro rfl
    rw [String.toList_ofList, List.any_eq_false] at hletters
    apply hletters c.toLower (List.mem_map_of_mem hc)
    rw [Text.toLower_of_isDigit hdigit, hdigit]
  simp only [readMagnitude?, hword "inf" (by decide), hword "infinity" (by decide),
    hword "nan" (by decide), or_self, if_false]

theorem readMagnitude?_of_readDigits? (negative : Bool) (h : readDigits? digits = some n) :
    readMagnitude? negative digits = some (.ofDecimal negative n 0) := by
  obtain ⟨hne, hdigits, hvalue⟩ := readDigits?_eq_some_iff.mp h
  have hhead := List.head_mem hne
  have hwhole := Text.takeWhile_run (x := []) hdigits (by simp)
  have hrest := Text.dropWhile_run (x := []) hdigits (by simp)
  rw [List.append_nil] at hwhole hrest
  rw [readMagnitude?_eq_readPlain? hhead (hdigits _ hhead)]
  simp [readPlain?, hwhole, hrest, hne, hvalue]

/-- Digits and a dash after them spell no number, whatever follows. -/
theorem readMagnitude?_of_dash (hne : digits ≠ []) (hdigits : ∀ c ∈ digits, c.isDigit = true)
    (negative : Bool) (rest : List Char) :
    readMagnitude? negative (digits ++ '-' :: rest) = none := by
  have hhead := List.head_mem hne
  have hdash : ∀ c ∈ ('-' :: rest).head?, c.isDigit = false := by
    rintro _ ⟨⟩
    decide
  rw [readMagnitude?_eq_readPlain? (List.mem_append_left _ hhead) (hdigits _ hhead)]
  simp [readPlain?, Text.takeWhile_run hdigits hdash, Text.dropWhile_run hdigits hdash, hne]

def signed (negative : Bool) (n : Nat) : Int :=
  if negative then -n else n

/-- A decimal without an exponent is the whole number of its digits, but for the sign of zero. -/
theorem ofDecimal_zero_exponent (negative : Bool) (hn : n ≠ 0) :
    Binary64.ofDecimal negative n 0 = .ofInt (signed negative n) := by
  have hlow : ¬(0 : Int) + ((Nat.toDigits 10 n).length : Int) <
      -(Binary64.extremeExponent : Int) := by
    unfold Binary64.extremeExponent
    omega
  have hhigh : ¬(Binary64.extremeExponent : Int) < 0 := by decide
  have hsign : decide (signed negative n < 0) = negative := by
    cases negative with
    | false => simp [signed]
    | true =>
      simp only [signed, if_true, decide_eq_true_eq]
      omega
  have habs : (signed negative n).natAbs = n := by
    cases negative <;> simp [signed]
  rw [Binary64.ofDecimal, if_neg hn, if_neg hhigh, if_neg hlow, if_pos (Int.le_refl 0),
    Binary64.ofInt, hsign, habs]
  simp

/-- The text of a whole number spells its digits as a decimal without an exponent. -/
theorem readBinary64?_of_readInteger? {s : String} {k : Int} (h : readInteger? s.toList = some k) :
    ∃ negative n, readBinary64? s = some (.ofDecimal negative n 0) ∧ k = signed negative n := by
  obtain ⟨digits, n, hread, hcases⟩ := exists_digits_of_readInteger? h
  have hmagnitude (negative : Bool) := readMagnitude?_of_readDigits? negative hread
  have hunsigned {c : Char} {rest : List Char} (hc : c.isDigit = false) : digits ≠ c :: rest := by
    rintro rfl
    rw [(readDigits?_eq_some_iff.mp hread).2.1 c List.mem_cons_self] at hc
    cases hc
  rcases hcases with ⟨hs, rfl⟩ | ⟨hs | hs, rfl⟩
  · exact ⟨true, n, by rw [readBinary64?, hs]; exact hmagnitude true, rfl⟩
  · exact ⟨false, n, by rw [readBinary64?, hs]; exact hmagnitude false, rfl⟩
  · refine ⟨false, n, ?_, rfl⟩
    unfold readBinary64?
    rw [hs]
    split
    · exact absurd rfl (hunsigned (c := '-') (by decide))
    · exact absurd rfl (hunsigned (c := '+') (by decide))
    · exact hmagnitude false

end Number

end NetQuery
