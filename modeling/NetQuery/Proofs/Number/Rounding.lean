import NetQuery.Number.Binary64

namespace NetQuery.Binary64

variable {a b k num den m e : Nat}

theorem le_divNearest (hb : 0 < b) (h : k * b ≤ a) : k ≤ divNearest a b := by
  have hq : k ≤ a / b := (Nat.le_div_iff_mul_le hb).mpr h
  unfold divNearest
  simp only
  split
  · exact hq
  · split <;> omega

theorem divNearest_le (hb : 0 < b) (h : a ≤ k * b) : divNearest a b ≤ k := by
  have hq : a / b ≤ k := Nat.div_le_of_le_mul (by rwa [Nat.mul_comm])
  have hdiv := Nat.div_add_mod a b
  unfold divNearest
  simp only
  by_cases heq : a / b = k
  · have hr : a % b = 0 := by
      rw [heq, Nat.mul_comm] at hdiv
      omega
    rw [if_pos (by omega)]
    exact hq
  · split
    · exact hq
    · split <;> omega

def scaleOf (num den : Nat) : Nat :=
  (num / den).log2 + 1 - 53

/-- The units that a quotient is rounded to, if there were no greatest number. -/
def rounded (num den : Nat) : Nat :=
  divNearest num (den * 2 ^ scaleOf num den) * 2 ^ scaleOf num den

theorem lt_of_scaleOf (hden : 0 < den) : num < 2 ^ (53 : Nat) * (den * 2 ^ scaleOf num den) := by
  have hlog : num / den < 2 ^ ((num / den).log2 + 1) := Nat.lt_log2_self
  have hpow : 2 ^ ((num / den).log2 + 1) ≤ 2 ^ (53 + scaleOf num den) :=
    Nat.pow_le_pow_right (by decide) (by unfold scaleOf; omega)
  have hlt := (Nat.div_lt_iff_lt_mul hden).mp (Nat.lt_of_lt_of_le hlog hpow)
  rw [Nat.pow_add] at hlt
  calc num < 2 ^ 53 * 2 ^ scaleOf num den * den := hlt
    _ = 2 ^ 53 * (den * 2 ^ scaleOf num den) := by rw [Nat.mul_assoc, Nat.mul_comm den]

/-- A quotient that is rounded at all has a mantissa of full length. -/
theorem le_mantissa (num : Nat) (hden : 0 < den) (hscale : 0 < scaleOf num den) :
    2 ^ (52 : Nat) ≤ divNearest num (den * 2 ^ scaleOf num den) := by
  have hlog : (num / den).log2 = scaleOf num den + 52 := by
    unfold scaleOf at hscale ⊢
    omega
  have hne : num / den ≠ 0 := by
    intro hzero
    rw [hzero, Nat.log2_zero] at hlog
    omega
  have hself := Nat.log2_self_le hne
  rw [hlog, Nat.add_comm, Nat.pow_add] at hself
  refine le_divNearest (Nat.mul_pos hden (Nat.two_pow_pos _)) ?_
  have := (Nat.le_div_iff_mul_le hden).mp hself
  rwa [Nat.mul_comm den, ← Nat.mul_assoc]

theorem mantissa_le (num : Nat) (hden : 0 < den) :
    divNearest num (den * 2 ^ scaleOf num den) ≤ 2 ^ (53 : Nat) :=
  divNearest_le (Nat.mul_pos hden (Nat.two_pow_pos _)) (Nat.le_of_lt (lt_of_scaleOf hden))

/-- The place of a mantissa of at most 53 bits, the power of two beyond them included. -/
theorem position?_of_mantissa {n s : Nat} (hn : n ≤ 2 ^ (53 : Nat))
    (hlong : maxScale < s → 2 ^ (52 : Nat) ≤ n) :
    (if s ≤ maxScale then finite false n s else infinite false).position? =
      some ((min (n * 2 ^ s) (2 ^ (53 + maxScale)) : Nat) : Int) := by
  by_cases hs : s ≤ maxScale
  · have hsmall : n * 2 ^ s ≤ 2 ^ (53 + maxScale) := by
      rw [Nat.pow_add]
      exact Nat.mul_le_mul hn (Nat.pow_le_pow_right (by decide) hs)
    rw [if_pos hs, Nat.min_eq_left hsmall]
    simp [position?]
  · have hlarge : 2 ^ (53 + maxScale) ≤ n * 2 ^ s :=
      calc 2 ^ (53 + maxScale) = 2 ^ (52 : Nat) * 2 ^ (maxScale + 1) := by
            rw [← Nat.pow_add, Nat.add_comm maxScale, ← Nat.add_assoc]
        _ ≤ n * 2 ^ s := Nat.mul_le_mul (hlong (by omega))
            (Nat.pow_le_pow_right (by decide) (by omega))
    rw [if_neg hs, Nat.min_eq_right hlarge, position?]
    generalize 53 + maxScale = top
    simp

/-- A rounded quotient lies at its units, or where the infinities do. -/
theorem position?_ofUnits (hden : 0 < den) : (ofUnits false num den).position? =
    some ((min (rounded num den) (2 ^ (53 + maxScale)) : Nat) : Int) := by
  have hle := mantissa_le num hden
  have hlong := le_mantissa num hden
  unfold rounded
  unfold ofUnits
  rw [← scaleOf]
  simp only
  generalize scaleOf num den = s at hle hlong ⊢
  generalize divNearest num (den * 2 ^ s) = n at hle hlong ⊢
  by_cases hn : n < 2 ^ (53 : Nat)
  · rw [if_pos hn]
    exact position?_of_mantissa hle fun hs => hlong (by omega)
  · have hcarry : n * 2 ^ s = 2 ^ (52 : Nat) * 2 ^ (s + 1) := by
      rw [Nat.le_antisymm hle (Nat.le_of_not_lt hn), ← Nat.pow_add, ← Nat.pow_add]
      congr 1
      omega
    rw [if_neg hn, hcarry]
    exact position?_of_mantissa (Nat.pow_le_pow_right (by decide) (by decide))
      fun _ => Nat.le_refl _

/-- What is at least a representable value is so after rounding. -/
theorem le_rounded (hden : 0 < den) (hm : m < 2 ^ (53 : Nat)) (h : m * 2 ^ e * den ≤ num) :
    m * 2 ^ e ≤ rounded num den := by
  have hunit : 0 < den * 2 ^ scaleOf num den := Nat.mul_pos hden (Nat.two_pow_pos _)
  unfold rounded
  by_cases hscale : scaleOf num den ≤ e
  · -- the value is a multiple of the unit that is rounded to
    obtain ⟨d, hd⟩ := Nat.exists_eq_add_of_le hscale
    have hvalue : m * 2 ^ e = m * 2 ^ d * 2 ^ scaleOf num den := by
      rw [Nat.mul_assoc, ← Nat.pow_add, Nat.add_comm d, ← hd]
    rw [hvalue] at h ⊢
    exact Nat.mul_le_mul_right _ (le_divNearest hunit (by rwa [Nat.mul_comm den, ← Nat.mul_assoc]))
  · -- the quotient is beyond the value by its length alone
    have hmantissa := le_mantissa num hden (by omega)
    calc m * 2 ^ e ≤ 2 ^ (53 : Nat) * 2 ^ e := Nat.mul_le_mul_right _ (Nat.le_of_lt hm)
      _ = 2 ^ (52 : Nat) * 2 ^ (e + 1) := by rw [← Nat.pow_add, ← Nat.pow_add]; congr 1; omega
      _ ≤ _ := Nat.mul_le_mul hmantissa (Nat.pow_le_pow_right (by decide) (by omega))

/-- What is at most a representable value is so after rounding. -/
theorem rounded_le (hden : 0 < den) (hm : m < 2 ^ (53 : Nat)) (h : num ≤ m * 2 ^ e * den) :
    rounded num den ≤ m * 2 ^ e := by
  have hunit : 0 < den * 2 ^ scaleOf num den := Nat.mul_pos hden (Nat.two_pow_pos _)
  have hquot : num / den ≤ m * 2 ^ e := Nat.div_le_of_le_mul (by rwa [Nat.mul_comm])
  have hscale : scaleOf num den ≤ e := by
    unfold scaleOf
    by_cases hzero : num / den = 0
    · simp [hzero]
    · have hlt : num / den < 2 ^ (53 + e) := by
        rw [Nat.pow_add]
        exact Nat.lt_of_le_of_lt hquot (Nat.mul_lt_mul_of_pos_right hm (Nat.two_pow_pos e))
      have := (Nat.log2_lt hzero).mpr hlt
      omega
  unfold rounded
  obtain ⟨d, hd⟩ := Nat.exists_eq_add_of_le hscale
  have hvalue : m * 2 ^ e = m * 2 ^ d * 2 ^ scaleOf num den := by
    rw [Nat.mul_assoc, ← Nat.pow_add, Nat.add_comm d, ← hd]
  rw [hvalue] at h ⊢
  exact Nat.mul_le_mul_right _ (divNearest_le hunit (by rwa [Nat.mul_comm den, ← Nat.mul_assoc]))

/-- A quotient is above each limit that a whole number below it is above, in units of any size. -/
theorem lt_ofUnits {limit : Binary64} (hk : k < 2 ^ (53 : Nat)) (hden : 0 < den)
    (h : k * den ≤ num) (hlimit : limit.lt (ofUnits false (k * 2 ^ e) 1) = true) :
    limit.lt (ofUnits false (num * 2 ^ e) den) = true := by
  have hbound : rounded (k * 2 ^ e) 1 ≤ rounded (num * 2 ^ e) den :=
    calc rounded (k * 2 ^ e) 1 ≤ k * 2 ^ e :=
          rounded_le Nat.one_pos hk (Nat.le_of_eq (Nat.mul_one _).symm)
      _ ≤ rounded (num * 2 ^ e) den := le_rounded hden hk (by
          rw [Nat.mul_right_comm]
          exact Nat.mul_le_mul_right _ h)
  unfold lt compareBy at hlimit ⊢
  rw [position?_ofUnits Nat.one_pos] at hlimit
  rw [position?_ofUnits hden]
  generalize 2 ^ (53 + maxScale) = top at hlimit ⊢
  cases hposition : limit.position? with
  | none => simp [hposition] at hlimit
  | some x =>
    simp only [hposition, decide_eq_true_eq] at hlimit ⊢
    omega

/-- A quotient is above each limit that a whole number below it is above: whole numbers below 2⁵³
are represented, so rounding does not take the quotient past them. -/
theorem lt_ofRatio {limit : Binary64} (hk : k < 2 ^ (53 : Nat)) (hden : 0 < den) (h : k * den ≤ num)
    (hlimit : limit.lt (ofNat k) = true) : limit.lt (ofRatio false num den) = true :=
  lt_ofUnits hk hden h hlimit

theorem position?_neg (x : Binary64) : x.neg.position? = x.position?.map (- ·) := by
  cases x with
  | nan => rfl
  | infinite negative => cases negative <;> simp [neg, position?]
  | finite negative mantissa scale => cases negative <;> simp [neg, position?]

theorem ofUnits_true (num den : Nat) : ofUnits true num den = (ofUnits false num den).neg := by
  unfold ofUnits
  dsimp only
  generalize (num / den).log2 + 1 - 53 = s
  generalize divNearest num (den * 2 ^ s) = n
  split <;> split <;> rfl

/-- The units that a whole number without a sign is rounded to. -/
def unitsOf (n : Nat) : Nat :=
  min (rounded (n * 2 ^ unitExponent) 1) (2 ^ (53 + maxScale))

/-- A whole number lies where its units say, on the side of its sign. -/
theorem position?_ofInt (n : Int) : (ofInt n).position? =
    some (if n < 0 then -(unitsOf n.natAbs : Int) else unitsOf n.natAbs) := by
  have hplain : (ofUnits false (n.natAbs * 2 ^ unitExponent) 1).position? =
      some (unitsOf n.natAbs : Int) := position?_ofUnits Nat.one_pos
  rw [ofInt, ofRatio]
  by_cases hn : n < 0
  · rw [decide_eq_true hn, ofUnits_true, position?_neg, hplain, if_pos hn]
    rfl
  · rw [decide_eq_false hn, hplain, if_neg hn]

theorem le_unitsOf (hk : k ≤ 2 ^ (53 : Nat)) (h : k ≤ m) : k * 2 ^ unitExponent ≤ unitsOf m := by
  have hle : k * 2 ^ unitExponent * 1 ≤ m * 2 ^ unitExponent := by
    rw [Nat.mul_one]
    exact Nat.mul_le_mul_right _ h
  apply Nat.le_min.mpr
  constructor
  · rcases Nat.lt_or_eq_of_le hk with hlt | rfl
    · exact le_rounded Nat.one_pos hlt hle
    · -- the next power of two is one unit of a greater scale
      have hone : (2 ^ (53 : Nat)) * 2 ^ unitExponent = 1 * 2 ^ (53 + unitExponent) := by
        rw [Nat.one_mul, Nat.pow_add]
      rw [hone] at hle ⊢
      exact le_rounded Nat.one_pos (by decide) hle
  · rw [Nat.pow_add]
    exact Nat.mul_le_mul hk (Nat.pow_le_pow_right (by decide) (by decide))

/-- A whole number below 2⁵³ is at least what a smaller one is rounded to. -/
theorem unitsOf_le (hk : k < 2 ^ (53 : Nat)) (h : m ≤ k) : unitsOf m ≤ k * 2 ^ unitExponent := by
  refine Nat.le_trans (Nat.min_le_left _ _) (rounded_le Nat.one_pos hk ?_)
  rw [Nat.mul_one]
  exact Nat.mul_le_mul_right _ h

/-- A whole number below 2⁵³ is no other's nearest number. -/
theorem unitsOf_eq_iff (hk : k < 2 ^ (53 : Nat)) : unitsOf m = unitsOf k ↔ m = k := by
  have hexact : unitsOf k = k * 2 ^ unitExponent :=
    Nat.le_antisymm (unitsOf_le hk (Nat.le_refl k)) (le_unitsOf (Nat.le_of_lt hk) (Nat.le_refl k))
  have hunit : 0 < 2 ^ unitExponent := Nat.two_pow_pos _
  constructor
  · intro h
    rw [hexact] at h
    rcases Nat.lt_trichotomy m k with hlt | heq | hgt
    · have hle := unitsOf_le (Nat.lt_trans hlt hk) (Nat.le_refl m)
      rw [h] at hle
      have := Nat.le_of_mul_le_mul_right hle hunit
      omega
    · exact heq
    · have hle := le_unitsOf (k := k + 1) hk hgt
      rw [h] at hle
      have := Nat.le_of_mul_le_mul_right hle hunit
      omega
  · rintro rfl
    rfl

theorem compareBy_of_position? {x y : Binary64} {p q : Int} (hx : x.position? = some p)
    (hy : y.position? = some q) (rel : Int → Int → Bool) : compareBy rel x y = rel p q := by
  rw [compareBy, hx, hy]

theorem unitsOf_zero : unitsOf 0 = 0 := by
  have hle := unitsOf_le (k := 0) (by decide) (Nat.le_refl 0)
  rw [Nat.zero_mul] at hle
  exact Nat.le_zero.mp hle

/-- A whole number below 2⁵³, with its sign, is no other's nearest number. -/
theorem eq_ofInt_iff {x y : Int} (hy : y.natAbs < 2 ^ (53 : Nat)) :
    (ofInt x).eq (ofInt y) = true ↔ x = y := by
  have hsame := unitsOf_eq_iff (m := x.natAbs) hy
  have hzero := unitsOf_eq_iff (m := y.natAbs) (k := 0) (by decide)
  rw [unitsOf_zero] at hzero
  rw [eq, compareBy_of_position? (position?_ofInt x) (position?_ofInt y), beq_iff_eq]
  constructor
  · intro h
    generalize unitsOf x.natAbs = u at h hsame
    generalize unitsOf y.natAbs = v at h hsame hzero
    split at h <;> split at h <;> omega
  · rintro rfl
    rfl

end NetQuery.Binary64
