import KernelForge.Numeric.Rounding
import Mathlib.Algebra.Order.Field.Rat
import Mathlib.Tactic.Linarith
import Mathlib.Tactic.NormNum
import Mathlib.Tactic.Ring

/-!
# Numbers of few binary digits

A natural number is rounded to so many leading binary digits, a half to the even neighbour. No number
of so many digits is nearer, fractions included. Rounding first to more digits and then to fewer gives
the same, except for one constellation: the first rounding ends in the very middle between the two
neighbours of the second one, and the even neighbour is the farther one. The argument follows a number
between its two neighbours; the first rounding moves it, but never across a number that has few enough
digits, and the middle is one of these.
-/

namespace KernelForge

/-! ### Counting digits -/

/-- A number has at most `k` digits if it is below `2 ^ k`. -/
theorem bitLength_le_iff {n k : ℕ} : bitLength n ≤ k ↔ n < twoPow k := by
  unfold bitLength
  split
  · next hzero => simp [hzero, twoPow_pos]
  · next hne => exact Nat.log2_lt hne

/-- A number has more digits than the powers of two below it. -/
theorem lt_bitLength_iff {n k : ℕ} : k < bitLength n ↔ twoPow k ≤ n := by
  rw [← not_le, bitLength_le_iff, not_lt]

/-- It is below the power of two with as many zeros as it has digits. -/
theorem lt_twoPow_bitLength (n : ℕ) : n < twoPow (bitLength n) := bitLength_le_iff.mp le_rfl

/-- Every number but zero has a digit. -/
theorem bitLength_pos {n : ℕ} (h : n ≠ 0) : 0 < bitLength n :=
  lt_bitLength_iff.mpr (Nat.one_le_iff_ne_zero.mpr h)

/-- Zeros at the end count as digits. -/
theorem bitLength_mul_twoPow {n : ℕ} (h : n ≠ 0) (k : ℕ) :
    bitLength (n * twoPow k) = bitLength n + k := by
  apply le_antisymm
  · rw [bitLength_le_iff, twoPow_add]
    exact Nat.mul_lt_mul_of_pos_right (lt_twoPow_bitLength n) (twoPow_pos k)
  · have hpos := bitLength_pos h
    have hle : twoPow (bitLength n - 1) ≤ n := lt_bitLength_iff.mp (by omega)
    have hlt : bitLength n - 1 + k < bitLength (n * twoPow k) := by
      rw [lt_bitLength_iff, twoPow_add]
      exact Nat.mul_le_mul_right _ hle
    omega

/-! ### Dropping digits -/

/-- Zeros at the end can be dropped before. -/
theorem roundShift_mul_twoPow (m k j : ℕ) :
    roundShift (m * twoPow j) (k + j) = roundShift m k := by
  have hpos := twoPow_pos j
  have hdiv : m * twoPow j / twoPow (k + j) = m / twoPow k := by
    rw [twoPow_add, Nat.mul_div_mul_right _ _ hpos]
  have hmod : m * twoPow j % twoPow (k + j) = m % twoPow k * twoPow j := by
    rw [twoPow_add, Nat.mul_mod_mul_right]
  have hlt : 2 * (m % twoPow k * twoPow j) < twoPow (k + j) ↔ 2 * (m % twoPow k) < twoPow k := by
    rw [← mul_assoc, twoPow_add, Nat.mul_lt_mul_right hpos]
  have heq : 2 * (m % twoPow k * twoPow j) = twoPow (k + j) ↔ 2 * (m % twoPow k) = twoPow k := by
    rw [← mul_assoc, twoPow_add, Nat.mul_left_inj hpos.ne']
  simp only [roundShift, hdiv, hmod, hlt, heq]

/-- A multiple that is not above a number is not above the rounded one. -/
theorem le_roundShift {c n k : ℕ} (h : c * twoPow k ≤ n) : c ≤ roundShift n k := by
  have hnear := (roundShift_near n k).2
  have hpos := twoPow_pos k
  by_contra hlt
  have hmul : (roundShift n k + 1) * twoPow k ≤ c * twoPow k :=
    Nat.mul_le_mul_right _ (by omega)
  rw [Nat.add_mul, Nat.one_mul] at hmul
  omega

/-- A multiple that is not below a number is not below the rounded one. -/
theorem roundShift_le {c n k : ℕ} (h : n ≤ c * twoPow k) : roundShift n k ≤ c := by
  have hnear := (roundShift_near n k).1
  have hpos := twoPow_pos k
  by_contra hlt
  have hmul : (c + 1) * twoPow k ≤ roundShift n k * twoPow k :=
    Nat.mul_le_mul_right _ (by omega)
  rw [Nat.add_mul, Nat.one_mul] at hmul
  omega

/-- A number lies between its neighbours. -/
theorem neighbours (n k : ℕ) :
    n / twoPow k * twoPow k ≤ n ∧ n < (n / twoPow k + 1) * twoPow k := by
  refine ⟨Nat.div_mul_le_self n _, ?_⟩
  rw [Nat.add_mul, Nat.one_mul]
  exact Nat.lt_div_mul_add (twoPow_pos k)

section Neighbours

variable {n k q : ℕ}

/-- The multiple below a number is its quotient, and what lies between is its rest. -/
private theorem div_mod_of_between {P : ℕ} (hlow : q * P ≤ n) (hhigh : n < (q + 1) * P) :
    n / P = q ∧ n % P = n - q * P := by
  have hdiv : n / P = q := Nat.div_eq_of_lt_le hlow hhigh
  have hmod := Nat.div_add_mod n P
  rw [hdiv, Nat.mul_comm] at hmod
  exact ⟨hdiv, by omega⟩

/-- Below the middle between its neighbours a number goes to the lower one. -/
theorem roundShift_of_lt_middle (hlow : q * twoPow k ≤ n)
    (hmiddle : 2 * n < (2 * q + 1) * twoPow k) : roundShift n k = q := by
  have hpos := twoPow_pos k
  rw [Nat.add_mul, Nat.one_mul, Nat.mul_assoc] at hmiddle
  obtain ⟨hdiv, hmod⟩ := div_mod_of_between hlow (by rw [Nat.add_mul, Nat.one_mul]; omega)
  rw [roundShift, hdiv, hmod, if_pos (by omega)]

/-- In the middle between its neighbours a number goes to the even one. -/
theorem roundShift_of_eq_middle (hmiddle : 2 * n = (2 * q + 1) * twoPow k) :
    roundShift n k = q + q % 2 := by
  have hpos := twoPow_pos k
  rw [Nat.add_mul, Nat.one_mul, Nat.mul_assoc] at hmiddle
  obtain ⟨hdiv, hmod⟩ :=
    div_mod_of_between (q := q) (n := n) (P := twoPow k) (by omega)
      (by rw [Nat.add_mul, Nat.one_mul]; omega)
  rw [roundShift, hdiv, hmod, if_neg (by omega), if_pos (by omega)]

/-- Above the middle between its neighbours a number goes to the upper one. -/
theorem roundShift_of_middle_lt (hmiddle : (2 * q + 1) * twoPow k < 2 * n)
    (hhigh : n ≤ (q + 1) * twoPow k) : roundShift n k = q + 1 := by
  apply le_antisymm (roundShift_le hhigh)
  have hpos := twoPow_pos k
  have hnear := (roundShift_near n k).2
  rw [Nat.add_mul, Nat.one_mul, Nat.mul_assoc] at hmiddle
  by_contra hlt
  have hmul : roundShift n k * twoPow k ≤ q * twoPow k := Nat.mul_le_mul_right _ (by omega)
  omega

end Neighbours

/-! ### Rounding to leading digits -/

/-- The number of at most so many leading digits that is nearest to a number, of two the one whose
last digit is even. -/
def roundDigits (digits n : ℕ) : ℕ :=
  roundShift n (bitLength n - digits) * twoPow (bitLength n - digits)

/-- Integers are rounded by their magnitude. -/
def roundInt (digits : ℕ) (v : ℤ) : ℤ := v.sign * roundDigits digits v.natAbs

variable {digits n : ℕ}

/-- Numbers of few digits stay as they are. -/
theorem roundDigits_of_le (h : bitLength n ≤ digits) : roundDigits digits n = n := by
  rw [roundDigits, Nat.sub_eq_zero_of_le h, roundShift_zero, twoPow_zero, Nat.mul_one]

/-- The first digit stays where it is, or all digits carry over into one new digit. -/
theorem roundDigits_bounds (hdigits : 0 < digits) (h : n ≠ 0) :
    twoPow (bitLength n - 1) ≤ roundDigits digits n ∧
      roundDigits digits n ≤ twoPow (bitLength n) := by
  have hpos := bitLength_pos h
  have hlow : twoPow (bitLength n - 1) ≤ n := lt_bitLength_iff.mp (by omega)
  have hhigh := (lt_twoPow_bitLength n).le
  rcases le_or_gt (bitLength n) digits with hle | hlt
  · rw [roundDigits_of_le hle]
    exact ⟨hlow, hhigh⟩
  · have hfirst : bitLength n - 1 = digits - 1 + (bitLength n - digits) := by omega
    have hall : bitLength n = digits + (bitLength n - digits) := by omega
    rw [hfirst, twoPow_add] at hlow
    have hhigh' : n ≤ twoPow digits * twoPow (bitLength n - digits) := by
      rwa [← twoPow_add, ← hall]
    constructor
    · rw [hfirst, twoPow_add]
      exact Nat.mul_le_mul_right _ (le_roundShift hlow)
    · calc roundDigits digits n ≤ twoPow digits * twoPow (bitLength n - digits) :=
            Nat.mul_le_mul_right _ (roundShift_le hhigh')
        _ = twoPow (bitLength n) := by rw [← twoPow_add, ← hall]

/-- The rounded number is no farther away than either neighbour. -/
theorem roundDigits_dist_le {q : ℕ} (hlow : q * twoPow (bitLength n - digits) ≤ n)
    (hhigh : n ≤ (q + 1) * twoPow (bitLength n - digits)) :
    |(roundDigits digits n : ℤ) - n| ≤ n - (q * twoPow (bitLength n - digits) : ℕ) ∧
      |(roundDigits digits n : ℤ) - n| ≤ ((q + 1) * twoPow (bitLength n - digits) : ℕ) - n := by
  have hnear := roundShift_near n (bitLength n - digits)
  have hq : roundShift n (bitLength n - digits) = q ∨
      roundShift n (bitLength n - digits) = q + 1 := by
    have := le_roundShift hlow
    have := roundShift_le hhigh
    omega
  rw [Nat.add_mul, Nat.one_mul] at hhigh ⊢
  rw [roundDigits]
  rcases hq with hq | hq <;> rw [hq] at hnear ⊢
  · exact ⟨abs_le.mpr (by omega), abs_le.mpr (by omega)⟩
  · rw [Nat.add_mul, Nat.one_mul] at hnear ⊢
    exact ⟨abs_le.mpr (by omega), abs_le.mpr (by omega)⟩

/-- Zeros behind a number, as a rational number. -/
theorem cast_twoPow (k : ℕ) : ((twoPow k : ℕ) : ℚ) = 2 ^ (k : ℤ) := by
  have h : twoPow k = 2 ^ k := rfl
  rw [h]
  push_cast
  rw [zpow_natCast]

/-- No number of so many digits lies between two neighbours, wherever its binary point is. -/
theorem le_or_le_of_lt_twoPow (hdigits : 0 < digits) {m q : ℕ} (hm : m < twoPow digits)
    (hq : twoPow (digits - 1) ≤ q) (k : ℕ) (e : ℤ) :
    (m : ℚ) * 2 ^ e ≤ (q * twoPow k : ℕ) ∨ ((q + 1) * twoPow k : ℕ) ≤ (m : ℚ) * 2 ^ e := by
  rcases le_or_gt (k : ℤ) e with hle | hlt
  · -- The number is a multiple of the distance between the neighbours.
    obtain ⟨j, rfl⟩ := Int.le.dest hle
    have hmultiple : (m : ℚ) * 2 ^ ((k : ℤ) + j) = (m * twoPow j * twoPow k : ℕ) := by
      push_cast
      rw [cast_twoPow, cast_twoPow, zpow_add₀ two_ne_zero]
      ring
    rw [hmultiple, Nat.cast_le, Nat.cast_le]
    rcases Nat.lt_or_ge q (m * twoPow j) with hlt | hge
    · exact .inr (Nat.mul_le_mul_right _ hlt)
    · exact .inl (Nat.mul_le_mul_right _ hge)
  · -- The number has no digit where the neighbours have their first one.
    refine .inl ?_
    have hdouble : twoPow digits = 2 * twoPow (digits - 1) := by
      rw [← twoPow_succ, Nat.sub_add_cancel hdigits]
    have hpower : (2 : ℚ) ^ (e + 1) ≤ 2 ^ (k : ℤ) :=
      zpow_le_zpow_right₀ one_le_two (by omega)
    have hm' : (m : ℚ) ≤ 2 * q := by
      have : m ≤ 2 * q := by omega
      exact_mod_cast this
    calc (m : ℚ) * 2 ^ e ≤ 2 * q * 2 ^ e :=
          mul_le_mul_of_nonneg_right hm' (zpow_nonneg zero_le_two e)
      _ = q * 2 ^ (e + 1) := by rw [zpow_add₀ two_ne_zero, zpow_one]; ring
      _ ≤ q * 2 ^ (k : ℤ) := mul_le_mul_of_nonneg_left hpower (Nat.cast_nonneg q)
      _ = (q * twoPow k : ℕ) := by rw [Nat.cast_mul, cast_twoPow]

/-- No number of so many digits is nearer than the rounded one, wherever its binary point is. -/
theorem roundDigits_nearest (hdigits : 0 < digits) {m : ℕ} (hm : m < twoPow digits) (e : ℤ) :
    |(roundDigits digits n : ℚ) - n| ≤ |(m : ℚ) * 2 ^ e - n| := by
  rcases le_or_gt (bitLength n) digits with hle | hlt
  · rw [roundDigits_of_le hle, sub_self, abs_zero]
    exact abs_nonneg _
  let place := twoPow (bitLength n - digits)
  obtain ⟨hlow, hhigh⟩ := neighbours n (bitLength n - digits)
  have hfirst : twoPow (digits - 1) ≤ n / place := by
    rw [Nat.le_div_iff_mul_le (twoPow_pos _), ← twoPow_add, ← lt_bitLength_iff]
    omega
  obtain ⟨hbelow, habove⟩ := roundDigits_dist_le hlow hhigh.le
  have hbelow' : |(roundDigits digits n : ℚ) - n| ≤ n - (n / place * place : ℕ) := by
    exact_mod_cast hbelow
  have habove' : |(roundDigits digits n : ℚ) - n| ≤ ((n / place + 1) * place : ℕ) - n := by
    exact_mod_cast habove
  rcases le_or_le_of_lt_twoPow hdigits hm hfirst (bitLength n - digits) e with hy | hy
  · rw [abs_sub_comm ((m : ℚ) * 2 ^ e)]
    exact hbelow'.trans ((sub_le_sub_left hy _).trans (le_abs_self _))
  · exact habove'.trans ((sub_le_sub_right hy _).trans (le_abs_self _))

/-! ### Rounding twice -/

/-- A multiple of a power of two is one of every smaller power. -/
private theorem mul_twoPow_split {j k : ℕ} (hk : j ≤ k) (c : ℕ) :
    c * twoPow k = c * twoPow (k - j) * twoPow j := by
  rw [mul_assoc, ← twoPow_add, Nat.sub_add_cancel hk]

/-- A multiple of a power of two that has its digits among the leading ones is not crossed. -/
theorem le_roundDigits {c k : ℕ} (hk : bitLength n - digits ≤ k) (h : c * twoPow k ≤ n) :
    c * twoPow k ≤ roundDigits digits n := by
  rw [mul_twoPow_split hk] at h ⊢
  exact Nat.mul_le_mul_right _ (le_roundShift h)

/-- Nor is one crossed from below. -/
theorem roundDigits_le {c k : ℕ} (hk : bitLength n - digits ≤ k) (h : n ≤ c * twoPow k) :
    roundDigits digits n ≤ c * twoPow k := by
  rw [mul_twoPow_split hk] at h ⊢
  exact Nat.mul_le_mul_right _ (roundShift_le h)

/-- A power of two keeps its only digit. -/
theorem roundShift_twoPow_mul {k length : ℕ} (h : k ≤ length) :
    roundShift (twoPow length) k * twoPow k = twoPow length := by
  have hshift := roundShift_mul_twoPow (twoPow (length - k)) 0 k
  rw [← twoPow_add, Nat.sub_add_cancel h, Nat.zero_add, roundShift_zero] at hshift
  rw [hshift, ← twoPow_add, Nat.sub_add_cancel h]

variable {wide narrow : ℕ}

/-- The second rounding drops the digits that rounding once would drop. -/
theorem roundDigits_roundDigits (hnarrow : 0 < narrow) (hwide : narrow < wide) (h : n ≠ 0) :
    roundDigits narrow (roundDigits wide n) =
      roundShift (roundDigits wide n) (bitLength n - narrow) * twoPow (bitLength n - narrow) := by
  obtain ⟨hlow, hhigh⟩ := roundDigits_bounds (hnarrow.trans hwide) h
  have hpos := bitLength_pos h
  rcases hhigh.lt_or_eq with hlt | hcarry
  · have hlength : bitLength (roundDigits wide n) = bitLength n := by
      have := bitLength_le_iff.mpr hlt
      have := lt_bitLength_iff.mpr hlow
      omega
    rw [roundDigits, hlength]
  · -- All digits carried over into one.
    have hlength : bitLength (twoPow (bitLength n)) = bitLength n + 1 := by
      have hone : bitLength (1 * twoPow (bitLength n)) = bitLength 1 + bitLength n :=
        bitLength_mul_twoPow one_ne_zero _
      rw [Nat.one_mul, Nat.add_comm] at hone
      exact hone
    rw [hcarry, roundShift_twoPow_mul (Nat.sub_le ..), roundDigits, hlength]
    exact roundShift_twoPow_mul (by omega)

/-- Rounding to more digits leads to the middle between the neighbours of fewer digits, and the even
neighbour, to which the middle is rounded, is the farther one. -/
def TieLost (wide narrow n : ℕ) : Prop :=
  let place := twoPow (bitLength n - narrow)
  let below := n / place
  2 * roundDigits wide n = (2 * below + 1) * place ∧
    (roundDigits wide n < n ∧ below % 2 = 0 ∨ n < roundDigits wide n ∧ below % 2 = 1)

/-- No tie is lost by a number that the first rounding leaves as it is. -/
theorem not_tieLost_of_le (h : bitLength n ≤ wide) : ¬TieLost wide narrow n := by
  rintro ⟨-, hside⟩
  rw [roundDigits_of_le h] at hside
  rcases hside with ⟨hlt, -⟩ | ⟨hlt, -⟩ <;> exact lt_irrefl n hlt

/-- Zero loses no tie. -/
theorem tieLost_ne_zero (h : TieLost wide narrow n) : n ≠ 0 := by
  rintro rfl
  exact not_tieLost_of_le (Nat.zero_le _) h

/-- The first rounding leaves a number on its side of the middle, or in it. -/
theorem roundDigits_middle (hwide : narrow < wide) (hlong : wide < bitLength n) (q : ℕ) :
    ((2 * q + 1) * twoPow (bitLength n - narrow) ≤ 2 * n →
      (2 * q + 1) * twoPow (bitLength n - narrow) ≤ 2 * roundDigits wide n) ∧
    (2 * n ≤ (2 * q + 1) * twoPow (bitLength n - narrow) →
      2 * roundDigits wide n ≤ (2 * q + 1) * twoPow (bitLength n - narrow)) := by
  -- The middle has one digit more than the neighbours.
  have hhalf : (2 * q + 1) * twoPow (bitLength n - narrow) =
      2 * ((2 * q + 1) * twoPow (bitLength n - narrow - 1)) := by
    have hdouble : twoPow (bitLength n - narrow) = 2 * twoPow (bitLength n - narrow - 1) := by
      rw [← twoPow_succ, Nat.sub_add_cancel (by omega)]
    rw [hdouble]
    ring
  have hk : bitLength n - wide ≤ bitLength n - narrow - 1 := by omega
  rw [hhalf]
  constructor <;> intro h
  · exact Nat.mul_le_mul_left 2 (le_roundDigits hk (Nat.le_of_mul_le_mul_left h two_pos))
  · exact Nat.mul_le_mul_left 2 (roundDigits_le hk (Nat.le_of_mul_le_mul_left h two_pos))

/-- Rounding twice is rounding once unless the tie is lost. -/
theorem roundDigits_twice_eq (hnarrow : 0 < narrow) (hwide : narrow < wide)
    (h : ¬TieLost wide narrow n) :
    roundDigits narrow (roundDigits wide n) = roundDigits narrow n := by
  rcases le_or_gt (bitLength n) wide with hle | hlong
  · rw [roundDigits_of_le hle]
  have hne : n ≠ 0 := by
    rintro rfl
    exact absurd hlong (Nat.not_lt_zero _)
  rw [roundDigits_roundDigits hnarrow hwide hne]
  change _ = roundShift n _ * _
  congr 1
  have hk : bitLength n - wide ≤ bitLength n - narrow := by omega
  obtain ⟨hlow, hhigh⟩ := neighbours n (bitLength n - narrow)
  obtain ⟨habove, hbelow⟩ :=
    roundDigits_middle hwide hlong (n / twoPow (bitLength n - narrow))
  have hlow' := le_roundDigits hk hlow
  have hhigh' := roundDigits_le hk hhigh.le
  rcases lt_trichotomy (2 * roundDigits wide n)
    ((2 * (n / twoPow (bitLength n - narrow)) + 1) * twoPow (bitLength n - narrow))
    with hm | hm | hm
  · -- Below the middle both go to the lower neighbour.
    have hn := not_le.mp fun hle => (habove hle).not_gt hm
    rw [roundShift_of_lt_middle hlow' hm, roundShift_of_lt_middle hlow hn]
  · -- In the middle the even neighbour is the one that the number goes to.
    rw [roundShift_of_eq_middle hm]
    rcases lt_trichotomy (roundDigits wide n) n with hn | hn | hn
    · have hodd : n / twoPow (bitLength n - narrow) % 2 ≠ 0 := fun heven =>
        h ⟨hm, .inl ⟨hn, heven⟩⟩
      rw [roundShift_of_middle_lt (by omega) hhigh.le]
      omega
    · rw [hn] at hm
      rw [roundShift_of_eq_middle hm]
    · have heven : n / twoPow (bitLength n - narrow) % 2 ≠ 1 := fun hodd =>
        h ⟨hm, .inr ⟨hn, hodd⟩⟩
      rw [roundShift_of_lt_middle hlow (by omega)]
      omega
  · -- Above the middle both go to the upper neighbour.
    have hn := not_le.mp fun hle => (hbelow hle).not_gt hm
    rw [roundShift_of_middle_lt hm hhigh', roundShift_of_middle_lt hn hhigh.le]

/-- If the tie is lost, then rounding twice ends farther away than rounding once. -/
theorem roundDigits_twice_farther (hnarrow : 0 < narrow) (hwide : narrow < wide)
    (h : TieLost wide narrow n) :
    |(roundDigits narrow n : ℤ) - n| <
      |(roundDigits narrow (roundDigits wide n) : ℤ) - n| := by
  rw [roundDigits_roundDigits hnarrow hwide (tieLost_ne_zero h)]
  change |((roundShift n _ * _ : ℕ) : ℤ) - n| < _
  obtain ⟨hm, hside⟩ := h
  obtain ⟨hlow, hhigh⟩ := neighbours n (bitLength n - narrow)
  rw [roundShift_of_eq_middle hm]
  generalize bitLength n - narrow = k at *
  generalize n / twoPow k = q at *
  generalize roundDigits wide n = m at *
  have hmiddle : (2 * q + 1) * twoPow k = 2 * (q * twoPow k) + twoPow k := by ring
  have hupper : (q + 1) * twoPow k = q * twoPow k + twoPow k := by ring
  rcases hside with ⟨hn, heven⟩ | ⟨hn, hodd⟩
  · -- The number is above the middle and the even neighbour below it.
    rw [roundShift_of_middle_lt (q := q) (by omega) hhigh.le, heven, Nat.add_zero q]
    rw [abs_of_nonneg (by omega), abs_of_nonpos (by omega)]
    omega
  · -- The number is below the middle and the even neighbour above it.
    rw [roundShift_of_lt_middle hlow (by omega), hodd]
    rw [abs_of_nonpos (by omega), abs_of_nonneg (by omega)]
    omega

end KernelForge
