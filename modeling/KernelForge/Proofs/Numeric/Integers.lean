import KernelForge.Proofs.Numeric.Digits
import KernelForge.Numeric.Binary

/-!
# Integers in binary formats

The pattern that a datum is written as depends on the denoted number alone, whatever power of two it is
a multiple of. An integer that is not too large for the exponent field is written as the integer nearest
to it of as many digits as the format has, and read back as that: the last place is where its digits end,
and when all digits carry over, then the fraction becomes zero and the exponent one greater.
-/

namespace KernelForge

/-- The number that a datum denotes. -/
def Datum.value? : Datum → Option ℚ
  | finite negative m e => some (if negative then -(m * 2 ^ e) else m * 2 ^ e)
  | _ => none

/-- A datum that denotes an integer has the integer's magnitude and sign. -/
theorem Datum.magnitude_of_value {negative : Bool} {m : ℕ} {e v : ℤ}
    (h : (finite negative m e).value? = some (v : ℚ)) :
    (m : ℚ) * 2 ^ e = v.natAbs ∧ v = if negative then -(v.natAbs : ℤ) else v.natAbs := by
  have hnonneg : 0 ≤ (m : ℚ) * 2 ^ e := mul_nonneg m.cast_nonneg (zpow_nonneg zero_le_two e)
  have hvalue : (if negative then -((m : ℚ) * 2 ^ e) else m * 2 ^ e) = v := Option.some.inj h
  rw [Nat.cast_natAbs, Int.cast_abs]
  cases negative with
  | false =>
    rw [if_neg Bool.false_ne_true] at hvalue ⊢
    have hv : 0 ≤ v := by
      rw [hvalue] at hnonneg
      exact_mod_cast hnonneg
    exact ⟨by rw [← hvalue, abs_of_nonneg hnonneg], (Int.natAbs_of_nonneg hv).symm⟩
  | true =>
    rw [if_pos rfl] at hvalue ⊢
    have hv : v ≤ 0 := by
      rw [← neg_nonpos, hvalue] at hnonneg
      exact_mod_cast hnonneg
    refine ⟨by rw [← hvalue, abs_neg, abs_of_nonneg hnonneg], ?_⟩
    rw [Int.ofNat_natAbs_of_nonpos hv, Int.neg_neg]

/-! ### Rounding by magnitude -/

/-- Rounding does not look at the sign. -/
theorem roundInt_neg (digits : ℕ) (v : ℤ) : roundInt digits (-v) = -roundInt digits v := by
  rw [roundInt, roundInt, Int.sign_neg, Int.natAbs_neg, Int.neg_mul]

/-- A natural number is rounded by its digits. -/
theorem roundInt_natCast (digits n : ℕ) : roundInt digits n = roundDigits digits n := by
  rw [roundInt, Int.natAbs_natCast]
  rcases Nat.eq_zero_or_pos n with rfl | hpos
  · rw [roundDigits_of_le (Nat.zero_le _)]
    rfl
  · rw [Int.sign_eq_one_of_pos (Int.natCast_pos.mpr hpos), Int.one_mul]

namespace FloatFormat

variable (f : FloatFormat)

/-! ### Fields -/

/-- The fields that a pattern is put together from can be read off it. -/
theorem decode_fields (negative : Bool) {field fraction : ℕ}
    (hfield : field < twoPow f.exponentBits) (hfraction : fraction < twoPow f.fractionBits) :
    f.decode (f.withSign negative (field * twoPow f.fractionBits + fraction)) =
      if field = twoPow f.exponentBits - 1 then
        if fraction = 0 then .infinite negative else .nan negative fraction
      else if field = 0 then .finite negative fraction f.leastExponent
      else .finite negative (twoPow f.fractionBits + fraction) (f.leastExponent + field - 1) := by
  have hsign : f.signBit = twoPow f.fractionBits * twoPow f.exponentBits := twoPow_add _ _
  have hdigit : ∃ s, s < 2 ∧ decide (s = 1) = negative ∧
      fraction + twoPow f.fractionBits * (field + twoPow f.exponentBits * s) =
        f.withSign negative (field * twoPow f.fractionBits + fraction) := by
    cases negative with
    | false => exact ⟨0, by decide, rfl, by rw [withSign, if_neg Bool.false_ne_true]; ring⟩
    | true => exact ⟨1, by decide, rfl, by rw [withSign, if_pos rfl, hsign]; ring⟩
  obtain ⟨s, hs, hnegative, hbits⟩ := hdigit
  obtain ⟨hhigh, hlow⟩ := (Nat.div_mod_unique (twoPow_pos f.fractionBits)).mpr ⟨hbits, hfraction⟩
  obtain ⟨hfirst, hmiddle⟩ := (Nat.div_mod_unique (twoPow_pos f.exponentBits)).mpr
    ⟨(rfl : field + twoPow f.exponentBits * s = _), hfield⟩
  rw [decode, hsign, ← Nat.div_div_eq_div_mul, hhigh, hlow, hfirst, hmiddle,
    Nat.mod_eq_of_lt hs, hnegative]

/-- A significand that is written behind an exponent is read back with it, also one with a digit too
many, which carries over into the exponent. -/
theorem decode_value (negative : Bool) {k r : ℕ} (hlow : twoPow f.fractionBits ≤ r)
    (hhigh : r ≤ twoPow (f.fractionBits + 1)) (hk : k + 3 < twoPow f.exponentBits) :
    (f.decode (f.withSign negative (k * twoPow f.fractionBits + r))).value? =
      (Datum.finite negative r (f.leastExponent + k)).value? := by
  have hdouble : twoPow (f.fractionBits + 1) = 2 * twoPow f.fractionBits := twoPow_succ _
  rcases hhigh.lt_or_eq with hlt | hcarry
  · have hsplit : k * twoPow f.fractionBits + r =
        (k + 1) * twoPow f.fractionBits + (r - twoPow f.fractionBits) := by
      rw [Nat.add_mul, Nat.one_mul]
      omega
    rw [hsplit, f.decode_fields negative (by omega) (by omega), if_neg (by omega),
      if_neg (by omega), Nat.add_sub_cancel' hlow]
    push_cast
    rw [← add_assoc, add_sub_cancel_right]
  · have hsplit : k * twoPow f.fractionBits + r = (k + 2) * twoPow f.fractionBits + 0 := by
      rw [Nat.add_mul, hcarry, hdouble, Nat.add_zero]
    have hexponent : f.leastExponent + ((k + 2 : ℕ) : ℤ) - 1 = f.leastExponent + k + 1 := by
      push_cast
      ring
    rw [hsplit, f.decode_fields negative (by omega) (twoPow_pos _), if_neg (by omega),
      if_neg (by omega), hexponent, hcarry, hdouble, Nat.add_zero, Datum.value?, Datum.value?,
      zpow_add_one₀ two_ne_zero]
    push_cast
    ring_nf

/-- What is read has at most as many digits as the format. -/
theorem significand_lt {bits m : ℕ} {negative : Bool} {e : ℤ}
    (h : f.decode bits = .finite negative m e) : m < twoPow (f.fractionBits + 1) := by
  have hfraction := Nat.mod_lt bits (twoPow_pos f.fractionBits)
  rw [twoPow_succ]
  unfold decode at h
  dsimp only at h
  split at h
  · split at h <;> cases h
  · split at h <;> cases h <;> omega

/-! ### Magnitudes -/

/-- Rounding at a place does not depend on how a number is split into digits and exponent. -/
private theorem rounded_mul_twoPow (m j : ℕ) (place e : ℤ) :
    (if place ≤ e then m * twoPow j * twoPow (e - place).toNat
      else roundShift (m * twoPow j) (place - e).toNat) =
    if place ≤ e + j then m * twoPow (e + j - place).toNat
      else roundShift m (place - (e + j)).toNat := by
  rcases le_or_gt place e with hle | hlt
  · have hsum : (e + j - place).toNat = j + (e - place).toNat := by omega
    rw [if_pos hle, if_pos (by omega), hsum, twoPow_add, Nat.mul_assoc]
  rw [if_neg (not_le.mpr hlt)]
  rcases le_or_gt place (e + j) with hle | hlt'
  · have hsum : j = (e + j - place).toNat + (place - e).toNat := by omega
    have hshift := roundShift_mul_twoPow (m * twoPow (e + j - place).toNat) 0 (place - e).toNat
    rw [Nat.mul_assoc, ← twoPow_add, ← hsum, Nat.zero_add, roundShift_zero] at hshift
    rw [if_pos hle, hshift]
  · have hsum : (place - e).toNat = (place - (e + j)).toNat + j := by omega
    rw [if_neg (not_le.mpr hlt'), hsum, roundShift_mul_twoPow]

/-- A power of two may be moved from the significand into the exponent. -/
theorem magnitudeBits_mul_twoPow (m j : ℕ) (e : ℤ) :
    f.magnitudeBits (m * twoPow j) e = f.magnitudeBits m (e + j) := by
  rcases Nat.eq_zero_or_pos m with rfl | hpos
  · rw [Nat.zero_mul, magnitudeBits, magnitudeBits, if_pos rfl, if_pos rfl]
  have hne : m * twoPow j ≠ 0 := (Nat.mul_pos hpos (twoPow_pos j)).ne'
  have hplace : f.lastPlace (m * twoPow j) e = f.lastPlace m (e + j) := by
    rw [lastPlace, lastPlace, bitLength_mul_twoPow hpos.ne']
    push_cast
    congr 2
    ring
  rw [magnitudeBits, magnitudeBits, if_neg hne, if_neg hpos.ne', hplace]
  dsimp only
  rw [rounded_mul_twoPow]

/-- The pattern of a natural number does not depend on how the number is written. -/
theorem magnitudeBits_eq_of_value {m n : ℕ} {e : ℤ} (h : (m : ℚ) * 2 ^ e = n) :
    f.magnitudeBits m e = f.magnitudeBits n 0 := by
  obtain ⟨j, rfl | rfl⟩ := e.eq_nat_or_neg
  · have hn : m * twoPow j = n := by
      rw [← cast_twoPow] at h
      exact_mod_cast h
    rw [← hn, magnitudeBits_mul_twoPow, zero_add]
  · have hm : m = n * twoPow j := by
      have hq : (m : ℚ) = n * 2 ^ (j : ℤ) := by
        rw [← h, mul_assoc, ← zpow_add₀ two_ne_zero, neg_add_cancel, zpow_zero, mul_one]
      rw [← cast_twoPow] at hq
      exact_mod_cast hq
    rw [hm, magnitudeBits_mul_twoPow, neg_add_cancel]

/-- No magnitude is above infinity. -/
theorem magnitudeBits_le (m : ℕ) (e : ℤ) : f.magnitudeBits m e ≤ f.infinityBits := by
  unfold magnitudeBits
  split
  · exact Nat.zero_le _
  · exact min_le_right _ _

/-- A number fits into the width of the format. -/
theorem encode_lt {d : Datum} {q : ℚ} (h : d.value? = some q) :
    f.encode d < twoPow (f.fractionBits + f.exponentBits + 1) := by
  cases d with
  | infinite negative => cases h
  | nan negative payload => cases h
  | finite negative m e =>
    have hmagnitude := f.magnitudeBits_le m e
    have hinfinity : f.infinityBits < f.signBit := by
      rw [infinityBits, signBit, Nat.add_comm, twoPow_add]
      exact Nat.mul_lt_mul_of_pos_right (Nat.sub_lt (twoPow_pos _) Nat.one_pos) (twoPow_pos _)
    have hdouble : twoPow (f.fractionBits + f.exponentBits + 1) = 2 * f.signBit := twoPow_succ _
    rw [hdouble, encode, withSign]
    split <;> omega

/-! ### Integers -/

section Integers

variable {f} {n : ℕ}

/-- What an integer is rounded to ends at its last place, and fills the digits of the format. -/
theorem significand_integer (hn : n ≠ 0) {place : ℤ}
    (hplace : place = bitLength n - (f.fractionBits + 1)) :
    ∃ r, (if place ≤ 0 then n * twoPow (0 - place).toNat else roundShift n (place - 0).toNat) = r ∧
      twoPow f.fractionBits ≤ r ∧ r ≤ twoPow (f.fractionBits + 1) ∧
      (r : ℚ) * 2 ^ place = roundDigits (f.fractionBits + 1) n := by
  have hpos := bitLength_pos hn
  have hlow : twoPow (bitLength n - 1) ≤ n := lt_bitLength_iff.mp (by omega)
  have hhigh := (lt_twoPow_bitLength n).le
  rcases le_or_gt (bitLength n) (f.fractionBits + 1) with hle | hlt
  · -- All digits of the number fit; zeros follow them.
    obtain ⟨j, hj⟩ := Nat.exists_eq_add_of_le hle
    obtain rfl : place = -j := by omega
    refine ⟨n * twoPow j, ?_, ?_, ?_, ?_⟩
    · rw [if_pos (by omega), zero_sub, neg_neg, Int.toNat_natCast]
    · have hfraction : f.fractionBits = bitLength n - 1 + j := by omega
      rw [hfraction, twoPow_add]
      exact Nat.mul_le_mul_right _ hlow
    · rw [hj, twoPow_add]
      exact Nat.mul_le_mul_right _ hhigh
    · rw [roundDigits_of_le hle]
      push_cast
      rw [cast_twoPow, mul_assoc, ← zpow_add₀ two_ne_zero, add_neg_cancel, zpow_zero, mul_one]
  · -- The last digits do not fit, and the others are rounded.
    obtain ⟨j, hj⟩ := Nat.exists_eq_add_of_le hlt.le
    obtain rfl : place = j := by omega
    have hj' : bitLength n - (f.fractionBits + 1) = j := by omega
    refine ⟨roundShift n j, ?_, ?_, ?_, ?_⟩
    · rw [if_neg (by omega), sub_zero, Int.toNat_natCast]
    · have hfirst : bitLength n - 1 = f.fractionBits + j := by omega
      apply le_roundShift
      rwa [← twoPow_add, ← hfirst]
    · apply roundShift_le
      rwa [← twoPow_add, ← hj]
    · rw [roundDigits, hj']
      push_cast
      rw [cast_twoPow]

variable (hwidth : 2 ≤ f.exponentBits)
include hwidth

/-- The values of the exponent field come in two halves, of two values or more. -/
theorem twoPow_exponentBits :
    twoPow f.exponentBits = 2 * twoPow (f.exponentBits - 1) ∧ 2 ≤ twoPow (f.exponentBits - 1) := by
  have hone : twoPow 1 ≤ twoPow (f.exponentBits - 1) := twoPow_le_twoPow (by omega)
  refine ⟨?_, hone⟩
  rw [← twoPow_succ, Nat.sub_add_cancel (by omega)]

/-- The last place of an integer is where its digits end. -/
theorem lastPlace_integer (hn : n ≠ 0) :
    f.lastPlace n 0 = bitLength n - (f.fractionBits + 1) := by
  have hpos := bitLength_pos hn
  have hexponents := twoPow_exponentBits hwidth
  rw [lastPlace, leastExponent, zero_add, max_eq_right (by omega)]

/-- The field that the last place of an integer is counted by. -/
theorem field_integer (hn : n ≠ 0) :
    ((bitLength n + twoPow (f.exponentBits - 1) - 3 : ℕ) : ℤ) =
      bitLength n - (f.fractionBits + 1) - f.leastExponent := by
  have hpos := bitLength_pos hn
  have hexponents := twoPow_exponentBits hwidth
  rw [leastExponent]
  omega

/-- The pattern of an integer that is not too large: its leading digits behind the field. -/
theorem magnitudeBits_integer (hn : n ≠ 0) (hsize : bitLength n < twoPow (f.exponentBits - 1)) :
    ∃ r, twoPow f.fractionBits ≤ r ∧ r ≤ twoPow (f.fractionBits + 1) ∧
      (r : ℚ) * 2 ^ (bitLength n - (f.fractionBits + 1) : ℤ) =
        roundDigits (f.fractionBits + 1) n ∧
      f.magnitudeBits n 0 =
        (bitLength n + twoPow (f.exponentBits - 1) - 3) * twoPow f.fractionBits + r := by
  have hpos := bitLength_pos hn
  have hplace := lastPlace_integer hwidth hn
  obtain ⟨r, hrounded, hlow, hhigh, hvalue⟩ := significand_integer hn hplace
  rw [hplace] at hvalue
  refine ⟨r, hlow, hhigh, hvalue, ?_⟩
  have hexponents := twoPow_exponentBits hwidth
  rw [magnitudeBits, if_neg hn]
  dsimp only
  rw [hrounded, hplace, ← field_integer hwidth hn, Int.toNat_natCast, min_eq_left]
  calc (bitLength n + twoPow (f.exponentBits - 1) - 3) * twoPow f.fractionBits + r
      ≤ (bitLength n + twoPow (f.exponentBits - 1) - 3) * twoPow f.fractionBits +
          2 * twoPow f.fractionBits := Nat.add_le_add_left (hhigh.trans_eq (twoPow_succ _)) _
    _ = (bitLength n + twoPow (f.exponentBits - 1) - 3 + 2) * twoPow f.fractionBits :=
        (Nat.add_mul ..).symm
    _ ≤ f.infinityBits := Nat.mul_le_mul_right _ (by omega)

/-- A magnitude that is an integer is written as the integer rounded to the digits of the format. -/
theorem decode_magnitudeBits (negative : Bool) (hsize : bitLength n < twoPow (f.exponentBits - 1)) :
    (f.decode (f.withSign negative (f.magnitudeBits n 0))).value? =
      (Datum.finite negative (roundDigits (f.fractionBits + 1) n) 0).value? := by
  have hexponents := twoPow_exponentBits hwidth
  rcases Nat.eq_zero_or_pos n with rfl | hpos
  · have hzero := @decode_fields f negative 0 0 (twoPow_pos _) (twoPow_pos _)
    rw [Nat.zero_mul, if_neg (by omega), if_pos rfl] at hzero
    rw [magnitudeBits, if_pos rfl, hzero, roundDigits_of_le (Nat.zero_le _)]
    simp [Datum.value?]
  · have hlength := bitLength_pos hpos.ne'
    obtain ⟨r, hlow, hhigh, hvalue, hbits⟩ := magnitudeBits_integer hwidth hpos.ne' hsize
    rw [hbits, f.decode_value negative hlow hhigh (by omega), field_integer hwidth hpos.ne',
      add_sub_cancel, Datum.value?, Datum.value?, hvalue, zpow_zero, mul_one]

/-- A datum that denotes an integer is written as the integer rounded to the digits of the format. -/
theorem value_decode_encode {d : Datum} {v : ℤ} (h : d.value? = some (v : ℚ))
    (hsize : bitLength v.natAbs < twoPow (f.exponentBits - 1)) :
    (f.decode (f.encode d)).value? = some (roundInt (f.fractionBits + 1) v : ℚ) := by
  cases d with
  | infinite negative => cases h
  | nan negative payload => cases h
  | finite negative m e =>
    obtain ⟨hmagnitude, hsign⟩ := Datum.magnitude_of_value h
    rw [encode, f.magnitudeBits_eq_of_value hmagnitude, decode_magnitudeBits hwidth _ hsize]
    generalize v.natAbs = n at *
    subst hsign
    cases negative with
    | false => simp [Datum.value?, roundInt_natCast]
    | true => simp [Datum.value?, roundInt_neg, roundInt_natCast]

end Integers

end FloatFormat

/-- A single-precision number made of an integer is the integer rounded to 24 digits. -/
theorem Binary32.value_ofDatum {d : Datum} {v : ℤ} (h : d.value? = some (v : ℚ))
    (hsize : bitLength v.natAbs < 128) :
    (Binary32.ofDatum d).datum.value? = some (roundInt 24 v : ℚ) := by
  have hbits : (UInt32.ofNat (FloatFormat.binary32.encode d)).toNat =
      FloatFormat.binary32.encode d :=
    Nat.mod_eq_of_lt (FloatFormat.binary32.encode_lt h)
  rw [Binary32.datum, Binary32.ofDatum, hbits]
  exact FloatFormat.value_decode_encode (by decide) h hsize

/-- A double-precision number made of an integer is the integer rounded to 53 digits. -/
theorem Binary64.value_ofDatum {d : Datum} {v : ℤ} (h : d.value? = some (v : ℚ))
    (hsize : bitLength v.natAbs < 1024) :
    (Binary64.ofDatum d).datum.value? = some (roundInt 53 v : ℚ) := by
  have hbits : (UInt64.ofNat (FloatFormat.binary64.encode d)).toNat =
      FloatFormat.binary64.encode d :=
    Nat.mod_eq_of_lt (FloatFormat.binary64.encode_lt h)
  rw [Binary64.datum, Binary64.ofDatum, hbits]
  exact FloatFormat.value_decode_encode (by decide) h hsize

end KernelForge
