import KernelForge.Proofs.Numeric.Integers
import KernelForge.Proofs.Provider.Runs

/-!
# Integers in single precision

A 64-bit integer becomes a single-precision number by way of double precision, so it is rounded twice,
to 53 and then to 24 digits. The result is the single-precision number nearest to the integer unless the
first rounding ends in the middle between two of them and the even one is the farther one: then the
other one is nearer, and rounding once would have given it. A coefficient reaches a kernel as what its
conversion gives.
-/

namespace KernelForge

/-! ### Rounding integers -/

/-- Rounding a number rounds its magnitude. -/
theorem natAbs_roundInt (digits : ℕ) (v : ℤ) :
    (roundInt digits v).natAbs = roundDigits digits v.natAbs := by
  obtain ⟨n, rfl | rfl⟩ := v.eq_nat_or_neg
  · rw [roundInt_natCast, Int.natAbs_natCast, Int.natAbs_natCast]
  · rw [roundInt_neg, roundInt_natCast, Int.natAbs_neg, Int.natAbs_neg, Int.natAbs_natCast,
      Int.natAbs_natCast]

/-- No number of so many digits is nearer to an integer than the rounded one. -/
theorem roundInt_nearest {digits m : ℕ} (hdigits : 0 < digits) (hm : m < twoPow digits)
    {q : ℚ} {e : ℤ} (hq : |q| = m * 2 ^ e) (v : ℤ) :
    |(roundInt digits v : ℚ) - v| ≤ |q - v| := by
  have hmagnitude : |(roundInt digits v : ℚ) - v| =
      |(roundDigits digits v.natAbs : ℚ) - v.natAbs| := by
    obtain ⟨n, rfl | rfl⟩ := v.eq_nat_or_neg
    · rw [roundInt_natCast, Int.natAbs_natCast, Int.cast_natCast, Int.cast_natCast]
    · rw [roundInt_neg, roundInt_natCast, Int.natAbs_neg, Int.natAbs_natCast]
      push_cast
      rw [neg_sub_neg, abs_sub_comm]
  have hv : (v.natAbs : ℚ) = |(v : ℚ)| := by rw [Nat.cast_natAbs, Int.cast_abs]
  calc |(roundInt digits v : ℚ) - v| ≤ |(m : ℚ) * 2 ^ e - v.natAbs| :=
        hmagnitude.trans_le (roundDigits_nearest hdigits hm e)
    _ = |(|q| - |(v : ℚ)|)| := by rw [hq, hv]
    _ ≤ |q - v| := abs_abs_sub_abs_le_abs_sub q v

section Twice

variable {wide narrow : ℕ} {v : ℤ} (hnarrow : 0 < narrow) (hwide : narrow < wide)
include hnarrow hwide

/-- Rounding an integer twice is rounding once unless the tie is lost. -/
theorem roundInt_twice_eq (h : ¬TieLost wide narrow v.natAbs) :
    roundInt narrow (roundInt wide v) = roundInt narrow v := by
  obtain ⟨n, rfl | rfl⟩ := v.eq_nat_or_neg
  · rw [Int.natAbs_natCast] at h
    rw [roundInt_natCast, roundInt_natCast, roundInt_natCast, roundDigits_twice_eq hnarrow hwide h]
  · rw [Int.natAbs_neg, Int.natAbs_natCast] at h
    rw [roundInt_neg, roundInt_neg, roundInt_neg, roundInt_natCast, roundInt_natCast,
      roundInt_natCast, roundDigits_twice_eq hnarrow hwide h]

/-- If the tie is lost, then rounding once ends nearer. -/
theorem roundInt_once_nearer (h : TieLost wide narrow v.natAbs) :
    |roundInt narrow v - v| < |roundInt narrow (roundInt wide v) - v| := by
  obtain ⟨n, rfl | rfl⟩ := v.eq_nat_or_neg
  · rw [Int.natAbs_natCast] at h
    rw [roundInt_natCast, roundInt_natCast, roundInt_natCast]
    exact roundDigits_twice_farther hnarrow hwide h
  · rw [Int.natAbs_neg, Int.natAbs_natCast] at h
    rw [roundInt_neg, roundInt_neg, roundInt_neg, roundInt_natCast, roundInt_natCast,
      roundInt_natCast, neg_sub_neg, neg_sub_neg, abs_sub_comm, abs_sub_comm (n : ℤ)]
    exact roundDigits_twice_farther hnarrow hwide h

/-- Rounding twice is rounding once, unless a tie is lost. -/
theorem roundInt_twice_eq_iff :
    roundInt narrow (roundInt wide v) = roundInt narrow v ↔ ¬TieLost wide narrow v.natAbs := by
  refine ⟨fun heq hlost => ?_, roundInt_twice_eq hnarrow hwide⟩
  have hnearer := roundInt_once_nearer hnarrow hwide hlost
  rw [heq] at hnearer
  exact lt_irrefl _ hnearer

end Twice

/-! ### The nearest number -/

/-- The datum made of an integer denotes it. -/
theorem Datum.value_ofInt (v : ℤ) : (Datum.ofInt v).value? = some (v : ℚ) := by
  rw [Datum.ofInt, Datum.value?, zpow_zero, mul_one, Nat.cast_natAbs, Int.cast_abs]
  rcases lt_or_ge v 0 with hneg | hpos
  · rw [decide_eq_true hneg, if_pos rfl, abs_of_neg (Int.cast_lt_zero.mpr hneg), neg_neg]
  · rw [decide_eq_false (not_lt.mpr hpos), if_neg Bool.false_ne_true,
      abs_of_nonneg (Int.cast_nonneg hpos)]

/-- Only a NaN changes when a datum changes its format. -/
theorem Datum.rescalePayload_of_value {d : Datum} {q : ℚ} (h : d.value? = some q)
    (source target : FloatFormat) : d.rescalePayload source target = d := by
  cases d with
  | finite => rfl
  | infinite => rfl
  | nan => cases h

namespace Binary32

/-- A single-precision number is nearest to an integer if no other one is nearer. -/
def IsNearest (x : Binary32) (v : ℤ) : Prop :=
  ∃ p, x.datum.value? = some p ∧ ∀ y : Binary32, ∀ q, y.datum.value? = some q → |p - v| ≤ |q - v|

/-- The magnitude of a number has at most 24 digits. -/
theorem abs_value {y : Binary32} {q : ℚ} (h : y.datum.value? = some q) :
    ∃ (m : ℕ) (e : ℤ), m < twoPow 24 ∧ |q| = m * 2 ^ e := by
  cases hdatum : y.datum with
  | infinite negative => rw [hdatum] at h; cases h
  | nan negative payload => rw [hdatum] at h; cases h
  | finite negative m e =>
    rw [hdatum] at h
    have hnonneg : 0 ≤ (m : ℚ) * 2 ^ e := mul_nonneg m.cast_nonneg (zpow_nonneg zero_le_two e)
    refine ⟨m, e, FloatFormat.binary32.significand_lt hdatum, ?_⟩
    rw [← Option.some.inj h]
    split
    · rw [abs_neg, abs_of_nonneg hnonneg]
    · rw [abs_of_nonneg hnonneg]

/-- The integer rounded twice is the nearest number unless the tie is lost. -/
theorem isNearest_iff {x : Binary32} {v : ℤ} (hsize : bitLength v.natAbs < 128)
    (hvalue : x.datum.value? = some (roundInt 24 (roundInt 53 v) : ℚ)) :
    x.IsNearest v ↔ ¬TieLost 53 24 v.natAbs := by
  constructor
  · rintro ⟨p, hp, hnearest⟩ hlost
    obtain rfl : (roundInt 24 (roundInt 53 v) : ℚ) = p := Option.some.inj (hvalue.symm.trans hp)
    -- Rounded once, the integer is a number as well, and a nearer one.
    have honce := hnearest (ofInt v) _ (value_ofDatum (Datum.value_ofInt v) hsize)
    have hnearer : |roundInt 24 v - v| < |roundInt 24 (roundInt 53 v) - v| :=
      roundInt_once_nearer (by decide) (by decide) hlost
    exact absurd hnearer (not_lt.mpr (by exact_mod_cast honce))
  · intro hkept
    rw [roundInt_twice_eq (by decide) (by decide) hkept] at hvalue
    refine ⟨roundInt 24 v, hvalue, fun y q hy => ?_⟩
    obtain ⟨m, e, hm, hq⟩ := abs_value hy
    exact roundInt_nearest (by decide) hm hq v

end Binary32

/-! ### Conversion -/

/-- An integer of at most 64 digits is rounded twice on its way through double precision. -/
theorem Binary64.value_toBinary32_ofInt {v : ℤ} (hsize : bitLength v.natAbs ≤ 64) :
    (Binary64.ofInt v).toBinary32.datum.value? = some (roundInt 24 (roundInt 53 v) : ℚ) := by
  have hdouble : (Binary64.ofInt v).datum.value? = some (roundInt 53 v : ℚ) :=
    Binary64.value_ofDatum (Datum.value_ofInt v) (by omega)
  have hcarry : bitLength (roundInt 53 v).natAbs ≤ 65 := by
    rw [natAbs_roundInt, bitLength_le_iff]
    rcases Nat.eq_zero_or_pos v.natAbs with hzero | hpos
    · rw [hzero]
      decide
    · calc roundDigits 53 v.natAbs ≤ twoPow (bitLength v.natAbs) :=
            (roundDigits_bounds (by decide) hpos.ne').2
        _ ≤ twoPow 64 := twoPow_le_twoPow hsize
        _ < twoPow 65 := by decide
  rw [Binary64.toBinary32, Datum.rescalePayload_of_value hdouble]
  exact Binary32.value_ofDatum hdouble (by omega)

/-- A 64-bit integer has at most 64 digits. -/
theorem bitLength_natAbs_int64 (v : Int64) : bitLength v.toInt.natAbs ≤ 64 := by
  rw [bitLength_le_iff]
  have hlow := v.le_toInt
  have hhigh := v.toInt_lt
  change _ < 2 ^ 64
  omega

namespace BoundArgument

variable {operands : Operands} {name : String} {slots : List SlotType} {operand : Operand}

/-- The slots that an operand fills stand between those declared before and after. -/
theorem ofDeclared_append_cons {before after : List (String × List SlotType)}
    {args : List BoundArgument} (hoperand : operands.get? name = some operand)
    (h : ofDeclared operands (before ++ (name, slots) :: after) = .ok args) :
    ∃ left own right, ofDeclared operands before = .ok left ∧
      ofOperand name operand slots = .ok own ∧
      ofDeclared operands after = .ok right ∧ args = left ++ (own ++ right) := by
  induction before generalizing args with
  | nil =>
    rw [List.nil_append, ofDeclared, hoperand] at h
    obtain ⟨own, hown, h⟩ := ok_of_bind h
    obtain ⟨right, hright, h⟩ := ok_of_bind h
    cases h
    exact ⟨[], own, right, rfl, hown, hright, rfl⟩
  | cons first before ih =>
    obtain ⟨firstName, firstSlots⟩ := first
    rw [List.cons_append, ofDeclared] at h
    rw [ofDeclared]
    split at h
    · cases h
    · obtain ⟨filled, hfilled, h⟩ := ok_of_bind h
      obtain ⟨rest, hrest, h⟩ := ok_of_bind h
      cases h
      obtain ⟨left, own, right, hleft, hown, hright, rfl⟩ := ih hrest
      refine ⟨filled ++ left, own, right, ?_, hown, hright, (List.append_assoc ..).symm⟩
      rw [hfilled, hleft]
      rfl

end BoundArgument

/-- A 64-bit integer in single precision is the integer rounded to 53 and then to 24 digits. This is the
integer rounded once to 24 digits, and the number nearest to it, exactly unless the tie is lost. A kernel
that declares a single-precision coefficient gets this number where the coefficient is declared. -/
theorem Scalar.int64_single (v : Int64) :
    ∃ x : Binary32, (Scalar.int64 v).cast .float32 = .float32 x ∧
      x.datum.value? = some (roundInt 24 (roundInt 53 v.toInt) : ℚ) ∧
      (x.datum.value? = some (roundInt 24 v.toInt : ℚ) ↔ ¬TieLost 53 24 v.toInt.natAbs) ∧
      (x.IsNearest v.toInt ↔ ¬TieLost 53 24 v.toInt.natAbs) ∧
      ∀ dims contract operands args name before after,
        contract.declared = before ++ (name, [.scalar .float32]) :: after →
        operands.get? name = some (.scalar (.int64 v)) →
        BoundArgument.list dims contract operands = .ok args →
        ∃ dimArgs left right, dims.mapM (BoundArgument.int32 "dimension") = .ok dimArgs ∧
          BoundArgument.ofDeclared operands before = .ok left ∧
          BoundArgument.ofDeclared operands after = .ok right ∧
          args = dimArgs ++ left ++ .value (.scalar (.float32 x)) :: right := by
  have hsize := bitLength_natAbs_int64 v
  have hvalue := Binary64.value_toBinary32_ofInt hsize
  refine ⟨(Binary64.ofInt v.toInt).toBinary32, rfl, hvalue, ?_,
    Binary32.isNearest_iff (by omega) hvalue, ?_⟩
  · rw [hvalue, Option.some_inj, Int.cast_inj]
    exact roundInt_twice_eq_iff (by decide) (by decide)
  · intro dims contract operands args name before after hdeclared hoperand hlist
    obtain ⟨dimArgs, filled, hdimArgs, hfilled, rfl, -⟩ := BoundArgument.list_eq_ok hlist
    rw [hdeclared] at hfilled
    obtain ⟨left, own, right, hleft, hown, hright, rfl⟩ :=
      BoundArgument.ofDeclared_append_cons hoperand hfilled
    cases hown
    exact ⟨dimArgs, left, right, hdimArgs, hleft, hright, (List.append_assoc ..).symm⟩

/-- An integer whose tie is lost: the lower of the two nearest numbers, the even one, is the result, and
the upper one is the integer rounded once, and nearer. -/
theorem Scalar.lostTie_single :
    (Scalar.int64 9007199791611905).cast .float32 = .float32 ⟨0x5a000000⟩ ∧
      (⟨0x5a000000⟩ : Binary32).datum.value? = some 9007199254740992 ∧
      roundInt 24 9007199791611905 = 9007200328482816 ∧
      (⟨0x5a000001⟩ : Binary32).datum.value? = some 9007200328482816 ∧
      ¬(⟨0x5a000000⟩ : Binary32).IsNearest 9007199791611905 := by
  have hlow : (⟨0x5a000000⟩ : Binary32).datum = .finite false 8388608 30 := by decide +kernel
  have hhigh : (⟨0x5a000001⟩ : Binary32).datum = .finite false 8388609 30 := by decide +kernel
  have hvalue : (⟨0x5a000000⟩ : Binary32).datum.value? = some 9007199254740992 := by
    rw [hlow]
    norm_num [Datum.value?]
  have hvalue' : (⟨0x5a000001⟩ : Binary32).datum.value? = some 9007200328482816 := by
    rw [hhigh]
    norm_num [Datum.value?]
  refine ⟨by decide +kernel, hvalue, by decide +kernel, hvalue', ?_⟩
  rintro ⟨p, hp, hnearest⟩
  obtain rfl : 9007199254740992 = p := Option.some.inj (hvalue.symm.trans hp)
  have hle := hnearest ⟨0x5a000001⟩ _ hvalue'
  norm_num at hle

end KernelForge
