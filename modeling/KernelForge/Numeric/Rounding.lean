/-!
# Powers of two, and rounding to fewer binary digits

Widths are counts of binary digits, and `twoPow` is the number of patterns of a width, with the laws of
the exponent.

`roundShift m k` drops the last `k` binary digits of `m` and rounds what is left to the nearest
natural number, a half going to the even neighbour. The lemmas say that the result is within half
a unit of the exact quotient and that a tie ends on an even number.
-/

namespace KernelForge

/-- Two to the power `n`. -/
def twoPow (n : Nat) : Nat := Nat.pow 2 n

/-- The first power of two is one. -/
@[simp] theorem twoPow_zero : twoPow 0 = 1 := rfl

/-- Each is twice the one before it. -/
theorem twoPow_succ (n : Nat) : twoPow (n + 1) = 2 * twoPow n :=
  Nat.mul_comm (twoPow n) 2

/-- None of them is zero. -/
theorem twoPow_pos (n : Nat) : 0 < twoPow n := Nat.two_pow_pos n

/-- Exponents add up. -/
theorem twoPow_add (m n : Nat) : twoPow (m + n) = twoPow m * twoPow n := Nat.pow_add 2 m n

/-- A wider pattern has more values. -/
theorem twoPow_le_twoPow {m n : Nat} (h : m ≤ n) : twoPow m ≤ twoPow n :=
  Nat.pow_le_pow_right (by decide) h

/-- The number of binary digits of `m`; zero has none. -/
def bitLength (m : Nat) : Nat :=
  if m = 0 then 0 else m.log2 + 1

/-- The quotient of `m` by `2 ^ k` rounded to the nearest natural number, a half to the even one. -/
def roundShift (m k : Nat) : Nat :=
  let quotient := m / twoPow k
  let rest := m % twoPow k
  if 2 * rest < twoPow k then quotient
  else if 2 * rest = twoPow k then quotient + quotient % 2
  else quotient + 1

/-- Dropping no digit changes nothing. -/
@[simp] theorem roundShift_zero (m : Nat) : roundShift m 0 = m := by
  have h : m % 1 = 0 := Nat.mod_one m
  simp [roundShift, h]

/-- The rounded quotient is at most half a unit away from the exact one. -/
theorem roundShift_near (m k : Nat) :
    2 * (roundShift m k * twoPow k) ≤ 2 * m + twoPow k ∧ 2 * m ≤ 2 * (roundShift m k * twoPow k) + twoPow k := by
  have hm := Nat.div_add_mod m (twoPow k)
  have hlt := Nat.mod_lt m (twoPow_pos k)
  unfold roundShift
  generalize m / twoPow k = q at *
  generalize m % twoPow k = r at *
  generalize twoPow k = p at *
  have hq : p * q = q * p := Nat.mul_comm p q
  dsimp only
  split
  · omega
  · split
    · rcases Nat.mod_two_eq_zero_or_one q with h | h
      · rw [h, Nat.add_zero]; omega
      · rw [h, Nat.add_mul, Nat.one_mul]; omega
    · rw [Nat.add_mul, Nat.one_mul]; omega

end KernelForge
