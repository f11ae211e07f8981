import KernelForge.Numeric.Binary

/-!
# Arithmetic on data

Decimal numbers, and the sums, products, quotients, roots and remainders of data, exact or with one
more digit that says whether anything was cut off, so that a format of up to 120 digits (70 for a
decimal number) rounds the result correctly. Invalid operations give no datum.
-/

namespace KernelForge

namespace Datum

/-- A datum that rounds to any of the formats like `digits * 10 ^ exponent`. A negative exponent is a
quotient. -/
def ofDecimal (digits : Nat) (exponent : Int) : Datum :=
  if 0 ≤ exponent then .finite false (digits * Nat.pow 10 exponent.toNat) 0
  else
    let divisor := Nat.pow 10 (-exponent).toNat
    let shift := bitLength divisor + 70
    let quotient := digits * twoPow shift / divisor
    let rest := digits * twoPow shift % divisor
    .finite false (2 * quotient + (if rest = 0 then 0 else 1)) (-(shift : Int) - 1)

/-- Whether a datum is no number. -/
def isNaN : Datum → Bool
  | nan _ _ => true
  | _ => false

/-- Changes the sign. -/
def negate : Datum → Datum
  | finite negative m e => finite (!negative) m e
  | infinite negative => infinite (!negative)
  | nan negative payload => nan (!negative) payload

/-- A finite datum as a signed multiple of a power of two. -/
def scaled (negative : Bool) (m : Nat) (e lower : Int) : Int :=
  let magnitude : Int := m * twoPow (e - lower).toNat
  if negative then -magnitude else magnitude

/-- The datum of a signed multiple of a power of two; zero gets the sign that is given. -/
def ofScaled (zeroSign : Bool) (n : Int) (e : Int) : Datum :=
  finite (if n = 0 then zeroSign else n < 0) n.natAbs e

/-- The sum, when it is defined. -/
def add? : Datum → Datum → Option Datum
  | nan s p, _ => some (nan s p)
  | _, nan s p => some (nan s p)
  | infinite a, infinite b => if a = b then some (infinite a) else none
  | infinite a, finite _ _ _ => some (infinite a)
  | finite _ _ _, infinite b => some (infinite b)
  | finite sa ma ea, finite sb mb eb =>
      if ma = 0 && mb ≠ 0 then some (finite sb mb eb)
      else if mb = 0 && ma ≠ 0 then some (finite sa ma ea)
      else
        let e := min ea eb
        some (ofScaled (sa && sb) (scaled sa ma ea e + scaled sb mb eb e) e)

/-- The product, when it is defined. -/
def mul? : Datum → Datum → Option Datum
  | nan s p, _ => some (nan s p)
  | _, nan s p => some (nan s p)
  | infinite a, infinite b => some (infinite (a != b))
  | infinite a, finite b m _ => if m = 0 then none else some (infinite (a != b))
  | finite a m _, infinite b => if m = 0 then none else some (infinite (a != b))
  | finite a ma ea, finite b mb eb => some (finite (a != b) (ma * mb) (ea + eb))

/-- One more digit that says whether a rest was cut off. -/
def sticky (quotient rest : Nat) : Nat := 2 * quotient + (if rest = 0 then 0 else 1)

/-- The quotient, when it is defined. -/
def div? : Datum → Datum → Option Datum
  | nan s p, _ => some (nan s p)
  | _, nan s p => some (nan s p)
  | infinite _, infinite _ => none
  | infinite a, finite b _ _ => some (infinite (a != b))
  | finite a _ _, infinite b => some (finite (a != b) 0 0)
  | finite a ma ea, finite b mb eb =>
      if mb = 0 then if ma = 0 then none else some (infinite (a != b))
      else
        let shift := bitLength mb + 130 - min (bitLength ma) (bitLength mb + 130)
        let numerator := ma * twoPow shift
        some (finite (a != b) (sticky (numerator / mb) (numerator % mb)) (ea - eb - shift - 1))

/-- The greatest natural number whose square is not above `n`, digit by digit; `k` bounds the number of
digits. -/
def rootFrom (n : Nat) : Nat → Nat → Nat
  | 0, root => root
  | k + 1, root =>
      let larger := root + twoPow k
      rootFrom n k (if larger * larger ≤ n then larger else root)

/-- The square root, when it is defined. -/
def sqrt? : Datum → Option Datum
  | nan s p => some (nan s p)
  | infinite false => some (infinite false)
  | infinite true => none
  | finite negative m e =>
      if m = 0 then some (finite negative 0 0)
      else if negative then none
      else
        let shift := 260 - min (bitLength m) 259
        let shift := if (e - shift) % 2 = 0 then shift else shift + 1
        let n := m * twoPow shift
        let root := rootFrom n ((bitLength n + 2) / 2) 0
        some (finite false (sticky root (n - root * root)) ((e - shift) / 2 - 1))

/-- Whether a finite datum is below another one. -/
def lessFinite (sa : Bool) (ma : Nat) (ea : Int) (sb : Bool) (mb : Nat) (eb : Int) : Bool :=
  let e := min ea eb
  scaled sa ma ea e < scaled sb mb eb e

/-- Numeric order; false when a datum is no number. -/
def lt : Datum → Datum → Bool
  | nan _ _, _ | _, nan _ _ => false
  | infinite a, infinite b => a && !b
  | infinite a, finite _ _ _ => a
  | finite _ _ _, infinite b => !b
  | finite sa ma ea, finite sb mb eb => lessFinite sa ma ea sb mb eb

/-- Numeric equality; false when a datum is no number. -/
def eq (x y : Datum) : Bool := !x.isNaN && !y.isNaN && !x.lt y && !y.lt x

/-- The ways to round to an integer. -/
inductive Direction where
  | towardZero
  | down
  | up
  /-- A half goes to the even neighbour. -/
  | nearestEven
  /-- A half goes away from zero. -/
  | nearestAway
  deriving DecidableEq, Repr

/-- The magnitude of an integer near a finite datum. -/
def roundMagnitude (direction : Direction) (negative : Bool) (m : Nat) (e : Int) : Nat :=
  if 0 ≤ e then m * twoPow e.toNat
  else
    let k := (-e).toNat
    let whole := m / twoPow k
    let rest := m % twoPow k
    match direction with
    | .towardZero => whole
    | .down => if negative && rest ≠ 0 then whole + 1 else whole
    | .up => if !negative && rest ≠ 0 then whole + 1 else whole
    | .nearestEven => roundShift m k
    | .nearestAway => if twoPow k ≤ 2 * rest then whole + 1 else whole

/-- Rounds to an integer. -/
def round (direction : Direction) : Datum → Datum
  | finite negative m e => finite negative (roundMagnitude direction negative m e) 0
  | d => d

/-- The integer near a finite datum. -/
def toInt? (direction : Direction) : Datum → Option Int
  | finite negative m e =>
      let n : Int := roundMagnitude direction negative m e
      some (if negative then -n else n)
  | _ => none

/-- The remainder of a division, when it is defined: of the quotient rounded toward zero, or to the
nearest integer. The last digits of the quotient come with it. -/
def remainder? (nearest : Bool) : Datum → Datum → Option (Datum × Int)
  | nan s p, _ => some (nan s p, 0)
  | _, nan s p => some (nan s p, 0)
  | infinite _, _ => none
  | finite a m e, infinite _ => some (finite a m e, 0)
  | finite a ma ea, finite b mb eb =>
      if mb = 0 then none
      else
        let e := min ea eb
        let x := ma * twoPow (ea - e).toNat
        let y := mb * twoPow (eb - e).toNat
        let quotient := x / y
        let rest := x % y
        let up := nearest && (y < 2 * rest || (2 * rest = y && quotient % 2 = 1))
        let value : Int := if up then (rest : Int) - y else rest
        let quotient : Int := if up then quotient + 1 else quotient
        some (ofScaled a (if a then -value else value) e, if a != b then -quotient else quotient)

/-- Multiplies by a power of two. -/
def scale (k : Int) : Datum → Datum
  | finite negative m e => finite negative m (e + k)
  | d => d

end Datum

end KernelForge
