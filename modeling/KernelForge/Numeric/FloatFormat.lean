import KernelForge.Numeric.Rounding

/-!
# Binary floating-point formats

A format is given by its fraction and exponent widths. `decode` reads a bit pattern as a sign with
an exact multiple of a power of two, an infinity or a NaN; `encode` rounds an exact multiple of a
power of two to the nearest pattern, a half to the even one, overflowing to infinity. Patterns are
natural numbers here; the two standard formats get their own types in `Numeric.Binary`.
-/

namespace KernelForge

/-- The widths of a binary interchange format. -/
structure FloatFormat where
  /-- Stored fraction digits. -/
  fractionBits : Nat
  /-- Stored exponent digits. -/
  exponentBits : Nat
  deriving DecidableEq, Repr

/-- What a bit pattern stands for. A finite datum is `± significand * 2 ^ exponent`. -/
inductive Datum where
  | finite (negative : Bool) (significand : Nat) (exponent : Int)
  | infinite (negative : Bool)
  /-- A NaN keeps its sign and the fraction digits that it is stored with. -/
  | nan (negative : Bool) (payload : Nat)
  deriving DecidableEq, Repr

namespace FloatFormat

/-- Four bytes: 23 fraction digits and 8 exponent digits. -/
def binary32 : FloatFormat := ⟨23, 8⟩

/-- Eight bytes: 52 fraction digits and 11 exponent digits. -/
def binary64 : FloatFormat := ⟨52, 11⟩

variable (f : FloatFormat)

/-- The exponent of the last place of the smallest numbers. -/
def leastExponent : Int := 2 - twoPow (f.exponentBits - 1) - f.fractionBits

/-- The pattern of positive infinity, which is also the first one above all finite magnitudes. -/
def infinityBits : Nat := (twoPow f.exponentBits - 1) * twoPow f.fractionBits

/-- The sign digit's weight. -/
def signBit : Nat := twoPow (f.fractionBits + f.exponentBits)

/-- The digit that marks a quiet NaN. -/
def quietBit : Nat := twoPow (f.fractionBits - 1)

/-- A magnitude with a sign. -/
def withSign (negative : Bool) (magnitude : Nat) : Nat :=
  if negative then f.signBit + magnitude else magnitude

/-- Reads a pattern. -/
def decode (bits : Nat) : Datum :=
  let negative := bits / f.signBit % 2 = 1
  let field := bits / twoPow f.fractionBits % twoPow f.exponentBits
  let fraction := bits % twoPow f.fractionBits
  if field = twoPow f.exponentBits - 1 then
    if fraction = 0 then .infinite negative else .nan negative fraction
  else if field = 0 then
    .finite negative fraction f.leastExponent
  else
    .finite negative (twoPow f.fractionBits + fraction) (f.leastExponent + field - 1)

/-- The exponent of the last place that a number of this size is rounded to. -/
def lastPlace (significand : Nat) (exponent : Int) : Int :=
  max f.leastExponent (exponent + bitLength significand - (f.fractionBits + 1))

/-- The magnitude pattern nearest to `significand * 2 ^ exponent`. Because neighbouring patterns are
neighbouring numbers, a carry out of the fraction moves into the exponent field by itself. -/
def magnitudeBits (significand : Nat) (exponent : Int) : Nat :=
  if significand = 0 then 0 else
    let place := f.lastPlace significand exponent
    let rounded :=
      if place ≤ exponent then significand * twoPow (exponent - place).toNat
      else roundShift significand (place - exponent).toNat
    min ((place - f.leastExponent).toNat * twoPow f.fractionBits + rounded) f.infinityBits

/-- Writes a datum. A NaN comes out quiet, keeping the leading digits of its payload that fit. -/
def encode : Datum → Nat
  | .finite negative significand exponent =>
      f.withSign negative (f.magnitudeBits significand exponent)
  | .infinite negative => f.withSign negative f.infinityBits
  | .nan negative payload =>
      f.withSign negative (f.infinityBits + f.quietBit + payload % f.quietBit)

end FloatFormat

namespace Datum

/-- The integer part of a datum, cut to the range from `lo` to `hi`; a NaN gives zero. -/
def clamp (lo hi : Int) : Datum → Int
  | .finite negative significand exponent =>
      let magnitude : Nat :=
        if 0 ≤ exponent then significand * twoPow exponent.toNat
        else significand / twoPow (-exponent).toNat
      let value : Int := if negative then -magnitude else magnitude
      max lo (min hi value)
  | .infinite negative => if negative then lo else hi
  | .nan _ _ => 0

/-- The datum that denotes an integer. -/
def ofInt (value : Int) : Datum :=
  .finite (value < 0) value.natAbs 0

/-- Moves the payload of a NaN between fractions of different width, keeping the leading digits. -/
def rescalePayload (source target : FloatFormat) : Datum → Datum
  | .nan negative payload =>
      .nan negative (payload * twoPow target.fractionBits / twoPow source.fractionBits)
  | datum => datum

end Datum

end KernelForge
