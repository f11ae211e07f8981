import KernelForge.Numeric.FloatFormat

/-!
# Single and double precision numbers

A number is its bit pattern, so that storing and reading one back never changes it, NaN payloads
included. Conversions go through the exact datum of the pattern and round once.
-/

namespace KernelForge

/-- A single-precision number. -/
structure Binary32 where
  bits : UInt32
  deriving DecidableEq, Inhabited, Repr

/-- A double-precision number. -/
structure Binary64 where
  bits : UInt64
  deriving DecidableEq, Inhabited, Repr

namespace Binary64

/-- The number or special value that the pattern stands for. -/
def datum (x : Binary64) : Datum := FloatFormat.binary64.decode x.bits.toNat

/-- The pattern nearest to a datum. -/
def ofDatum (d : Datum) : Binary64 := ⟨UInt64.ofNat (FloatFormat.binary64.encode d)⟩

/-- The number nearest to an integer. -/
def ofInt (value : Int) : Binary64 := ofDatum (.ofInt value)

/-- Any NaN. -/
def isNaN (x : Binary64) : Bool := x.bits &&& 0x7fffffffffffffff > 0x7ff0000000000000

/-- The NaN that a fresh NaN is written as. -/
def nan : Binary64 := ⟨0x7ff8000000000000⟩

/-- The machine's number. -/
def toFloat (x : Binary64) : Float := Float.ofBits x.bits

/-- Numeric equality: the zeros are equal and a NaN differs from everything. -/
def eq (x y : Binary64) : Bool := x.toFloat == y.toFloat

end Binary64

namespace Binary32

/-- The number or special value that the pattern stands for. -/
def datum (x : Binary32) : Datum := FloatFormat.binary32.decode x.bits.toNat

/-- The pattern nearest to a datum. -/
def ofDatum (d : Datum) : Binary32 := ⟨UInt32.ofNat (FloatFormat.binary32.encode d)⟩

/-- The number nearest to an integer. -/
def ofInt (value : Int) : Binary32 := ofDatum (.ofInt value)

/-- Any NaN. -/
def isNaN (x : Binary32) : Bool := x.bits &&& 0x7fffffff > 0x7f800000

/-- The NaN that a fresh NaN is written as. -/
def nan : Binary32 := ⟨0x7fc00000⟩

/-- The machine's number. -/
def toFloat (x : Binary32) : Float32 := Float32.ofBits x.bits

/-- Numeric equality: the zeros are equal and a NaN differs from everything. -/
def eq (x y : Binary32) : Bool := x.toFloat == y.toFloat

/-- The same number with more digits. -/
def toBinary64 (x : Binary32) : Binary64 :=
  .ofDatum (x.datum.rescalePayload .binary32 .binary64)

end Binary32

/-- The nearest single-precision number. -/
def Binary64.toBinary32 (x : Binary64) : Binary32 :=
  .ofDatum (x.datum.rescalePayload .binary64 .binary32)

end KernelForge
