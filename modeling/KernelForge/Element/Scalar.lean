import KernelForge.Element.Basic
import KernelForge.Numeric.Binary

/-!
# Scalars and their conversion

A scalar is a value with its element type. `cast` converts between element types: integers drop high
bits, floating-point numbers are truncated toward zero and clamped to the target's range with NaN
going to zero, and every conversion to single precision goes through double precision.
-/

namespace KernelForge

/-- A value of one of the element types. -/
inductive Scalar where
  | int32 (value : Int32)
  | int64 (value : Int64)
  | float32 (value : Binary32)
  | float64 (value : Binary64)
  deriving DecidableEq

namespace Scalar

/-- The element type of a scalar. -/
def elementType : Scalar → ElementType
  | int32 _ => .int32
  | int64 _ => .int64
  | float32 _ => .float32
  | float64 _ => .float64

/-- The value in double precision. -/
def toBinary64 : Scalar → Binary64
  | int32 v => .ofInt v.toInt
  | int64 v => .ofInt v.toInt
  | float32 v => v.toBinary64
  | float64 v => v

/-- The 32-bit integer that a scalar converts to. -/
def toInt32 : Scalar → Int32
  | int32 v => v
  | int64 v => v.toInt32
  | float32 v => .ofInt (v.datum.clamp Int32.minValue.toInt Int32.maxValue.toInt)
  | float64 v => .ofInt (v.datum.clamp Int32.minValue.toInt Int32.maxValue.toInt)

/-- The 64-bit integer that a scalar converts to. -/
def toInt64 : Scalar → Int64
  | int32 v => v.toInt64
  | int64 v => v
  | float32 v => .ofInt (v.datum.clamp Int64.minValue.toInt Int64.maxValue.toInt)
  | float64 v => .ofInt (v.datum.clamp Int64.minValue.toInt Int64.maxValue.toInt)

/-- Converts to an element type; a scalar that has it already is left alone. -/
def cast (s : Scalar) (target : ElementType) : Scalar :=
  if s.elementType = target then s
  else match target with
    | .int32 => int32 s.toInt32
    | .int64 => int64 s.toInt64
    | .float32 => float32 s.toBinary64.toBinary32
    | .float64 => float64 s.toBinary64

/-- Numeric equality of scalars of one type: the zeros are equal and a NaN differs from itself. -/
def numericEq : Scalar → Scalar → Bool
  | int32 a, int32 b => a = b
  | int64 a, int64 b => a = b
  | float32 a, float32 b => a.eq b
  | float64 a, float64 b => a.eq b
  | _, _ => false

/-- A scalar that is converted has the new type. -/
@[simp] theorem elementType_cast (s : Scalar) (t : ElementType) : (s.cast t).elementType = t := by
  unfold cast
  split
  · assumption
  · cases t <;> rfl

/-- Converting to the own type changes nothing. -/
theorem cast_self (s : Scalar) : s.cast s.elementType = s := by simp [cast]

end Scalar

end KernelForge
