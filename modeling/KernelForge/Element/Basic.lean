/-!
# Element types, precision and argument slots

Matrices and scalars hold one of four element types. A compiled kernel takes a flat list of
arguments; each slot of that list is a scalar passed by value or a 64-bit address.
-/

namespace KernelForge

/-- What one element of a matrix, or one scalar argument, is. -/
inductive ElementType where
  | int32
  | int64
  | float32
  | float64
  deriving DecidableEq, Repr, Inhabited

namespace ElementType

/-- All element types, in their order. -/
def all : List ElementType := [.int32, .int64, .float32, .float64]

/-- Size in memory. -/
def bytes : ElementType → Nat
  | int32 | float32 => 4
  | int64 | float64 => 8

def isFloat : ElementType → Bool
  | float32 | float64 => true
  | int32 | int64 => false

def isInt : ElementType → Bool
  | int32 | int64 => true
  | float32 | float64 => false

/-- The name that messages use. -/
def name : ElementType → String
  | int32 => "Int32"
  | int64 => "Int64"
  | float32 => "Float32"
  | float64 => "Float64"

/-- The spelling in C source, for both targets. -/
def cName : ElementType → String
  | int32 => "int"
  | int64 => "long long"
  | float32 => "float"
  | float64 => "double"

/-- Position in the list of all element types. -/
def rank : ElementType → Nat
  | int32 => 0
  | int64 => 1
  | float32 => 2
  | float64 => 3

instance : Ord ElementType := ⟨fun a b => compare a.rank b.rank⟩

/-- Every element takes some bytes. -/
theorem bytes_pos (t : ElementType) : 0 < t.bytes := by cases t <;> decide

end ElementType

/-- The floating-point width that kernels are rendered for by default. -/
inductive Precision where
  | single
  | double
  deriving DecidableEq, Repr

namespace Precision

instance : Inhabited Precision := ⟨.double⟩

/-- The element type of that width. -/
def elementType : Precision → ElementType
  | single => .float32
  | double => .float64

/-- The lower-case word for a precision. -/
def name : Precision → String
  | single => "single"
  | double => "double"

/-- The capitalised word that record texts use. -/
def label : Precision → String
  | single => "Single"
  | double => "Double"

/-- Reads the word for a precision; ASCII letters may have either case. -/
def parse? (text : String) : Option Precision :=
  let word := text.map Char.toLower
  if word = single.name then some single
  else if word = double.name then some double
  else none

end Precision

/-- One slot of a compiled function's argument list. -/
inductive SlotType where
  /-- A scalar passed by value. -/
  | scalar (type : ElementType)
  /-- A 64-bit address. -/
  | pointer
  deriving DecidableEq, Repr, Inhabited

namespace SlotType

def bytes : SlotType → Nat
  | scalar type => type.bytes
  | pointer => 8

/-- The element type of a scalar slot. -/
def scalar? : SlotType → Option ElementType
  | scalar type => some type
  | pointer => none

/-- The short name. -/
def name : SlotType → String
  | scalar type => type.name
  | pointer => "ptr"

/-- The structural text that messages use. -/
def describe : SlotType → String
  | scalar type => "Scalar(" ++ type.name ++ ")"
  | pointer => "Ptr"

end SlotType

end KernelForge
