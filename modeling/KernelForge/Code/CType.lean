import KernelForge.Numeric.Rounding

/-!
# The types of kernel source

Kernel source is C. Its integer types have the widths of a 64-bit machine on which `long` and an
address take eight bytes; `IntKind.wrap` brings an integer into a type's range, `promote` and
`common` are the conversions that arithmetic applies to its operands.
-/

namespace KernelForge.Code

/-- The integer types. -/
inductive IntKind where
  | bool
  | char
  /-- The type `char` where it has no negative values. -/
  | naturalChar
  | signedChar
  | unsignedChar
  | short
  | unsignedShort
  | int
  | unsignedInt
  | long
  | unsignedLong
  | longLong
  | unsignedLongLong
  | wide
  | unsignedWide
  deriving DecidableEq, Repr, Inhabited

namespace IntKind

/-- Width in binary digits. -/
def bits : IntKind → Nat
  | bool | char | naturalChar | signedChar | unsignedChar => 8
  | short | unsignedShort => 16
  | int | unsignedInt => 32
  | long | unsignedLong | longLong | unsignedLongLong => 64
  | wide | unsignedWide => 128

/-- Size in memory. -/
def bytes (kind : IntKind) : Nat := kind.bits / 8

/-- Whether the type has negative values. -/
def isSigned : IntKind → Bool
  | char | signedChar | short | int | long | longLong | wide => true
  | bool | naturalChar | unsignedChar | unsignedShort | unsignedInt | unsignedLong
  | unsignedLongLong | unsignedWide => false

/-- Position among the integer types; a signed type and its unsigned partner share one. -/
def rank : IntKind → Nat
  | bool => 0
  | char | naturalChar | signedChar | unsignedChar => 1
  | short | unsignedShort => 2
  | int | unsignedInt => 3
  | long | unsignedLong => 4
  | longLong | unsignedLongLong => 5
  | wide | unsignedWide => 6

/-- The unsigned type of the same width. -/
def toUnsigned : IntKind → IntKind
  | bool => bool
  | char | naturalChar | signedChar | unsignedChar => unsignedChar
  | short | unsignedShort => unsignedShort
  | int | unsignedInt => unsignedInt
  | long | unsignedLong => unsignedLong
  | longLong | unsignedLongLong => unsignedLongLong
  | wide | unsignedWide => unsignedWide

/-- The signed type of the same width. -/
def toSigned : IntKind → IntKind
  | bool => bool
  | char | naturalChar | signedChar | unsignedChar => signedChar
  | short | unsignedShort => short
  | int | unsignedInt => int
  | long | unsignedLong => long
  | longLong | unsignedLongLong => longLong
  | wide | unsignedWide => wide

/-- The least value. -/
def least (kind : IntKind) : Int := if kind.isSigned then -twoPow (kind.bits - 1) else 0

/-- The greatest value. -/
def greatest (kind : IntKind) : Int :=
  if kind = bool then 1
  else if kind.isSigned then twoPow (kind.bits - 1) - 1
  else twoPow kind.bits - 1

/-- The value of the type that is congruent to an integer; a truth value only tells zero apart. -/
def wrap (kind : IntKind) (value : Int) : Int :=
  if kind = bool then (if value = 0 then 0 else 1)
  else if kind.isSigned then value.bmod (twoPow kind.bits)
  else value % twoPow kind.bits

/-- Types narrower than `int` take part in arithmetic as `int`. -/
def promote (kind : IntKind) : IntKind := if kind.rank < int.rank then int else kind

/-- The type that two promoted operands are brought to. -/
def balance (a b : IntKind) : IntKind :=
  if a.isSigned = b.isSigned then (if a.rank < b.rank then b else a)
  else
    let (signed, unsigned) := if a.isSigned then (a, b) else (b, a)
    if signed.rank ≤ unsigned.rank then unsigned
    else if unsigned.bits < signed.bits then signed
    else signed.toUnsigned

/-- The type that arithmetic on two integers has. -/
def common (a b : IntKind) : IntKind := balance a.promote b.promote

/-- The spelling in source. -/
def spelling : IntKind → String
  | bool => "_Bool"
  | char | naturalChar => "char"
  | signedChar => "signed char"
  | unsignedChar => "unsigned char"
  | short => "short"
  | unsignedShort => "unsigned short"
  | int => "int"
  | unsignedInt => "unsigned int"
  | long => "long"
  | unsignedLong => "unsigned long"
  | longLong => "long long"
  | unsignedLongLong => "unsigned long long"
  | wide => "__int128"
  | unsignedWide => "unsigned __int128"

end IntKind

/-- The floating-point types. -/
inductive FloatKind where
  | half
  | single
  | double
  /-- Sixteen bytes in memory, of which ten are used. -/
  | extended
  | quad
  deriving DecidableEq, Repr, Inhabited

namespace FloatKind

/-- Size in memory. -/
def bytes : FloatKind → Nat
  | half => 2
  | single => 4
  | double => 8
  | extended | quad => 16

/-- Position among the floating-point types. -/
def rank : FloatKind → Nat
  | half => 0
  | single => 1
  | double => 2
  | extended => 3
  | quad => 4

/-- The wider of two types. -/
def common (a b : FloatKind) : FloatKind := if a.rank < b.rank then b else a

/-- The spelling in source. -/
def spelling : FloatKind → String
  | half => "_Float16"
  | single => "float"
  | double => "double"
  | extended => "long double"
  | quad => "_Float128"

end FloatKind

/-- The types of objects and expressions. A pointer records whether its target is constant. The
parameters of a function are part of its definition and not of its type. -/
inductive CType where
  | void
  | int (kind : IntKind)
  | float (kind : FloatKind)
  | pointer (target : CType) (isConst : Bool)
  | array (element : CType) (length : Nat)
  | function (result : CType)
  deriving DecidableEq, Repr, Inhabited

namespace CType

/-- Size in memory. -/
def bytes : CType → Nat
  | void | function _ => 1
  | int kind => kind.bytes
  | float kind => kind.bytes
  | pointer _ _ => 8
  | array element length => length * element.bytes

/-- How many values that are not arrays an object holds. -/
def cells : CType → Nat
  | array element length => length * element.cells
  | _ => 1

/-- Numbers and addresses. -/
def isScalar : CType → Bool
  | int _ | float _ | pointer _ _ => true
  | void | array _ _ | function _ => false

end CType

end KernelForge.Code
