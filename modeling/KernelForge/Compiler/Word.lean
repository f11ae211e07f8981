import KernelForge.Code.CType
import KernelForge.Numeric.Exact

/-!
# Words

A word is the bit pattern of a number or address as a natural number. Integers wrap to their widths. A
floating-point operation rounds once; an operand that is no number passes through as a quiet one, the
first one winning, and an invalid operation gives the negative default. A floating-point number that an
integer type cannot hold becomes the pattern that the machine's conversion gives.
-/

namespace KernelForge.Code

namespace IntKind

/-- The pattern of an integer. -/
def word (kind : IntKind) (value : Int) : Nat :=
  if kind = bool then (if value = 0 then 0 else 1) else (value % twoPow kind.bits).toNat

/-- The integer of a pattern. -/
def value (kind : IntKind) (word : Nat) : Int :=
  if kind.isSigned && twoPow (kind.bits - 1) ≤ word then (word : Int) - twoPow kind.bits else word

end IntKind

namespace FloatKind

/-- The widths of the fraction and the exponent. -/
def format : FloatKind → FloatFormat
  | half => ⟨10, 5⟩
  | single => .binary32
  | double => .binary64
  | extended => ⟨63, 15⟩
  | quad => ⟨112, 15⟩

/-- The datum of a pattern. An extended number has its leading digit written out. -/
def datum (kind : FloatKind) (word : Nat) : Datum :=
  match kind with
  | extended =>
      let high := word / twoPow 64 % twoPow 16
      extended.format.decode (high * twoPow 63 + word % twoPow 63)
  | kind => kind.format.decode word

/-- The pattern nearest to a datum. -/
def ofDatum (kind : FloatKind) (d : Datum) : Nat :=
  let bits := kind.format.encode d
  match kind with
  | extended =>
      let high := bits / twoPow 63
      high * twoPow 64 + (if high % twoPow 15 = 0 then 0 else twoPow 63) + bits % twoPow 63
  | _ => bits

/-- The NaN of an invalid operation. -/
def invalid (kind : FloatKind) : Nat := kind.ofDatum (.nan true 0)

/-- A NaN with its quiet digit set. -/
def quiet (kind : FloatKind) (word : Nat) : Nat :=
  word ||| twoPow (kind.format.fractionBits - 1)

/-- The digit of the sign. -/
def signDigit : FloatKind → Nat
  | half => twoPow 15
  | single => 0x80000000
  | double => 0x8000000000000000
  | extended => twoPow 79
  | quad => twoPow 127

/-- Flips the sign digit. -/
def negate (kind : FloatKind) (word : Nat) : Nat := word ^^^ kind.signDigit

/-- Clears the sign digit. -/
def magnitude (kind : FloatKind) (word : Nat) : Nat := word % kind.signDigit

/-- Whether a pattern is no number. -/
def isNaN (kind : FloatKind) (word : Nat) : Bool :=
  match kind with
  | single => 0x7f800000 < word % 0x80000000
  | double => 0x7ff0000000000000 < word % 0x8000000000000000
  | kind => (kind.datum word).isNaN

/-- The pattern of zero without a sign is zero. -/
def isZero (kind : FloatKind) (word : Nat) : Bool := kind.magnitude word = 0

/-- The four operations. -/
inductive Operation where
  | add
  | sub
  | mul
  | div
  deriving DecidableEq, Repr, Inhabited

/-- An operation on data. -/
def Operation.exact? : Operation → Datum → Datum → Option Datum
  | add, x, y => x.add? y
  | sub, x, y => x.add? y.negate
  | mul, x, y => x.mul? y
  | div, x, y => x.div? y

/-- An operation on data, rounded to a pattern. -/
def exactly (kind : FloatKind) (op : Operation) (x y : Nat) : Nat :=
  let a := kind.datum x
  let b := kind.datum y
  if a.isNaN then kind.quiet x
  else if b.isNaN then kind.quiet y
  else
    match op.exact? a b with
    | some d => kind.ofDatum d
    | none => kind.invalid

/-- The operation of the machine in double precision. -/
def Operation.double : Operation → Float → Float → Float
  | add => (· + ·)
  | sub => (· - ·)
  | mul => (· * ·)
  | div => (· / ·)

/-- The operation of the machine in single precision. -/
def Operation.single : Operation → Float32 → Float32 → Float32
  | add => (· + ·)
  | sub => (· - ·)
  | mul => (· * ·)
  | div => (· / ·)

/-- A machine number. -/
def toFloat (word : Nat) : Float := Float.ofBits (UInt64.ofNat word)

/-- A machine number in single precision. -/
def toFloat32 (word : Nat) : Float32 := Float32.ofBits (UInt32.ofNat word)

/-- The pattern of a machine number; a new NaN is the one of an invalid operation. -/
def ofFloat (x : Float) : Nat := if x.isNaN then 0xfff8000000000000 else x.toBits.toNat

/-- The same in single precision. -/
def ofFloat32 (x : Float32) : Nat := if x.isNaN then 0xffc00000 else x.toBits.toNat

/-- An operation on patterns. -/
def operate (kind : FloatKind) (op : Operation) (x y : Nat) : Nat :=
  match kind with
  | double =>
      if double.isNaN x then double.quiet x
      else if double.isNaN y then double.quiet y
      else ofFloat (op.double (toFloat x) (toFloat y))
  | single =>
      if single.isNaN x then single.quiet x
      else if single.isNaN y then single.quiet y
      else ofFloat32 (op.single (toFloat32 x) (toFloat32 y))
  | kind => kind.exactly op x y

/-- Numeric order. -/
def less (kind : FloatKind) (x y : Nat) : Bool :=
  match kind with
  | double => toFloat x < toFloat y
  | single => toFloat32 x < toFloat32 y
  | kind => (kind.datum x).lt (kind.datum y)

/-- Numeric equality. -/
def same (kind : FloatKind) (x y : Nat) : Bool :=
  match kind with
  | double => toFloat x == toFloat y
  | single => toFloat32 x == toFloat32 y
  | kind => (kind.datum x).eq (kind.datum y)

/-- Moves a number to another type. -/
def convert (source target : FloatKind) (word : Nat) : Nat :=
  if source = target then word
  else if source = single && target = double && !single.isNaN word then (toFloat32 word).toFloat.toBits.toNat
  else if source = double && target = single && !double.isNaN word then (toFloat word).toFloat32.toBits.toNat
  else target.ofDatum ((source.datum word).rescalePayload source.format target.format)

/-- The number nearest to an integer. -/
def ofInt (kind : FloatKind) (value : Int) : Nat :=
  if value.natAbs < 0x8000000000000000 then
    match kind with
    | double => (Int64.ofInt value).toFloat.toBits.toNat
    | single => (Int64.ofInt value).toFloat32.toBits.toNat
    | kind => kind.ofDatum (.ofInt value)
  else kind.ofDatum (.ofInt value)

/-- The conversion of the machine to a signed integer: what does not fit becomes the least one. -/
def truncate (width : Nat) (d : Datum) : Int :=
  match d.toInt? .towardZero with
  | some n => if -twoPow (width - 1) ≤ n && n < twoPow (width - 1) then n else -twoPow (width - 1)
  | none => -twoPow (width - 1)

/-- The integer pattern that a number of double precision is converted to, when it is small. -/
def smallWord? (source : FloatKind) (target : IntKind) (word : Nat) : Option Nat :=
  if source = double && target ≠ .bool then
    let x := toFloat word
    if x.abs < 2147483648.0 then some (target.word x.toInt64.toInt) else none
  else none

/-- The integer pattern that a number is converted to. -/
def toWord (source : FloatKind) (target : IntKind) (word : Nat) : Nat :=
  match smallWord? source target word with
  | some w => w
  | none =>
  let d := source.datum word
  match target with
  | .bool => if source.isZero word then 0 else 1
  | .unsignedLong | .unsignedLongLong =>
      let half : Datum := .finite false 1 63
      if d.lt half || d.isNaN then target.word (truncate 64 d)
      else target.word (truncate 64 ((d.add? half.negate).getD d) + twoPow 63)
  | .wide | .unsignedWide => target.word (truncate 128 d)
  | .unsignedInt | .long | .longLong => target.word (truncate 64 d)
  | _ => target.word (truncate 32 d)

/-- The integer that a constant is converted to: what does not fit becomes the nearest limit. -/
def toLimits (source : FloatKind) (target : IntKind) (word : Nat) : Int :=
  if target = .bool then (if source.isZero word then 0 else 1)
  else (source.datum word).clamp target.least target.greatest

end FloatKind

/-- The types of words. -/
inductive WordType where
  | int (kind : IntKind)
  | float (kind : FloatKind)
  deriving DecidableEq, Repr, Inhabited

namespace WordType

/-- Addresses. -/
def address : WordType := int .unsignedLong

/-- Size in memory. -/
def bytes : WordType → Nat
  | int kind => kind.bytes
  | float kind => kind.bytes

/-- How many bytes of its size in memory a word fills. -/
def storedBytes : WordType → Nat
  | float .extended => 10
  | s => s.bytes

/-- A word of another type. -/
def convert (source target : WordType) (word : Nat) : Nat :=
  match source, target with
  | int a, int b => if a = b then word else b.word (a.value word)
  | int a, float b => b.ofInt (a.value word)
  | float a, int b => a.toWord b word
  | float a, float b => a.convert b word

/-- Whether a word counts as true. -/
def truth (s : WordType) (word : Nat) : Bool :=
  match s with
  | int _ => word ≠ 0
  | float kind => !kind.isZero word

end WordType

/-- The operations on two words of one type. -/
inductive Operator where
  | add
  | sub
  | mul
  | div
  | mod
  | and
  | or
  | xor
  | shiftLeft
  | shiftRight
  | eq
  | ne
  | lt
  | le
  | gt
  | ge
  deriving DecidableEq, Repr, Inhabited

namespace Operator

/-- Whether the result is a truth value. -/
def isComparison : Operator → Bool
  | eq | ne | lt | le | gt | ge => true
  | _ => false

/-- The pattern of a truth value. -/
def truthWord (b : Bool) : Nat := if b then 1 else 0

/-- The operations that are the same on machine words of eight bytes. -/
def onWords? (op : Operator) (x y : Nat) : Option Nat :=
  let a := UInt64.ofNat x
  let b := UInt64.ofNat y
  match op with
  | add => some (a + b).toNat
  | sub => some (a - b).toNat
  | mul => some (a * b).toNat
  | _ => none

/-- An operation on integers; a division by zero has no result. -/
def onInts? (op : Operator) (kind : IntKind) (x y : Nat) : Option Nat :=
  let full := twoPow kind.bits
  let less (x y : Nat) : Bool := if kind.isSigned then kind.value x < kind.value y else x < y
  match op with
  | add => some ((x + y) % full)
  | sub => some ((x + full - y) % full)
  | mul => some (x * y % full)
  | div => if y = 0 then none else some (kind.word ((kind.value x).tdiv (kind.value y)))
  | mod => if y = 0 then none else some (kind.word ((kind.value x).tmod (kind.value y)))
  | and => some (x &&& y)
  | or => some (x ||| y)
  | xor => some (x ^^^ y)
  | shiftLeft => some (x * twoPow (y % max kind.bits 32) % full)
  | shiftRight => some (kind.word ((kind.value x).fdiv (twoPow (y % max kind.bits 32))))
  | eq => some (truthWord (x = y))
  | ne => some (truthWord (x ≠ y))
  | lt => some (truthWord (less x y))
  | le => some (truthWord (!less y x))
  | gt => some (truthWord (less y x))
  | ge => some (truthWord (!less x y))

/-- An operation on floating-point numbers. -/
def onFloats? (op : Operator) (kind : FloatKind) (x y : Nat) : Option Nat :=
  match op with
  | add => some (kind.operate .add x y)
  | sub => some (kind.operate .sub x y)
  | mul => some (kind.operate .mul x y)
  | div => some (kind.operate .div x y)
  | eq => some (truthWord (kind.same x y))
  | ne => some (truthWord (!kind.same x y))
  | lt => some (truthWord (kind.less x y))
  | le => some (truthWord (kind.less x y || kind.same x y))
  | gt => some (truthWord (kind.less y x))
  | ge => some (truthWord (kind.less y x || kind.same x y))
  | _ => none

/-- An operation on words of a type. -/
def result? (op : Operator) (s : WordType) (x y : Nat) : Option Nat :=
  match s with
  | .int kind =>
      if kind.bits = 64 then
        match op.onWords? x y with
        | some w => some w
        | none => op.onInts? kind x y
      else op.onInts? kind x y
  | .float kind => op.onFloats? kind x y

end Operator

/-- The operations on one word. -/
inductive Prefix where
  | negate
  | complement
  | not
  | magnitude
  /-- Whether the sign digit is set. -/
  | sign
  deriving DecidableEq, Repr, Inhabited

/-- An operation on one word of a type. -/
def Prefix.apply (op : Prefix) (s : WordType) (word : Nat) : Nat :=
  match op, s with
  | negate, .int kind => (twoPow kind.bits - word) % twoPow kind.bits
  | negate, .float kind => kind.negate word
  | complement, .int kind => twoPow kind.bits - 1 - word
  | complement, .float _ => word
  | not, s => Operator.truthWord (!s.truth word)
  | magnitude, .int kind => kind.word (kind.value word).natAbs
  | magnitude, .float kind => kind.magnitude word
  | sign, .int kind => Operator.truthWord (kind.value word < 0)
  | sign, .float kind => Operator.truthWord (kind.signDigit ≤ word)

/-- Whether an operation gives a truth value. -/
def Prefix.isTest : Prefix → Bool
  | not | sign => true
  | _ => false

end KernelForge.Code
