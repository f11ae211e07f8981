import KernelForge.Compiler.Word

/-!
# Mathematical functions

The functions of the mathematical library on words. Functions whose results are exact or rounded once
are computed from the exact numbers; the others are those of the machine. A name ends in `f` for the
narrower type and in `l` for the wider one.
-/

namespace KernelForge.Code

namespace Mathematics

/-- The functions of the machine on one number. -/
def machineUnary : String → Option ((Float → Float) × (Float32 → Float32))
  | "exp" => some (Float.exp, Float32.exp)
  | "exp2" => some (Float.exp2, Float32.exp2)
  | "log" => some (Float.log, Float32.log)
  | "log2" => some (Float.log2, Float32.log2)
  | "log10" => some (Float.log10, Float32.log10)
  | "sin" => some (Float.sin, Float32.sin)
  | "cos" => some (Float.cos, Float32.cos)
  | "tan" => some (Float.tan, Float32.tan)
  | "asin" => some (Float.asin, Float32.asin)
  | "acos" => some (Float.acos, Float32.acos)
  | "atan" => some (Float.atan, Float32.atan)
  | "sinh" => some (Float.sinh, Float32.sinh)
  | "cosh" => some (Float.cosh, Float32.cosh)
  | "tanh" => some (Float.tanh, Float32.tanh)
  | "asinh" => some (Float.asinh, Float32.asinh)
  | "acosh" => some (Float.acosh, Float32.acosh)
  | "atanh" => some (Float.atanh, Float32.atanh)
  | "cbrt" => some (Float.cbrt, Float32.cbrt)
  | _ => none

/-- The functions of the machine on two numbers. -/
def machineBinary : String → Option ((Float → Float → Float) × (Float32 → Float32 → Float32))
  | "pow" => some (Float.pow, Float32.pow)
  | "atan2" => some (Float.atan2, Float32.atan2)
  | _ => none

/-- The directions of the functions that round to an integer. -/
def roundingOf : String → Option Datum.Direction
  | "trunc" => some .towardZero
  | "floor" => some .down
  | "ceil" => some .up
  | "rint" | "nearbyint" | "roundeven" => some .nearestEven
  | "round" => some .nearestAway
  | _ => none

variable (kind : FloatKind)

/-- Applies a function of the machine; the wider types lose digits on the way. -/
def onMachine (f : (Float → Float) × (Float32 → Float32)) (x : Nat) : Nat :=
  match kind with
  | .single => FloatKind.ofFloat32 (f.2 (FloatKind.toFloat32 x))
  | .double => FloatKind.ofFloat (f.1 (FloatKind.toFloat x))
  | kind => FloatKind.double.convert kind (FloatKind.ofFloat (f.1 (FloatKind.toFloat (kind.convert .double x))))

/-- The same for two numbers. -/
def onMachine₂ (f : (Float → Float → Float) × (Float32 → Float32 → Float32)) (x y : Nat) : Nat :=
  let double (w : Nat) : Float := FloatKind.toFloat (kind.convert .double w)
  match kind with
  | .single => FloatKind.ofFloat32 (f.2 (FloatKind.toFloat32 x) (FloatKind.toFloat32 y))
  | kind => FloatKind.double.convert kind (FloatKind.ofFloat (f.1 (double x) (double y)))

/-- The exponent of the first digit of a finite datum that is not zero. -/
def exponentOf (m : Nat) (e : Int) : Int := e + bitLength m - 1

/-- The neighbour of a pattern toward positive or negative infinity. -/
def neighbour (up : Bool) (x : Nat) : Nat :=
  let negative := kind.signDigit ≤ x
  match kind with
  | .extended =>
      let d := FloatKind.extended.datum x
      match d with
      | .finite s m e =>
          let place := FloatKind.extended.format.lastPlace m e
          let place := if m ≠ 0 && twoPow (bitLength m - 1) = m && (up = s) &&
              FloatKind.extended.format.leastExponent < place then place - 1 else place
          FloatKind.extended.ofDatum
            (((Datum.finite s m e).add? (.finite (!up) 1 place)).getD d)
      | d => FloatKind.extended.ofDatum d
  | _ =>
      if kind.isZero x then (if up then 1 else kind.signDigit + 1)
      else if negative = up then x - 1 else x + 1

/-- Functions of one number of a type. -/
def unary? (name : String) (x : Nat) : Option Nat :=
  let d := kind.datum x
  match machineUnary name with
  | some f => some (if kind.isNaN x then kind.quiet x else onMachine kind f x)
  | none =>
      match roundingOf name with
      | some direction => some (if kind.isNaN x then kind.quiet x else kind.ofDatum (d.round direction))
      | none =>
          match name with
          | "fabs" => some (kind.magnitude x)
          | "sqrt" =>
              match kind with
              | .single => some (if kind.isNaN x then kind.quiet x
                  else FloatKind.ofFloat32 (FloatKind.toFloat32 x).sqrt)
              | .double => some (if kind.isNaN x then kind.quiet x
                  else FloatKind.ofFloat (FloatKind.toFloat x).sqrt)
              | kind => some ((d.sqrt?.map kind.ofDatum).getD kind.invalid)
          | "logb" =>
              match d with
              | .finite _ 0 _ => some (kind.ofDatum (.infinite true))
              | .finite _ m e => some (kind.ofInt (exponentOf m e))
              | .infinite _ => some (kind.ofDatum (.infinite false))
              | .nan _ _ => some (kind.quiet x)
          | "significand" =>
              match d with
              | .finite s m e => some (kind.ofDatum (.finite s m (if m = 0 then 0 else e - exponentOf m e)))
              | _ => some x
          | "nextup" => some (if kind.isNaN x || d = .infinite false then x else neighbour kind true x)
          | "nextdown" => some (if kind.isNaN x || d = .infinite true then x else neighbour kind false x)
          | _ => none

/-- The larger or smaller number; a NaN gives way to the other one. -/
def extreme (larger : Bool) (x y : Nat) : Nat :=
  if kind.isNaN x then y
  else if kind.isNaN y then x
  else if kind.same x y then (if larger = (kind.signDigit ≤ x) then y else x)
  else if kind.less x y = larger then y else x

/-- Functions of two numbers of a type. -/
def binary? (name : String) (x y : Nat) : Option Nat :=
  match machineBinary name with
  | some f => some (onMachine₂ kind f x y)
  | none =>
      let a := kind.datum x
      let b := kind.datum y
      let remainder (nearest : Bool) : Nat :=
        if kind.isNaN x then kind.quiet x else if kind.isNaN y then kind.quiet y
        else ((a.remainder? nearest b).map fun r => kind.ofDatum r.1).getD kind.invalid
      match name with
      | "fmod" => some (remainder false)
      | "remainder" | "drem" => some (remainder true)
      | "fmax" => some (extreme kind true x y)
      | "fmin" => some (extreme kind false x y)
      | "fdim" =>
          some (if kind.isNaN x then kind.quiet x else if kind.isNaN y then kind.quiet y
            else if kind.less y x then kind.operate .sub x y else 0)
      | "copysign" => some (kind.magnitude x + (if kind.signDigit ≤ y then kind.signDigit else 0))
      | "nextafter" | "nexttoward" =>
          some (if kind.isNaN x then kind.quiet x else if kind.isNaN y then kind.quiet y
            else if kind.same x y then y else neighbour kind (kind.less x y) x)
      | _ => none

/-- A product and a sum, rounded once. -/
def fusedProduct (x y z : Nat) : Nat :=
  let a := kind.datum x
  let b := kind.datum y
  let c := kind.datum z
  if a.isNaN then kind.quiet x
  else if b.isNaN then kind.quiet y
  else
    match a.mul? b with
    | none => kind.invalid
    | some p =>
        if c.isNaN then kind.quiet z
        else ((p.add? c).map kind.ofDatum).getD kind.invalid

/-- A number times a power of two. -/
def scaled (x : Nat) (k : Int) : Nat :=
  if kind.isNaN x then kind.quiet x
  else kind.ofDatum ((kind.datum x).scale (max (-100000) (min 100000 k)))

/-- A number rounded to an integer of 64 digits; one that does not fit becomes the least one. -/
def toLong (direction : Datum.Direction) (x : Nat) : Int :=
  FloatKind.truncate 64 ((kind.datum x).round direction)

/-- The exponent as an integer. -/
def exponent (x : Nat) : Int :=
  match kind.datum x with
  | .finite _ 0 _ => -2147483648
  | .finite _ m e => exponentOf m e
  | .infinite _ => 2147483647
  | .nan _ _ => -2147483648

/-- The name of a function without the letter of its type, and the type. -/
def split (base : String → Bool) (name : String) : Option (String × FloatKind) :=
  if base name then some (name, .double)
  else
    let short := String.ofList name.toList.dropLast
    if name.endsWith "f" && base short then some (short, .single)
    else if name.endsWith "l" && base short then some (short, .extended)
    else none

/-- The functions of one number to a number of the same type. -/
def unaryNames : List String :=
  ["exp", "exp2", "log", "log2", "log10", "sin", "cos", "tan", "asin", "acos", "atan", "sinh", "cosh",
    "tanh", "asinh", "acosh", "atanh", "cbrt", "trunc", "floor", "ceil", "rint", "nearbyint", "roundeven",
    "round", "fabs", "sqrt", "logb", "significand", "nextup", "nextdown"]

/-- The functions of two numbers to a number of the same type. -/
def binaryNames : List String :=
  ["pow", "atan2", "fmod", "remainder", "drem", "fmax", "fmin", "fdim", "copysign", "nextafter"]

/-- The functions of a number and an integer. -/
def scaleNames : List String := ["ldexp", "scalbn", "scalbln"]

/-- The functions of a number to an integer, with the direction of rounding. -/
def integerNames : List (String × Datum.Direction) :=
  [("lrint", .nearestEven), ("llrint", .nearestEven), ("lround", .nearestAway), ("llround", .nearestAway)]

/-- How many digits of a pattern are one. -/
def ones (x : Nat) : Nat → Nat
  | 0 => 0
  | n + 1 => x / twoPow n % 2 + ones x n

/-- How many zeros a pattern ends in, up to a width. -/
def trailingZeros (x : Nat) : Nat → Nat
  | 0 => 0
  | n + 1 => if x % 2 = 1 then 0 else 1 + trailingZeros (x / 2) n

/-- The bytes of a pattern in reverse order. -/
def reverseBytes (x : Nat) : Nat → Nat
  | 0 => 0
  | n + 1 => x % 256 * twoPow (8 * n) + reverseBytes (x / 256) n

/-- Functions on the digits of an integer, by their names without the letters of the width. -/
def digits? (name : String) (width x : Nat) : Option Nat :=
  match name with
  | "popcount" => some (ones x width)
  | "parity" => some (ones x width % 2)
  | "clz" => some (width - bitLength x)
  | "ctz" => some (if x = 0 then width else trailingZeros x width)
  | "ffs" => some (if x = 0 then 0 else trailingZeros x width + 1)
  | "clrsb" =>
      let negative := twoPow (width - 1) ≤ x
      some (width - 1 - bitLength (if negative then twoPow width - 1 - x else x))
  | "bswap" => some (reverseBytes x (width / 8))
  | _ => none

/-- The functions on digits with their widths. -/
def digitFunctions : List (String × String × Nat) :=
  (["popcount", "parity", "clz", "ctz", "ffs", "clrsb"].flatMap fun n =>
    [(n, n, 32), (n ++ "l", n, 64), (n ++ "ll", n, 64)]) ++
    [("bswap16", "bswap", 16), ("bswap32", "bswap", 32), ("bswap64", "bswap", 64)]

/-- A function on digits under its reserved name. -/
def reserved? (name : String) (x : Nat) : Option Nat := do
  if !name.startsWith "__builtin_" then none
  let (base, width) ← digitFunctions.lookup (String.ofList (name.toList.drop 10))
  digits? base width x

/-- A function by its name, on words. -/
def call? (name : String) (args : List Nat) : Option Nat :=
  match args with
  | [x] =>
      (reserved? name x).orElse fun _ =>
      match split unaryNames.contains name with
      | some (base, kind) => unary? kind base x
      | none =>
          match split (fun n => (integerNames.lookup n).isSome) name with
          | some (base, kind) => (integerNames.lookup base).map fun d => IntKind.long.word (toLong kind d x)
          | none => (split (· = "ilogb") name).map fun (_, kind) => IntKind.int.word (exponent kind x)
  | [x, y] =>
      match split binaryNames.contains name with
      | some (base, kind) => binary? kind base x y
      | none =>
          match split scaleNames.contains name with
          | some (base, kind) =>
              some (scaled kind x ((if base = "scalbln" then IntKind.long else .int).value y))
          | none => none
  | [x, y, z] => (split (· = "fma") name).map fun (_, kind) => fusedProduct kind x y z
  | _ => none

end Mathematics

end KernelForge.Code
