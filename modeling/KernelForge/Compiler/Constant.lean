import KernelForge.Code.CType
import KernelForge.Compiler.Lexeme

/-!
# Constants

The values of numbers, character constants and text constants. A number is an integer or a
floating-point number by its spelling and has the type that its suffix and size ask for. A constant
between quotes is a list of code units; a letter beyond ASCII is several units where units are bytes.
-/

namespace KernelForge.Compiler

open Code

/-- What follows the digits of an integer. -/
structure IntSuffix where
  isUnsigned : Bool
  /-- How many times `long` is asked for. -/
  longs : Nat
  isImaginary : Bool
  deriving DecidableEq, Repr

/-- The value of a number. -/
inductive NumberConstant where
  | integer (value : Nat) (isDecimal : Bool) (suffix : IntSuffix)
  /-- The number `digits * base ^ exponent`. -/
  | floating (digits : Nat) (isBinary : Bool) (exponent : Int) (kind : FloatKind) (isImaginary : Bool)
  deriving DecidableEq, Repr

/-- The number that digits of a base spell. Separators are left out. -/
def digitsValue? (base : Nat) (digits : List Char) : Option Nat :=
  (digits.filter (· ≠ '\'')).foldl
    (fun n c => do
      let n ← n
      let d ← hexDigit? c
      if d < base then some (n * base + d) else none)
    (some 0)

/-- The suffix of an integer. -/
def intSuffix? (suffix : List Char) : Option IntSuffix :=
  let imaginary := suffix.countP fun c => "iIjJ".toList.contains c
  let rest := suffix.filter fun c => !"iIjJ".toList.contains c
  let plain (isUnsigned : Bool) (longs : Nat) : Option IntSuffix :=
    if imaginary ≤ 1 then some ⟨isUnsigned, longs, imaginary = 1⟩ else none
  match String.ofList rest with
  | "" => plain false 0
  | "u" | "U" => plain true 0
  | "l" | "L" => plain false 1
  | "ll" | "LL" => plain false 2
  | "ul" | "uL" | "Ul" | "UL" | "lu" | "lU" | "Lu" | "LU" => plain true 1
  | "ull" | "uLL" | "Ull" | "ULL" | "llu" | "llU" | "LLu" | "LLU" => plain true 2
  | _ => none

/-- The suffix of a floating-point number: its type, and whether it is imaginary. -/
def floatSuffix? (suffix : List Char) : Option (FloatKind × Bool) :=
  let imaginary := suffix.countP fun c => "iIjJ".toList.contains c
  let rest := suffix.filter fun c => !"iIjJ".toList.contains c
  let kind : Option FloatKind :=
    match (String.ofList rest).toLower with
    | "" | "d" | "f64" | "f32x" => some .double
    | "f" | "f32" => some .single
    | "l" | "w" | "f64x" => some .extended
    | "q" | "f128" => some .quad
    | "f16" => some .half
    | _ => none
  if imaginary ≤ 1 then kind.map (·, imaginary = 1) else none

/-- The exponent of a number behind its mark: its value, and what follows. -/
def exponent? (text : List Char) : Option (Int × List Char) :=
  let (negative, digits) := match text with
    | '-' :: rest => (true, rest)
    | '+' :: rest => (false, rest)
    | rest => (false, rest)
  let (found, rest) := digits.span fun c => c.isDigit || c = '\''
  match digitsValue? 10 found with
  | some n => if found.isEmpty then none else some (if negative then -(n : Int) else n, rest)
  | none => none

/-- A floating-point number from its whole and fractional digits and what follows them. -/
def floating? (isHex : Bool) (whole fraction rest : List Char) : Option NumberConstant := do
  let base := if isHex then 16 else 10
  let digits ← digitsValue? base (whole ++ fraction)
  if whole.isEmpty && fraction.isEmpty then none
  let places : Int := (fraction.filter (· ≠ '\'')).length
  let marks := if isHex then "pP" else "eE"
  let (exponent, rest) ← match rest with
    | c :: behind => if marks.toList.contains c then exponent? behind else
        if isHex then none else some (0, rest)
    | [] => if isHex then none else some (0, rest)
  let (kind, isImaginary) ← floatSuffix? rest
  let exponent := max (-40000) (min 40000 exponent)
  return .floating digits isHex (exponent - (if isHex then 4 * places else places)) kind isImaginary

/-- The value of a number. -/
def numberConstant? (text : String) : Option NumberConstant :=
  let chars := text.toList
  let isHex := chars.take 2 = ['0', 'x'] || chars.take 2 = ['0', 'X']
  let isBinary := chars.take 2 = ['0', 'b'] || chars.take 2 = ['0', 'B']
  let body := if isHex || isBinary then chars.drop 2 else chars
  let isDigit (c : Char) : Bool := c = '\'' || (if isHex then (hexDigit? c).isSome else c.isDigit)
  let (whole, rest) := body.span isDigit
  match rest with
  | '.' :: behind =>
      if isBinary then none
      else
        let (fraction, rest) := behind.span isDigit
        floating? isHex whole fraction rest
  | _ =>
      let exponentMarks := if isHex then "pP" else "eE"
      if !isBinary && rest.head?.any exponentMarks.toList.contains then floating? isHex whole [] rest
      else do
        let base := if isHex then 16 else if isBinary then 2 else if whole.head? = some '0' then 8 else 10
        if whole.isEmpty then none
        return .integer (← digitsValue? base whole) (base = 10) (← intSuffix? rest)

/-- The type of an integer: the first that its suffix allows and that holds it. The standard of the
year 1989 lets a decimal number become unsigned. -/
def integerKind (old : Bool) (value : Nat) (isDecimal : Bool) (suffix : IntSuffix) : IntKind :=
  let signed : List IntKind := [.int, .long, .longLong].drop suffix.longs
  let allowed : List IntKind :=
    if suffix.isUnsigned then signed.map IntKind.toUnsigned
    else if isDecimal then
      if old && suffix.longs < 2 then signed ++ [.unsignedLong] else signed ++ [.wide]
    else signed.flatMap fun k => [k, k.toUnsigned]
  (allowed.find? fun k => (value : Int) ≤ k.greatest).getD .unsignedLongLong

/-- The units that a text constant is made of. -/
inductive TextUnit where
  | byte
  | wide
  | utf16
  | utf32
  deriving DecidableEq, Repr, Inhabited

/-- How many bytes a unit has. -/
def TextUnit.bytes : TextUnit → Nat
  | byte => 1
  | wide | utf32 => 4
  | utf16 => 2

/-- A text constant without the zero at its end. -/
structure TextConstant where
  unit : TextUnit
  units : List Nat
  deriving DecidableEq, Repr, Inhabited

/-- The units of a character. -/
def TextUnit.ofCode (unit : TextUnit) (code : Nat) : List Nat :=
  match unit with
  | byte =>
      if code < 0x80 then [code]
      else if code < 0x800 then [0xc0 + code / 0x40, 0x80 + code % 0x40]
      else if code < 0x10000 then
        [0xe0 + code / 0x1000, 0x80 + code / 0x40 % 0x40, 0x80 + code % 0x40]
      else
        [0xf0 + code / 0x40000, 0x80 + code / 0x1000 % 0x40, 0x80 + code / 0x40 % 0x40,
          0x80 + code % 0x40]
  | utf16 =>
      if code < 0x10000 then [code]
      else [0xd800 + (code - 0x10000) / 0x400, 0xdc00 + (code - 0x10000) % 0x400]
  | wide | utf32 => [code]

/-- The value of a letter behind a backslash. -/
def simpleEscape? : Char → Option Nat
  | 'n' => some 10
  | 't' => some 9
  | 'r' => some 13
  | 'a' => some 7
  | 'b' => some 8
  | 'f' => some 12
  | 'v' => some 11
  | 'e' | 'E' => some 27
  | '\\' => some 92
  | '\'' => some 39
  | '"' => some 34
  | '?' => some 63
  | _ => none

/-- The units between the quotes of a constant, in reverse; `fuel` bounds their number. -/
def quotedUnits (unit : TextUnit) : Nat → List Nat → List Char → Option (List Nat)
  | 0, _, _ => none
  | _, done, [] => some done
  | fuel + 1, done, '\\' :: c :: rest =>
      let limit := twoPow (8 * unit.bytes)
      match simpleEscape? c with
      | some n => quotedUnits unit fuel (n :: done) rest
      | none =>
          if c = 'x' then
            let (digits, rest) := rest.span fun c => (hexDigit? c).isSome
            match digits, digitsValue? 16 digits with
            | _ :: _, some n => quotedUnits unit fuel (n % limit :: done) rest
            | _, _ => none
          else if '0' ≤ c && c ≤ '7' then
            let digits := c :: (rest.take 2).takeWhile fun c => '0' ≤ c && c ≤ '7'
            let n := (digitsValue? 8 digits).getD 0
            quotedUnits unit fuel (n % limit :: done) (rest.drop (digits.length - 1))
          else if c = 'u' || c = 'U' then
            let width := if c = 'u' then 4 else 8
            match digitsValue? 16 (rest.take width) with
            | some code =>
                if rest.length < width || 0x110000 ≤ code || (0xd800 ≤ code && code < 0xe000) then none
                else
                  quotedUnits unit fuel ((unit.ofCode code).reverse ++ done) (rest.drop width)
            | none => none
          else quotedUnits unit fuel ((unit.ofCode c.toNat).reverse ++ done) rest
  | fuel + 1, done, c :: rest => quotedUnits unit fuel ((unit.ofCode c.toNat).reverse ++ done) rest

/-- The prefix of a constant in quotes, and what is between the quotes. -/
def splitQuoted (text : String) : String × List Char :=
  let isQuote (c : Char) : Bool := c = '"' || c = '\''
  let chars := text.toList
  (String.ofList (chars.takeWhile fun c => !isQuote c),
    ((chars.dropWhile fun c => !isQuote c).drop 1).dropLast)

/-- The units that a prefix asks for. -/
def TextUnit.ofPrefix : String → TextUnit
  | "L" => wide
  | "u" => utf16
  | "U" => utf32
  | _ => byte

/-- Text constants side by side are one, with the wide units of one of them. -/
def joinTexts? (texts : List String) : Option TextConstant :=
  let units := (texts.map fun t => TextUnit.ofPrefix (splitQuoted t).1).filter (· ≠ .byte)
  let unit := units.headD .byte
  if units.any (· ≠ unit) then none
  else do
    let found ← texts.mapM fun t =>
      let inside := (splitQuoted t).2
      (quotedUnits unit (inside.length + 1) [] inside).map List.reverse
    return ⟨unit, found.flatten⟩

/-- The value of a character constant and its type. Of several characters the last four count. -/
def characterConstant? (signedChar : Bool) (text : String) : Option (Int × IntKind) := do
  let (start, inside) := splitQuoted text
  let unit := TextUnit.ofPrefix start
  let units := (← quotedUnits unit (inside.length + 1) [] inside).reverse
  if units.isEmpty then none
  match unit with
  | .wide => return (IntKind.int.wrap (units.getLastD 0), .int)
  | .utf16 => return (units.getLastD 0, .unsignedShort)
  | .utf32 => return (units.getLastD 0, .unsignedInt)
  | .byte =>
      match units with
      | [n] => return (if signedChar then IntKind.char.wrap n else n, .int)
      | _ => return (IntKind.int.wrap (units.foldl (fun (n : Nat) u => n * 256 + u) 0 : Nat), .int)

end KernelForge.Compiler
