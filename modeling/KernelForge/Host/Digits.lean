import KernelForge.Compiler.Constant
import KernelForge.Compiler.Word

/-!
# Numbers as text

Finite numbers are written with exact digits: the digits of the nearest number with so many places, a
half going to the even one. Texts are read as decimal or hexadecimal numbers and rounded once.
-/

namespace KernelForge.Host.Digits

open Code Compiler

/-- A quotient, rounded to the nearest integer, a half to the even one. -/
def roundedQuotient (a b : Nat) : Nat :=
  let q := a / b
  let r := 2 * (a % b)
  if b < r || (r = b && q % 2 = 1) then q + 1 else q

/-- The digits of a number, with zeros in front of them up to a width. -/
def padded (n width : Nat) : String :=
  let digits := toString n
  "".pushn '0' (width - digits.length) ++ digits

/-- The number `m * 2 ^ e` as a quotient. -/
def quotientOf (m : Nat) (e : Int) : Nat × Nat :=
  if 0 ≤ e then (m * twoPow e.toNat, 1) else (m, twoPow (-e).toNat)

/-- A point after so many digits; without places there is a point only when it is asked for. -/
def withPoint (whole places : String) (isForced : Bool) : String :=
  if places.isEmpty && !isForced then whole else whole ++ "." ++ places

/-- With a fixed number of places. -/
def fixed (a b places : Nat) (isForced : Bool) : String :=
  let n := roundedQuotient (a * Nat.pow 10 places) b
  let unit := Nat.pow 10 places
  withPoint (toString (n / unit)) (if places = 0 then "" else padded (n % unit) places) isForced

/-- The exponent of the leading decimal digit of a positive quotient, from an estimate that is too
large at first. -/
def leadingExponent (a b : Nat) : Nat → Int → Int
  | 0, e => e
  | fuel + 1, e =>
      let holds := if 0 ≤ e then b * Nat.pow 10 e.toNat ≤ a else b ≤ a * Nat.pow 10 (-e).toNat
      if holds then e else leadingExponent a b fuel (e - 1)

/-- The digits of a quotient with so many behind the leading one, and the exponent of that one. -/
def scientificDigits (a b places : Nat) : Nat × Int :=
  if a = 0 then (0, 0)
  else
    let estimate : Int := ((bitLength a : Int) - bitLength b + 1) * 30103 / 100000 + 1
    let e := leadingExponent a b 10 estimate
    let shift : Int := places - e
    let n := if 0 ≤ shift then roundedQuotient (a * Nat.pow 10 shift.toNat) b
      else roundedQuotient a (b * Nat.pow 10 (-shift).toNat)
    if n = Nat.pow 10 (places + 1) then (n / 10, e + 1) else (n, e)

/-- An exponent with its sign and at least two digits. -/
def exponentText (e : Int) : String :=
  (if e < 0 then "-" else "+") ++ padded e.natAbs 2

/-- With an exponent. -/
def scientific (a b places : Nat) (isForced : Bool) : String :=
  let (n, e) := scientificDigits a b places
  let unit := Nat.pow 10 places
  withPoint (toString (n / unit)) (if places = 0 then "" else padded (n % unit) places) isForced ++
    "e" ++ exponentText e

/-- Without the zeros at the end of the places. -/
def trimmed (text : String) : String :=
  if !text.toList.contains '.' then text
  else
    let mantissa := text.toList.takeWhile (· ≠ 'e')
    let rest := text.toList.dropWhile (· ≠ 'e')
    let kept := mantissa.reverse.dropWhile (· = '0')
    let kept := if kept.head? = some '.' then kept.drop 1 else kept
    String.ofList (kept.reverse ++ rest)

/-- In the shorter of the two ways, with so many digits that count. -/
def general (a b digits : Nat) (isForced : Bool) : String :=
  let digits := max 1 digits
  let (_, e) := scientificDigits a b (digits - 1)
  let text := if e < -4 || digits ≤ e then scientific a b (digits - 1) isForced
    else fixed a b ((digits : Int) - 1 - e).toNat isForced
  if isForced then text else trimmed text

/-- With hexadecimal digits; all of them when no number of places is given. -/
def hexadecimal (bits : Nat) (places : Option Nat) (isForced : Bool) : String :=
  let field := bits / twoPow 52 % 2048
  let fraction := bits % twoPow 52
  let lead := if field = 0 then 0 else 1
  let e : Int := if bits % twoPow 63 = 0 then 0 else if field = 0 then -1022 else (field : Int) - 1023
  let full := lead * twoPow 52 + fraction
  let hex (n width : Nat) : String :=
    let digits := String.ofList (Nat.toDigits 16 n)
    "".pushn '0' (width - digits.length) ++ digits
  let text := match places with
    | none =>
        let digits := (hex fraction 13).toList.reverse.dropWhile (· = '0')
        withPoint (toString lead) (String.ofList digits.reverse) isForced
    | some p =>
        if 13 ≤ p then withPoint (toString lead) (hex fraction 13 ++ "".pushn '0' (p - 13)) isForced
        else
          let unit := twoPow (4 * (13 - p))
          let n := roundedQuotient full unit
          let kept := twoPow (4 * p)
          withPoint (toString (n / kept)) (if p = 0 then "" else hex (n % kept) p) isForced
  "0x" ++ text ++ "p" ++ (if e < 0 then "-" else "+") ++ toString e.natAbs

/-- The most places that are written. -/
def placeLimit : Nat := 150

/-- The text of a number without its sign, in the way that a letter asks for. -/
def written (letter : Char) (isForced : Bool) (places : Option Nat) (bits : Nat) : String :=
  let places := places.map (min placeLimit)
  let lower := letter.toLower
  let text := match FloatFormat.binary64.decode bits with
    | .infinite _ => "inf"
    | .nan _ _ => "nan"
    | .finite _ m e =>
        let (a, b) := quotientOf m e
        if lower = 'f' then fixed a b (places.getD 6) isForced
        else if lower = 'e' then scientific a b (places.getD 6) isForced
        else if lower = 'a' then hexadecimal bits places isForced
        else general a b (places.getD 6) isForced
  if letter.isUpper then text.map Char.toUpper else text

/-- Reads an exponent behind its mark; nothing when it has no digits. -/
def exponentOf (marks rest : List Char) : Int × Nat :=
  match rest with
  | c :: behind =>
      if !marks.contains c then (0, 0)
      else
        let (negative, signs, digits) := match behind with
          | '-' :: r => (true, 1, r)
          | '+' :: r => (false, 1, r)
          | r => (false, 0, r)
        let found := digits.takeWhile Char.isDigit
        if found.isEmpty then (0, 0)
        else
          let n : Int := min 100000 ((digitsValue? 10 found).getD 0)
          (if negative then -n else n, 1 + signs + found.length)
  | [] => (0, 0)

/-- The number at the beginning of a text without sign, and how many characters it takes. -/
def magnitudeOf (text : List Char) : Option (Datum × Nat) :=
  let lower := (text.take 8).map Char.toLower
  if lower = "infinity".toList then some (.infinite false, 8)
  else if lower.take 3 = "inf".toList then some (.infinite false, 3)
  else if lower.take 3 = "nan".toList then some (.nan false 0, 3)
  else
    let read (isHex : Bool) (body : List Char) : Option (Datum × Nat) :=
      let isDigit (c : Char) : Bool := if isHex then (hexDigit? c).isSome else c.isDigit
      let whole := body.takeWhile isDigit
      let rest := body.dropWhile isDigit
      let (places, rest, points) := match rest with
        | '.' :: behind => (behind.takeWhile isDigit, behind.dropWhile isDigit, 1)
        | rest => ([], rest, 0)
      if whole.isEmpty && places.isEmpty then none
      else
        let (e, used) := exponentOf (if isHex then ['p', 'P'] else ['e', 'E']) rest
        let digits := (digitsValue? (if isHex then 16 else 10) (whole ++ places)).getD 0
        let d := if isHex then Datum.finite false digits (e - 4 * places.length)
          else .ofDecimal digits (max (-10000) (min 10000 (e - places.length)))
        some (d, whole.length + places.length + points + used)
    let isHex := lower.take 2 = ['0', 'x']
    match if isHex then read true (text.drop 2) else none with
    | some (d, n) => some (d, n + 2)
    | none => read false text

/-- The word of the number at the beginning of a text, and how many characters it takes. -/
def readNumber (text : List Char) : Nat × Nat :=
  let isBlank (c : Char) : Bool := c = ' ' || ('\x09' ≤ c && c ≤ '\x0d')
  let blanks := (text.takeWhile isBlank).length
  let body := text.dropWhile isBlank
  let (negative, signs, body) := match body with
    | '-' :: r => (true, 1, r)
    | '+' :: r => (false, 1, r)
    | r => (false, 0, r)
  match magnitudeOf body with
  | none => (0, 0)
  | some (d, n) =>
      let word := FloatFormat.binary64.encode d
      (if negative then word + twoPow 63 else word, blanks + signs + n)

end KernelForge.Host.Digits
