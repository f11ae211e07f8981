/-!
# Hexadecimal text

Bit patterns are written with a fixed number of lower-case digits, bytes with two digits each. Capital
digits are read too.
-/

namespace KernelForge.Text

/-- A number in at least so many digits. -/
def hexText (width n : Nat) : String :=
  let digits := Nat.toDigits 16 n
  String.ofList (List.replicate (width - digits.length) '0' ++ digits)

/-- The value of a digit. -/
def hexDigit? (c : Char) : Option Nat := "0123456789abcdef".toList.idxOf? c.toLower

/-- The number that digits spell. -/
def parseHexDigits? (digits : List Char) : Option Nat :=
  digits.foldlM (fun n c => return 16 * n + (← hexDigit? c)) 0

/-- The number that a text spells. -/
def parseHex? (text : String) : Option Nat := parseHexDigits? text.toList

/-- Bytes, two digits for each. -/
def bytesText (bytes : List UInt8) : String :=
  String.join (bytes.map fun b => hexText 2 b.toNat)

/-- The bytes that pairs of digits spell. -/
def bytesOfDigits? : List Char → Option (List UInt8)
  | [] => some []
  | [_] => none
  | a :: b :: rest => do
      let n ← parseHexDigits? [a, b]
      return UInt8.ofNat n :: (← bytesOfDigits? rest)

/-- The bytes that a text spells. -/
def parseBytes? (text : String) : Option (List UInt8) := bytesOfDigits? text.toList

end KernelForge.Text
