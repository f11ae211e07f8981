import KernelForge.Compiler.Letters

/-!
# Lexemes

The letters of a source text are cut into lexemes, line by line: names, numbers, character and text
constants, and marks. Comments count as blanks. Marks with a second spelling get their usual one.
Letters that begin nothing are kept as lexemes of their own, because they only matter where they are
used.
-/

namespace KernelForge.Compiler

/-- What a lexeme is. -/
inductive LexemeKind where
  | name
  | keyword
  | number
  /-- A constant between apostrophes. -/
  | character
  /-- A constant between quotation marks. -/
  | text
  | mark
  | other
  /-- Stands for an argument without lexemes. -/
  | nothing
  /-- Begins a directive for the compiler, which ends with `lineEnd`. -/
  | pragma
  | lineEnd
  deriving DecidableEq, Repr, Inhabited

/-- A lexeme with its spelling. -/
structure Lexeme where
  kind : LexemeKind
  text : String
  line : Nat
  /-- Whether blanks stand before it. -/
  blank : Bool
  /-- Whether it comes from a header. -/
  inHeader : Bool
  /-- The macros that do not apply to it any more. -/
  hidden : List String
  deriving DecidableEq, Repr, Inhabited

/-- Whether a lexeme is a mark. -/
def Lexeme.isMark (a : Lexeme) (text : String) : Bool := a.kind = .mark && a.text = text

/-- How letters are cut into lexemes. -/
structure LexemeRules where
  /-- A comment may begin with two slashes. -/
  lineComments : Bool
  /-- Names may hold letters beyond ASCII. -/
  wideNames : Bool
  /-- Names may hold the dollar sign. -/
  dollars : Bool
  /-- Text constants may have any of the prefixes for wide characters. -/
  widePrefixes : Bool
  /-- Whether the second spellings of marks are known. -/
  digraphs : Bool
  /-- Apostrophes may separate the digits of a number. -/
  separators : Bool
  deriving DecidableEq, Repr

/-- Ranges of the letters beyond ASCII that names may hold. -/
def nameTable : List (Nat × Nat) :=
  [(0xa8, 0xa8), (0xaa, 0xaa), (0xad, 0xad), (0xaf, 0xaf), (0xb2, 0xb5), (0xb7, 0xba), (0xbc, 0xbe),
    (0xc0, 0xd6), (0xd8, 0xf6), (0xf8, 0x167f), (0x1681, 0x180d), (0x180f, 0x1fff), (0x200b, 0x200d),
    (0x202a, 0x202e), (0x203f, 0x2040), (0x2054, 0x2054), (0x2060, 0x218f), (0x2460, 0x24ff),
    (0x2776, 0x2793), (0x2c00, 0x2dff), (0x2e80, 0x2fff), (0x3004, 0x3007), (0x3021, 0x302f),
    (0x3031, 0xd7ff), (0xf900, 0xfdcf), (0xfdf0, 0xfe44), (0xfe47, 0xfffd),
    (0x10000, 0x1fffd), (0x20000, 0x2fffd), (0x30000, 0x3fffd), (0x40000, 0x4fffd),
    (0x50000, 0x5fffd), (0x60000, 0x6fffd), (0x70000, 0x7fffd), (0x80000, 0x8fffd),
    (0x90000, 0x9fffd), (0xa0000, 0xafffd), (0xb0000, 0xbfffd), (0xc0000, 0xcfffd),
    (0xd0000, 0xdfffd), (0xe0000, 0xefffd)]

/-- Ranges of those letters that do not begin a name. -/
def markTable : List (Nat × Nat) :=
  [(0x300, 0x36f), (0x1dc0, 0x1dff), (0x20d0, 0x20ff), (0xfe20, 0xfe2f)]

/-- Whether a range of the table holds a letter. -/
def inTable (table : List (Nat × Nat)) (c : Char) : Bool :=
  table.any fun range => range.1 ≤ c.toNat && c.toNat ≤ range.2

namespace LexemeRules

variable (rules : LexemeRules)

/-- Letters that can begin a name. -/
def startsName (c : Char) : Bool :=
  c.isAlpha || c = '_' || (c = '$' && rules.dollars) ||
    (0x80 ≤ c.toNat && rules.wideNames && inTable nameTable c && !inTable markTable c)

/-- Letters that can continue a name. -/
def continuesName (c : Char) : Bool :=
  c.isAlphanum || c = '_' || (c = '$' && rules.dollars) ||
    (0x80 ≤ c.toNat && rules.wideNames && inTable nameTable c)

/-- The prefixes of text constants. -/
def prefixes : List String := if rules.widePrefixes then ["L", "u", "U", "u8"] else ["L"]

end LexemeRules

/-- Marks of more than one letter, the longer ones first. -/
def longMarks : List (List Char) :=
  ["%:%:", "...", "<<=", ">>=", "->", "++", "--", "<<", ">>", "<=", ">=", "==", "!=", "&&", "||", "*=",
    "/=", "%=", "+=", "-=", "&=", "^=", "|=", "##", "<:", ":>", "<%", "%>", "%:"].map String.toList

/-- The letters that are marks by themselves. -/
def shortMarks : List Char := "[]()\x7b\x7d.&*+-~!/%<>^|?:;=,#".toList

/-- The usual spelling of a mark. -/
def usualSpelling : String → String
  | "<:" => "["
  | ":>" => "]"
  | "<%" => "\x7b"
  | "%>" => "\x7d"
  | "%:" => "#"
  | "%:%:" => "##"
  | mark => mark

/-- The second spellings of marks. -/
def isDigraph (mark : List Char) : Bool :=
  ["<:", ":>", "<%", "%>", "%:", "%:%:"].any fun d => d.toList = mark

/-- Letters as a text. -/
def textOf (found : List Letter) : String := String.ofList (found.map Letter.char)

/-- The letters of a constant up to its closing quote, in reverse, and the letters behind it. A line
end before the quote leaves it open. -/
def closingQuote (quote : Char) (done : List Letter) : List Letter → Option (List Letter × List Letter)
  | [] => none
  | a :: rest =>
      if a.char = quote then some (a :: done, rest)
      else if a.char = '\n' then none
      else if a.char = '\\' then
        match rest with
        | [] => none
        | b :: rest => if b.char = '\n' then none else closingQuote quote (b :: a :: done) rest
      else closingQuote quote (a :: done) rest

/-- The letters of a number, in reverse, and those behind it. The sign of an exponent belongs to it. -/
def numberLetters? (rules : LexemeRules) (done : List Letter) : List Letter → List Letter × List Letter
  | [] => (done, [])
  | a :: rest =>
      let afterExponent := done.head?.any fun b => "eEpP".toList.contains b.char
      if (a.char = '+' || a.char = '-') && afterExponent then numberLetters? rules (a :: done) rest
      else if rules.continuesName a.char || a.char = '.' then numberLetters? rules (a :: done) rest
      else if a.char = '\'' && rules.separators &&
          rest.head?.any (fun b => b.char.isAlphanum || b.char = '_') then
        numberLetters? rules (a :: done) rest
      else (done, a :: rest)

/-- What follows a comment between its two marks. -/
def afterComment : List Letter → Option (List Letter)
  | [] => none
  | a :: rest =>
      if a.char = '*' && rest.head?.any (·.char = '/') then some (rest.drop 1) else afterComment rest

/-- The value of a hexadecimal digit. -/
def hexDigit? (c : Char) : Option Nat :=
  if c.isDigit then some (c.toNat - '0'.toNat)
  else if 'a' ≤ c && c ≤ 'f' then some (c.toNat - 'a'.toNat + 10)
  else if 'A' ≤ c && c ≤ 'F' then some (c.toNat - 'A'.toNat + 10)
  else none

/-- The number that hexadecimal digits stand for. -/
def hexNumber? (digits : List Char) : Option Nat :=
  digits.foldl (fun n c => do return 16 * (← n) + (← hexDigit? c)) (some 0)

/-- A letter that is written by its number, and what follows it. -/
def numberedLetter? : List Letter → Option (Letter × List Letter)
  | a :: b :: rest =>
      let width := if b.char = 'u' then 4 else if b.char = 'U' then 8 else 0
      let digits := (rest.take width).map Letter.char
      if a.char = '\\' && 0 < width && digits.length = width then
        (hexNumber? digits).map fun n => (⟨Char.ofNat n, a.line⟩, rest.drop width)
      else none
  | _ => none

/-- No name has more letters than this. -/
def longestName : Nat := 0x10000

/-- The letters of a name behind those that are kept in reverse. -/
def nameLetters (rules : LexemeRules) :
    Nat → List Letter → List Letter → List Letter × List Letter
  | 0, done, rest => (done.reverse, rest)
  | _, done, [] => (done.reverse, [])
  | fuel + 1, done, a :: rest =>
      if rules.continuesName a.char then nameLetters rules fuel (a :: done) rest
      else
        match numberedLetter? (a :: rest) with
        | some (b, behind) =>
            if rules.continuesName b.char then nameLetters rules fuel (b :: done) behind
            else (done.reverse, a :: rest)
        | none => (done.reverse, a :: rest)

/-- What follows a first letter that is no blank: the lexeme that it begins, and the rest. -/
def nextLexeme (rules : LexemeRules) (blank : Bool) (a : Letter) (rest : List Letter) :
    Lexeme × List Letter :=
  let make (kind : LexemeKind) (text : String) : Lexeme := ⟨kind, text, a.line, blank, false, []⟩
  let constant (opening : List Letter) (quote : Letter) (rest : List Letter) : Lexeme × List Letter :=
    let kind := if quote.char = '"' then LexemeKind.text else .character
    match closingQuote quote.char (quote :: opening.reverse) rest with
    | some (found, rest) => (make kind (textOf found.reverse), rest)
    | none => (make .other (textOf [quote]), rest)
  let (a, rest) := (numberedLetter? (a :: rest)).getD (a, rest)
  let c := a.char
  if rules.startsName c then
    let (found, rest) := nameLetters rules longestName [a] rest
    let name := textOf found
    match rest with
    | quote :: behind =>
        if (quote.char = '"' && rules.prefixes.contains name) ||
            (quote.char = '\'' && (name ≠ "u8" || rules.separators) && rules.prefixes.contains name) then
          constant found quote behind
        else (make .name name, rest)
    | [] => (make .name name, rest)
  else if c.isDigit || (c = '.' && rest.head?.any (·.char.isDigit)) then
    let (found, rest) := numberLetters? rules [a] rest
    (make .number (textOf found.reverse), rest)
  else if c = '"' || c = '\'' then constant [] a rest
  else
    let ahead := (a :: rest.take 3).map Letter.char
    match longMarks.find? fun m => m.isPrefixOf ahead && (rules.digraphs || !isDigraph m) with
    | some m => (make .mark (usualSpelling (String.ofList m)), rest.drop (m.length - 1))
    | none =>
        if shortMarks.contains c then (make .mark (String.singleton c), rest)
        else (make .other (String.singleton c), rest)

/-- Cuts letters into the lines of lexemes. The lexemes of the current line are kept in reverse. -/
def cutLetters (rules : LexemeRules) (fuel : Nat) (lines : Array (List Lexeme)) (line : List Lexeme)
    (blank : Bool) (input : List Letter) : Except Refusal (Array (List Lexeme)) :=
  match fuel, input with
  | _, [] => .ok (if line.isEmpty then lines else lines.push line.reverse)
  | 0, _ => .ok lines
  | fuel + 1, a :: rest =>
      if a.char = '\n' then cutLetters rules fuel (lines.push line.reverse) [] false rest
      else if isSpace a.char then cutLetters rules fuel lines line true rest
      else if a.char = '/' && rest.head?.any (·.char = '*') then
        match afterComment (rest.drop 1) with
        | some rest => cutLetters rules fuel lines line true rest
        | none => .error ⟨a.line, "a comment is not closed"⟩
      else if a.char = '/' && rules.lineComments && rest.head?.any (·.char = '/') then
        cutLetters rules fuel lines line true (rest.dropWhile (·.char ≠ '\n'))
      else
        let (lexeme, rest) := nextLexeme rules blank a rest
        cutLetters rules fuel lines (lexeme :: line) false rest

/-- The lines of a text. -/
def lexemeLines (rules : LexemeRules) (trigraphs : Bool) (text : String) :
    Except Refusal (Array (List Lexeme)) :=
  let found := letters trigraphs text
  cutLetters rules (found.length + 1) #[] [] false found

/-- The rules of the usual dialect. -/
def LexemeRules.usual : LexemeRules := ⟨true, true, true, true, true, false⟩

/-- The lexemes of a text of one line; a text that cannot be cut has none. -/
def lexemesOf (text : String) : List Lexeme :=
  match lexemeLines .usual false text with
  | .ok lines => lines.toList.flatten
  | .error _ => []

end KernelForge.Compiler
