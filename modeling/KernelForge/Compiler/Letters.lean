/-!
# The letters of a source text

A source text is read as letters, each with the number of its line. A backslash at the end of a line
joins it to the next one, and where trigraphs are on, three characters stand for one. A mark of the
byte order in front of everything is dropped.
-/

namespace KernelForge.Compiler

/-- Why a source text is refused, with the line where the reason was found. -/
structure Refusal where
  line : Nat
  reason : String
  deriving DecidableEq, Repr, Inhabited

/-- A character with the number of its line. -/
structure Letter where
  char : Char
  line : Nat
  deriving DecidableEq, Repr, Inhabited

/-- Blanks inside a line. -/
def isSpace (c : Char) : Bool :=
  c = ' ' || c = '\t' || c = '\x0b' || c = '\x0c' || c = '\x00'

/-- The character that two question marks and a further character stand for. -/
def trigraph? : Char → Option Char
  | '=' => some '#'
  | '/' => some '\\'
  | '\'' => some '^'
  | '(' => some '['
  | ')' => some ']'
  | '!' => some '|'
  | '<' => some '{'
  | '>' => some '}'
  | '-' => some '~'
  | _ => none

/-- Replaces trigraphs; the characters done so far are kept in reverse. -/
def replaceTrigraphs (done : List Char) : List Char → List Char
  | '?' :: '?' :: c :: rest =>
      match trigraph? c with
      | some short => replaceTrigraphs (short :: done) rest
      | none => replaceTrigraphs ('?' :: done) ('?' :: c :: rest)
  | c :: rest => replaceTrigraphs (c :: done) rest
  | [] => done.reverse

/-- Line ends of two characters become line feeds. -/
def plainLineEnds (done : List Char) : List Char → List Char
  | '\r' :: '\n' :: rest => plainLineEnds ('\n' :: done) rest
  | c :: rest => plainLineEnds (c :: done) rest
  | [] => done.reverse

/-- How many characters after a backslash belong to a joined line end: blanks and the line feed. -/
def joinLength : List Char → Option Nat
  | [] => some 0
  | c :: rest => if c = '\n' then some 1 else if isSpace c then (joinLength rest).map (· + 1) else none

/-- Numbers the characters by lines and drops joined line ends; `skip` counts the characters of a
line end that are still to be dropped. -/
def numberLetters (done : Array Letter) (line skip : Nat) : List Char → Array Letter
  | [] => done
  | c :: rest =>
      let line' := if c = '\n' then line + 1 else line
      match skip with
      | skip + 1 => numberLetters done line' skip rest
      | 0 =>
          if c = '\\' then
            match joinLength rest with
            | some n => numberLetters done line n rest
            | none => numberLetters (done.push ⟨c, line⟩) line 0 rest
          else numberLetters (done.push ⟨c, line⟩) line' 0 rest

/-- The letters of a text. -/
def letters (trigraphs : Bool) (text : String) : List Letter :=
  let chars := text.toList
  let chars := if chars.head? = some '\ufeff' then chars.drop 1 else chars
  let chars := plainLineEnds [] chars
  let chars := if trigraphs then replaceTrigraphs [] chars else chars
  (numberLetters #[] 1 0 chars).toList

end KernelForge.Compiler
