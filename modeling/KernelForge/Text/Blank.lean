/-!
# Blank characters, words and lines

A character property of the Unicode standard is a table of inclusive ranges of code points. This one
is `White_Space`, with what is built on it: trimming and splitting into words.

A line ends with a line feed, before which one carriage return is dropped; text after the last line
feed is a line when there is any. Indenting a block pads every line that is not blank, drops trailing
blanks, and empties the blank lines.
-/

namespace KernelForge.Text

/-- Whether some inclusive range of the table holds the code point of `c`. -/
def inRanges (table : Array (Nat × Nat)) (c : Char) : Bool :=
  table.any fun range => range.1 ≤ c.toNat && c.toNat ≤ range.2

/-- Ranges of the blank characters. -/
def blankTable : Array (Nat × Nat) := #[
  (0x9, 0xd), (0x20, 0x20), (0x85, 0x85), (0xa0, 0xa0), (0x1680, 0x1680), (0x2000, 0x200a),
  (0x2028, 0x2029), (0x202f, 0x202f), (0x205f, 0x205f), (0x3000, 0x3000)]

/-- Whether a character is blank. -/
def isBlank (c : Char) : Bool := inRanges blankTable c

/-- The characters up to the last one that is not blank. -/
def trimEnd (cs : List Char) : List Char :=
  (cs.reverse.dropWhile isBlank).reverse

/-- The maximal runs of characters that are not blank, in order. -/
def words (cs : List Char) : List (List Char) :=
  cs.foldr
    (fun c (state : List (List Char) × Bool) =>
      if isBlank c then (state.1, false)
      else match state with
        | (run :: rest, true) => ((c :: run) :: rest, true)
        | (runs, _) => ([c] :: runs, true))
    ([], false) |>.1

/-- Drops one carriage return at the end. -/
def dropReturn (line : List Char) : List Char :=
  if line.getLast? = some '\r' then line.dropLast else line

/-- The lines of a text: `line` holds the characters of the current one in reverse. -/
def linesFrom (line : List Char) : List Char → List (List Char)
  | [] => if line.isEmpty then [] else [line.reverse]
  | c :: rest =>
      if c = '\n' then dropReturn line.reverse :: linesFrom [] rest
      else linesFrom (c :: line) rest

/-- The lines of a text. -/
def lines (cs : List Char) : List (List Char) := linesFrom [] cs

/-- The blanks of one level of indentation. -/
def indentUnit : List Char := [' ', ' ', ' ', ' ']

/-- One line of an indented block. -/
def indentLine (depth : Nat) (line : List Char) : List Char :=
  if line.all isBlank then [] else (List.replicate depth indentUnit).flatten ++ trimEnd line

/-- A block, moved right by `depth` levels. -/
def indent (depth : Nat) (block : String) : String :=
  String.ofList ((lines block.toList).map (indentLine depth) |>.intersperse ['\n'] |>.flatten)

end KernelForge.Text
