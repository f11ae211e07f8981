import Std.Data.HashMap
import KernelForge.Compiler.Setting

/-!
# Macros

A macro replaces a name, or a name with arguments in parentheses, by lexemes. A lexeme remembers the
macros that it came from, which do not apply to it again. Arguments are expanded before they are put
in, except beside the marks that make a text of an argument or join two lexemes into one.
-/

namespace KernelForge.Compiler

/-- What a name is replaced by. -/
structure Macro where
  /-- The names of the arguments, when there are parentheses; the last one of a variadic macro takes
  all further arguments. -/
  params : Option (List String)
  isVariadic : Bool
  body : List Lexeme
  deriving DecidableEq, Repr, Inhabited

/-- A file that is being read. -/
structure OpenFile where
  name : String
  /-- What is added to the number of a line. -/
  shift : Int
  isHeader : Bool
  /-- The conditional directives that are open, the innermost first. -/
  conditions : List (Bool × Bool × Bool)
  deriving Repr, Inhabited

/-- A line that is to be read. -/
inductive SourceLine where
  | lexemes (line : List Lexeme)
  /-- The end of an included file. -/
  | leave

/-- The state of reading a source text. -/
structure Reading where
  setting : Setting
  macros : Std.HashMap String Macro
  input : List SourceLine
  /-- The files that are open, the innermost first. -/
  files : List OpenFile
  output : Array Lexeme
  counter : Nat
  /-- Names that may not be used. -/
  poisoned : List String
  /-- Definitions that were put aside. -/
  saved : List (String × Option Macro)
  /-- The choices of warnings that were put aside. -/
  choices : List Warnings
  /-- Files that are read only once. -/
  once : List String
  /-- The lines of the files that can be included. -/
  header : String → Option (List SourceLine)

/-- Work on the text that is being read. -/
abbrev Reader := StateT Reading (Except Refusal)

/-- Refuses the source. -/
def Reader.refuse {α : Type} (line : Nat) (reason : String) : Reader α := throw ⟨line, reason⟩

/-- A warning: refuses the source when warnings of the name do. Headers give none. -/
def Reader.warn (name : String) (line : Nat) (reason : String) : Reader Unit := do
  let reading ← get
  let inHeader := reading.files.head?.any (·.isHeader)
  if !inHeader && reading.setting.warnings.fails name then throw ⟨line, reason⟩

namespace Lexeme

/-- A lexeme with other letters in the same place. -/
def replaced (a : Lexeme) (kind : LexemeKind) (text : String) : Lexeme :=
  { a with kind := kind, text := text }

end Lexeme

/-- The lexemes of an argument as the letters of a text constant. -/
def quotedArgument (arg : List Lexeme) : String :=
  let escaped (a : Lexeme) : String :=
    if a.kind = .text || a.kind = .character then
      String.join (a.text.toList.map fun c =>
        if c = '"' || c = '\\' then "\\" ++ String.singleton c else String.singleton c)
    else a.text
  let pieces := arg.mapIdx fun i a => (if a.blank && i ≠ 0 then " " else "") ++ escaped a
  "\"" ++ String.join pieces ++ "\""

/-- Joins two lexemes into one. -/
def joinLexemes (setting : Setting) (a b : Lexeme) : Except String Lexeme :=
  if a.kind = .nothing then .ok { b with blank := a.blank }
  else if b.kind = .nothing then .ok a
  else
    match lexemeLines setting.lexemeRules false (a.text ++ b.text) with
    | .ok #[[c]] =>
        if c.kind = .other then .error "two lexemes cannot be joined"
        else .ok { a with kind := c.kind, text := c.text, hidden := a.hidden.filter b.hidden.contains }
    | _ => .error "two lexemes cannot be joined"

/-- The arguments of a use of a macro. -/
structure MacroUse where
  macro_ : Macro
  /-- The name that is replaced. -/
  name : Lexeme
  args : List (List Lexeme)

namespace MacroUse

variable (use : MacroUse)

/-- The argument for a lexeme of the body, when it names one. -/
def argument? (a : Lexeme) : Option (List Lexeme) :=
  if a.kind ≠ .name then none
  else do
    let params ← use.macro_.params
    let i ← params.findIdx? (· = a.text)
    return use.args.getD i []

/-- Whether a lexeme names the argument that takes all further ones. -/
def isRest (a : Lexeme) : Bool :=
  use.macro_.isVariadic && use.macro_.params.any fun params => params.getLast? = some a.text

/-- What an argument puts beside a joining mark. -/
def rawArgument (a : Lexeme) : List Lexeme :=
  match use.argument? a with
  | some [] => [a.replaced .nothing ""]
  | some (first :: rest) => { first with blank := a.blank } :: rest
  | none => [a]

/-- The lexemes up to a closing parenthesis, and those behind it. -/
def untilClosed (depth : Nat) (done : List Lexeme) : List Lexeme → List Lexeme × List Lexeme
  | [] => (done.reverse, [])
  | a :: rest =>
      if a.isMark ")" then
        match depth with
        | 0 => (done.reverse, rest)
        | depth + 1 => untilClosed depth (a :: done) rest
      else untilClosed (if a.isMark "(" then depth + 1 else depth) (a :: done) rest

/-- Whether further arguments were given. -/
def hasRest : Bool :=
  match use.macro_.params with
  | some params => use.macro_.isVariadic && !(use.args.getD (params.length - 1) []).isEmpty
  | none => false

/-- Joins the last lexeme of a list with the first of another. -/
def joinLists (setting : Setting) (left right : List Lexeme) : Except String (List Lexeme) :=
  match left.getLast?, right with
  | some a, b :: rest => do return left.dropLast ++ (← joinLexemes setting a b) :: rest
  | some _, [] => .ok left
  | none, right => .ok right

/-- Puts the arguments into a body. `expanded` gives an argument after macros were replaced in it, and
`pending` is what the next operand of a joining mark is joined with. -/
def fill (setting : Setting) (expanded : List Lexeme → Reader (List Lexeme)) :
    Nat → List Lexeme → Option (List Lexeme) → Reader (List Lexeme)
  | 0, _, _ => Reader.refuse use.name.line "a macro is too long"
  | _, [], pending => return pending.getD []
  | fuel + 1, a :: rest, pending => do
      let isFunction := use.macro_.params.isSome
      let joins := rest.head?.any (·.isMark "##")
      let commaBeforeRest := a.isMark "," && joins &&
        (rest.drop 1).head?.any use.isRest && setting.extensions
      if commaBeforeRest && pending.isNone then
        let behind := rest.drop 2
        let more := (rest.drop 1).flatMap fun b => if use.isRest b then use.rawArgument b else []
        let whole := if use.hasRest then [a] else []
        if behind.head?.any (·.isMark "##") then
          fill setting expanded fuel (behind.drop 1)
            (some (whole ++ (if use.hasRest then more else [])))
        else
          let filled ← if use.hasRest then expanded ((rest.drop 1).head?.bind use.argument? |>.getD [])
            else pure []
          return whole ++ filled ++ (← fill setting expanded fuel behind none)
      else
        let (operand, behind) ←
          if isFunction && a.isMark "#" then
            match rest.head?.bind use.argument? with
            | some arg => pure ([a.replaced .text (quotedArgument arg)], rest.drop 1)
            | none =>
                if rest.head?.any (·.text = "__VA_OPT__") then
                  let (inside, behind) := untilClosed 0 [] (rest.drop 2)
                  let filled ← if use.hasRest then fill setting expanded fuel inside none else pure []
                  pure ([a.replaced .text (quotedArgument filled)], behind)
                else Reader.refuse use.name.line "no argument follows the mark of a text"
          else if use.macro_.isVariadic && a.text = "__VA_OPT__" then
            let (inside, behind) := untilClosed 0 [] (rest.drop 1)
            let filled ← if use.hasRest then fill setting expanded fuel inside none else pure []
            pure (if filled.isEmpty then [a.replaced .nothing ""] else filled, behind)
          else if joins || pending.isSome then pure (use.rawArgument a, rest)
          else
            match use.argument? a with
            | some arg =>
                let filled ← expanded arg
                pure (match filled with
                  | [] => []
                  | first :: more => { first with blank := a.blank } :: more, rest)
            | none => pure ([a], rest)
        let joined ← match pending with
          | none => pure operand
          | some left =>
              match joinLists setting left operand with
              | .ok joined => pure joined
              | .error reason => Reader.refuse use.name.line reason
        match behind with
        | mark :: behind' =>
            if mark.isMark "##" && !behind'.isEmpty then
              fill setting expanded fuel behind' (some joined)
            else return joined ++ (← fill setting expanded fuel behind none)
        | [] => return joined

end MacroUse

/-- The number of the line that a lexeme is reported in. -/
def reportedLine (line : Nat) : Reader Nat := do
  let shift := ((← get).files.head?.map (·.shift)).getD 0
  return ((line : Int) + shift).toNat

/-- The text constant for a name of a file. -/
def quotedName (name : String) : String :=
  "\"" ++ String.join (name.toList.map fun c =>
    if c = '"' || c = '\\' then "\\" ++ String.singleton c else String.singleton c) ++ "\""

/-- Names that stand for something that changes while a text is read. -/
def movingMacro? (a : Lexeme) : Reader (Option Lexeme) := do
  match a.text with
  | "__LINE__" => return some (a.replaced .number (toString (← reportedLine a.line)))
  | "__FILE__" =>
      return some (a.replaced .text (quotedName (((← get).files.head?.map (·.name)).getD "")))
  | "__BASE_FILE__" =>
      return some (a.replaced .text (quotedName (((← get).files.getLast?.map (·.name)).getD "")))
  | "__INCLUDE_LEVEL__" =>
      return some (a.replaced .number (toString ((← get).files.length - 1)))
  | "__COUNTER__" =>
      let n := (← get).counter
      modify fun reading => { reading with counter := n + 1 }
      return some (a.replaced .number (toString n))
  | "__DATE__" => return some (a.replaced .text "\"Jan  1 2026\"")
  | "__TIME__" => return some (a.replaced .text "\"00:00:00\"")
  | "__TIMESTAMP__" => return some (a.replaced .text "\"Thu Jan  1 00:00:00 2026\"")
  | _ => return none

/-- Makes sure that there is a next lexeme, fetching further lines while there are any. -/
def someNext (refill : Reader (Option (List Lexeme))) : Nat → List Lexeme → Reader (List Lexeme)
  | 0, input => return input
  | fuel + 1, [] => do
      match ← refill with
      | some line => someNext refill fuel line
      | none => return []
  | _, input => return input

/-- The arguments of a macro behind the opening parenthesis, with the closing parenthesis and what
follows it. The current argument and the arguments done are kept in reverse. -/
def collectArguments (refill : Reader (Option (List Lexeme))) (limit : Nat) :
    Nat → Nat → List Lexeme → List (List Lexeme) → List Lexeme →
      Reader (Option (List (List Lexeme) × Lexeme × List Lexeme))
  | 0, _, _, _, _ => return none
  | fuel + 1, depth, current, done, [] => do
      match ← refill with
      | some line =>
          let line := match line with
            | [] => []
            | first :: rest => { first with blank := true } :: rest
          collectArguments refill limit fuel depth current done line
      | none => return none
  | fuel + 1, depth, current, done, a :: rest =>
      if a.isMark ")" then
        match depth with
        | 0 => return some ((current.reverse :: done).reverse, a, rest)
        | depth + 1 => collectArguments refill limit fuel depth (a :: current) done rest
      else if a.isMark "(" then collectArguments refill limit fuel (depth + 1) (a :: current) done rest
      else if a.isMark "," && depth = 0 && done.length + 1 < limit then
        collectArguments refill limit fuel depth [] (current.reverse :: done) rest
      else collectArguments refill limit fuel depth (a :: current) done rest

/-- How many lexemes a text may have after macros were replaced. -/
def expansionLimit : Nat := 100000000

/-- Replaces macros. `refill` gives the next line for a use that goes on there. -/
def expandFrom (refill : Reader (Option (List Lexeme))) :
    Nat → List Lexeme → Array Lexeme → Reader (Array Lexeme)
  | 0, _, done => return done
  | _, [], done => return done
  | fuel + 1, a :: rest, done => do
      if a.kind = .nothing then expandFrom refill fuel rest done
      else if a.kind ≠ .name then expandFrom refill fuel rest (done.push a)
      else
        let reading ← get
        if reading.poisoned.contains a.text then
          Reader.refuse a.line "a name that may not be used"
        else if a.hidden.contains a.text then expandFrom refill fuel rest (done.push a)
        else
          match reading.macros[a.text]? with
          | none =>
              match ← movingMacro? a with
              | some b => expandFrom refill fuel rest (done.push b)
              | none => expandFrom refill fuel rest (done.push a)
          | some found =>
              let inside (use : MacroUse) : Reader (List Lexeme) :=
                use.fill reading.setting
                  (fun arg => do return (← expandFrom (pure none) fuel arg #[]).toList)
                  (found.body.length + 2) found.body none
              let placed (hidden : List String) (filled : List Lexeme) : List Lexeme :=
                (filled.map fun b => { b with hidden := hidden ++ b.hidden, line := a.line }).modifyHead
                  fun b => { b with blank := a.blank }
              match found.params with
              | none =>
                  let filled ← inside ⟨found, a, []⟩
                  expandFrom refill fuel (placed (a.text :: a.hidden) filled ++ rest) done
              | some params =>
                  let rest ← someNext refill 1000000 rest
                  match rest with
                  | opening :: behind =>
                      if !opening.isMark "(" then expandFrom refill fuel rest (done.push a)
                      else
                        let limit := if found.isVariadic then params.length else behind.length + 1000000
                        match ← collectArguments refill limit expansionLimit 0 [] [] behind with
                        | none => Reader.refuse a.line "the arguments of a macro do not end"
                        | some (args, closing, behind) =>
                            let given := if args = [[]] && params.isEmpty then 0 else args.length
                            let enough := given = params.length ||
                              (found.isVariadic && given + 1 = params.length)
                            if !enough then
                              Reader.refuse a.line "a macro gets the wrong number of arguments"
                            else
                              let filled ← inside ⟨found, a, args⟩
                              let hidden := a.text :: a.hidden.filter closing.hidden.contains
                              expandFrom refill fuel (placed hidden filled ++ behind) done
                  | [] => expandFrom refill fuel [] (done.push a)

/-- Replaces macros in lexemes that stand alone. -/
def expandLexemes (input : List Lexeme) : Reader (List Lexeme) := do
  return (← expandFrom (pure none) expansionLimit input #[]).toList

end KernelForge.Compiler
