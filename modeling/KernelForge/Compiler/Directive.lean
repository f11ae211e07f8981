import KernelForge.Compiler.Condition
import KernelForge.Compiler.Macro

/-!
# Directives

Lines that begin with a number sign define macros, include files and choose which lines are read.
Directives for the compiler itself are handed on among the lexemes, between two lexemes that mark
their beginning and end.
-/

namespace KernelForge.Compiler

namespace Reader

/-- Whether the lines of the open file are read. -/
def isActive : Reader Bool := do
  match (← get).files with
  | file :: _ => return file.conditions.all fun c => c.1
  | [] => return true

/-- Changes the innermost open file. -/
def modifyFile (f : OpenFile → OpenFile) : Reader Unit :=
  modify fun reading =>
    match reading.files with
    | file :: rest => { reading with files := f file :: rest }
    | [] => reading

end Reader

/-- The names that only conditions know. -/
def conditionNames : List String :=
  ["__has_include", "__has_include_next", "__has_attribute", "__has_cpp_attribute", "__has_c_attribute",
    "__has_builtin"]

/-- Whether a name is defined. -/
def isDefined (name : String) : Reader Bool := do
  return (← get).macros.contains name || conditionNames.contains name ||
    ["__LINE__", "__FILE__", "__BASE_FILE__", "__INCLUDE_LEVEL__", "__COUNTER__", "__DATE__", "__TIME__",
      "__TIMESTAMP__"].contains name

/-- The file that an `#include` names, without the marks around it. -/
def includedName? : List Lexeme → Option String
  | a :: rest =>
      if a.kind = .text then some (String.ofList ((a.text.toList.drop 1).dropLast))
      else if a.isMark "<" then
        let inside := rest.takeWhile fun b => !b.isMark ">"
        if inside.length = rest.length then none
        else some (String.join (inside.map fun b => (if b.blank then " " else "") ++ b.text))
      else none
  | [] => none

/-- The attributes that a condition can ask for. -/
def askedAttributes : List String :=
  ["aligned", "always_inline", "const", "pure", "noinline", "unused", "used", "packed", "noreturn", "cold",
    "hot", "deprecated", "format", "malloc", "nonnull", "visibility", "weak", "alias", "constructor",
    "destructor", "section", "vector_size", "warn_unused_result", "fallthrough", "optimize", "target",
    "flatten", "noclone", "leaf", "nothrow", "returns_nonnull", "sentinel", "transparent_union",
    "may_alias", "mode", "cleanup", "alloc_size", "assume_aligned", "artificial", "gnu_inline", "error",
    "warning", "externally_visible", "ifunc", "no_instrument_function", "simd", "symver", "tls_model",
    "returns_twice", "access", "copy", "designated_init", "nonstring", "maybe_unused", "nodiscard"]

/-- Whether a question about a name or a file is answered with yes. -/
def answer (question : String) (inside : List Lexeme) : Reader Bool := do
  let name := String.join (inside.map (·.text))
  let bare (text : String) : List Char := text.toList.filter (· ≠ '_')
  match question with
  | "__has_include" | "__has_include_next" =>
      let header := (← get).header
      return (includedName? inside).any fun file => (header file).isSome
  | "__has_builtin" =>
      return name.startsWith "__builtin_" || name.startsWith "__atomic_" || name.startsWith "__sync_"
  | _ => return askedAttributes.any fun known => bare known = bare name

/-- Answers the questions of a condition about names and files; `fuel` bounds its lexemes. -/
def answerQuestions : Nat → List Lexeme → Reader (List Lexeme)
  | 0, input => return input
  | _, [] => return []
  | fuel + 1, a :: rest => do
      let truth (b : Bool) : Lexeme := a.replaced .number (if b then "1" else "0")
      if a.kind = .name && a.text = "defined" then
        match rest with
        | b :: behind =>
            if b.kind = .name then
              return truth (← isDefined b.text) :: (← answerQuestions fuel behind)
            else
              match behind with
              | c :: d :: behind =>
                  if b.isMark "(" && c.kind = .name && d.isMark ")" then
                    return truth (← isDefined c.text) :: (← answerQuestions fuel behind)
                  else Reader.refuse a.line "a name is missing after defined"
              | _ => Reader.refuse a.line "a name is missing after defined"
        | [] => Reader.refuse a.line "a name is missing after defined"
      else if a.kind = .name && conditionNames.contains a.text then
        if !rest.head?.any (·.isMark "(") then
          Reader.refuse a.line "a parenthesis is missing after a question"
        else
          let inside := (rest.drop 1).takeWhile fun b => !b.isMark ")"
          return truth (← answer a.text inside) ::
            (← answerQuestions fuel (rest.drop (inside.length + 2)))
      else return a :: (← answerQuestions fuel rest)

/-- Whether the condition of a directive holds. -/
def holds (line : Nat) (input : List Lexeme) : Reader Bool := do
  let asked ← answerQuestions (input.length + 1) input
  let expanded ← expandLexemes asked
  let answered ← answerQuestions (expanded.length + 1) expanded
  for a in answered do
    if a.kind = .name then Reader.warn "undef" line "a name in a condition is not defined"
  match conditionHolds answered with
  | .ok b => return b
  | .error reason => Reader.refuse line reason

/-- The parameters of a macro: their names, whether the last one takes all further arguments, and what
follows the closing parenthesis. -/
def macroParams (done : List String) : List Lexeme → Option (List String × Bool × List Lexeme)
  | a :: b :: rest =>
      if a.isMark ")" && done.isEmpty then some ([], false, b :: rest)
      else if a.isMark "..." && b.isMark ")" then some ((("__VA_ARGS__" :: done).reverse), true, rest)
      else if a.kind = .name && !done.contains a.text && a.text ≠ "__VA_ARGS__" then
        if b.isMark ")" then some ((a.text :: done).reverse, false, rest)
        else if b.isMark "," then
          match rest with
          | c :: _ => if c.isMark ")" then none else macroParams (a.text :: done) rest
          | [] => none
        else if b.isMark "..." && rest.head?.any (·.isMark ")") then
          some ((a.text :: done).reverse, true, rest.drop 1)
        else none
      else none
  | [a] => if a.isMark ")" && done.isEmpty then some ([], false, []) else none
  | [] => none

/-- Whether two macros replace by the same lexemes. -/
def Macro.agrees (a b : Macro) : Bool :=
  let spelled (m : Macro) : List (String × Bool) :=
    m.body.mapIdx fun i c => (c.text, c.blank && i ≠ 0)
  a.params = b.params && a.isVariadic = b.isVariadic && spelled a = spelled b

/-- Whether every mark of a text in a body is followed by a parameter. -/
def marksFollowed (params : List String) : List Lexeme → Bool
  | [] => true
  | a :: rest =>
      (!a.isMark "#" || rest.head?.any fun b => params.contains b.text || b.text = "__VA_OPT__") &&
        marksFollowed params rest

/-- Defines a macro from what follows `#define`. -/
def define (line : Nat) (input : List Lexeme) : Reader Unit := do
  match input with
  | [] => Reader.refuse line "a definition has no name"
  | a :: rest =>
      if a.kind ≠ .name || a.text = "defined" || a.text = "__VA_ARGS__" then
        Reader.refuse line "a definition has no name"
      let isFunction := rest.head?.any fun b => b.isMark "(" && !b.blank
      let found ← if isFunction then
          match macroParams [] (rest.drop 1) with
          | some (params, isVariadic, body) =>
              if !marksFollowed params body then
                Reader.refuse line "no parameter follows the mark of a text"
              pure (Macro.mk (some params) isVariadic body)
          | none => Reader.refuse line "the parameters of a macro are malformed"
        else do
          match rest with
          | b :: _ =>
              if !b.blank && b.kind ≠ .nothing then
                Reader.warn "" line "blanks are missing behind the name of a macro"
          | [] => pure ()
          pure (Macro.mk none false rest)
      if found.body.head?.any (·.isMark "##") || found.body.getLast?.any (·.isMark "##") then
        Reader.refuse line "a joining mark stands at the end of a macro"
      let reading ← get
      if reading.poisoned.contains a.text then Reader.refuse line "a name that may not be used"
      match reading.macros[a.text]? with
      | some old =>
          if !old.agrees found then Reader.warn "" line "a macro is defined again"
      | none =>
          if (← movingMacro? a).isSome then
            Reader.warn "builtin-macro-redefined" line "a fixed macro is defined again"
      modify fun reading => { reading with macros := reading.macros.insert a.text found }

/-- Takes back a definition. -/
def undefine (line : Nat) (input : List Lexeme) : Reader Unit := do
  match input with
  | a :: rest =>
      if a.kind ≠ .name || a.text = "defined" then Reader.refuse line "a definition has no name"
      if !rest.isEmpty then Reader.warn "" line "something follows a directive"
      modify fun reading => { reading with macros := reading.macros.erase a.text }
  | [] => Reader.refuse line "a definition has no name"

/-- Files may be open inside one another so often. -/
def includeLimit : Nat := 200

/-- Reads a file next. -/
def includeFile (line : Nat) (name : String) : Reader Unit := do
  let reading ← get
  if includeLimit ≤ reading.files.length then Reader.refuse line "files are included too deeply"
  match reading.header name with
  | none => Reader.refuse line ("there is no file " ++ name)
  | some lines =>
      if !reading.once.contains name then
        set { reading with
          input := lines ++ SourceLine.leave :: reading.input
          files := ⟨name, 0, true, []⟩ :: reading.files
          once := if name = "assert.h" then reading.once else name :: reading.once }

/-- Reads the file that a directive names. -/
def includeNamed (line : Nat) (input : List Lexeme) : Reader Unit := do
  match includedName? input with
  | some name => includeFile line name
  | none =>
      match includedName? (← expandLexemes input) with
      | some name => includeFile line name
      | none => Reader.refuse line "the name of a file is missing"

/-- Renumbers the lines from the next one on. -/
def renumber (line : Nat) (input : List Lexeme) : Reader Unit := do
  let expanded ← expandLexemes input
  match expanded with
  | a :: rest =>
      match a.kind, digitsValue? 10 a.text.toList with
      | .number, some n =>
          if !a.text.toList.all Char.isDigit then Reader.refuse line "a malformed number of a line"
          if 2147483648 ≤ n then Reader.refuse line "the number of a line is too large"
          Reader.modifyFile fun file => { file with shift := (n : Int) - (line + 1) }
          match rest with
          | b :: _ =>
              if b.kind ≠ .text || !b.text.startsWith "\"" then
                Reader.refuse line "a malformed name of a file"
              Reader.modifyFile fun file =>
                { file with name := String.ofList ((b.text.toList.drop 1).dropLast) }
          | [] => pure ()
      | _, _ => Reader.refuse line "a malformed number of a line"
  | [] => Reader.refuse line "the number of a line is missing"

/-- Puts a directive for the compiler among the lexemes. -/
def handOn (line : Nat) (input : List Lexeme) : Reader Unit :=
  modify fun reading =>
    let edge (kind : LexemeKind) : Lexeme := ⟨kind, "", line, false, false, []⟩
    { reading with output :=
        ((reading.output.push (edge .pragma)).append input.toArray).push (edge .lineEnd) }

/-- The text between the quotes of the first text constant. -/
def quotedInside? (input : List Lexeme) : Option String :=
  (input.find? fun a => a.kind = .text).map fun a => String.ofList ((a.text.toList.drop 1).dropLast)

/-- Puts a definition aside or takes it back. -/
def putAside (input : List Lexeme) (back : Bool) : Reader Unit := do
  match quotedInside? input with
  | none => pure ()
  | some name =>
      let reading ← get
      if back then
        match reading.saved.find? fun e => e.1 = name with
        | some (_, some found) =>
            set { reading with
              macros := reading.macros.insert name found
              saved := reading.saved.eraseP fun e => e.1 = name }
        | some (_, none) =>
            set { reading with
              macros := reading.macros.erase name
              saved := reading.saved.eraseP fun e => e.1 = name }
        | none => pure ()
      else set { reading with saved := (name, reading.macros[name]?) :: reading.saved }

/-- Directives of the compiler that are known by their second name. -/
def knownDirectives : List String :=
  ["diagnostic", "ivdep", "unroll", "optimize", "target", "push_options", "pop_options",
    "reset_options", "visibility", "pch_preprocess", "poison", "system_header", "dependency", "warning",
    "error"]

/-- Changes what happens with warnings. -/
def changeWarnings (input : List Lexeme) : Reader Unit := do
  let reading ← get
  let warnings := reading.setting.warnings
  let keep (warnings : Warnings) : Reader Unit :=
    modify fun reading => { reading with setting := { reading.setting with warnings := warnings } }
  match input with
  | a :: rest =>
      let name := ((quotedInside? rest).map fun s => String.ofList (s.toList.drop 2)).getD ""
      match a.text with
      | "push" => set { reading with choices := warnings :: reading.choices }
      | "pop" =>
          match reading.choices with
          | saved :: rest =>
              keep saved
              modify fun reading => { reading with choices := rest }
          | [] => pure ()
      | "ignored" => keep (warnings.choose name false)
      | "warning" => keep ((warnings.choose name true).chooseFailing name false)
      | "error" => keep (warnings.chooseFailing name true)
      | _ => Reader.warn "pragmas" a.line "an unknown directive about warnings"
  | [] => pure ()

/-- A directive for the compiler, without its first name. -/
def compilerDirective (line : Nat) (input : List Lexeme) : Reader Unit := do
  let setting := (← get).setting
  match input with
  | [] => pure ()
  | a :: rest =>
      match a.text with
      | "once" => pure ()
      | "push_macro" => putAside rest false
      | "pop_macro" => putAside rest true
      | "omp" =>
          if setting.threads then handOn line (a :: (← expandLexemes rest))
          else Reader.warn "unknown-pragmas" line "a directive for threads is ignored"
      | "GCC" =>
          match rest with
          | b :: more =>
              match b.text with
              | "poison" =>
                  modify fun reading =>
                    { reading with poisoned := more.map (·.text) ++ reading.poisoned }
              | "error" => Reader.refuse line "the source asks to be refused"
              | "warning" => Reader.warn "" line "the source asks for a warning"
              | "dependency" =>
                  match includedName? more with
                  | some name =>
                      if ((← get).header name).isNone then Reader.refuse line ("there is no file " ++ name)
                  | none => Reader.refuse line "the name of a file is missing"
              | "system_header" => Reader.warn "" line "only a header can be a header of the system"
              | "diagnostic" =>
                  changeWarnings more
                  handOn line input
              | _ =>
                  if knownDirectives.contains b.text then handOn line input
                  else Reader.warn "unknown-pragmas" line "an unknown directive"
          | [] => Reader.warn "unknown-pragmas" line "an unknown directive"
      | "pack" | "weak" | "redefine_extname" | "scalar_storage_order" | "message" => handOn line input
      | _ => Reader.warn "unknown-pragmas" line "an unknown directive"

/-- Opens a conditional directive. -/
def openCondition (holds : Reader Bool) : Reader Unit := do
  if ← Reader.isActive then
    let b ← holds
    Reader.modifyFile fun file => { file with conditions := (b, b, false) :: file.conditions }
  else
    Reader.modifyFile fun file => { file with conditions := (false, true, false) :: file.conditions }

/-- Goes to the next branch of the innermost conditional directive. -/
def nextBranch (line : Nat) (isElse : Bool) (holds : Reader Bool) : Reader Unit := do
  match (← get).files.head?.map (·.conditions) with
  | some ((_, taken, sawElse) :: outer) =>
      if sawElse then Reader.refuse line "a branch follows the last one"
      let outerActive := outer.all fun c => c.1
      let b ← if taken || !outerActive then pure false else if isElse then pure true else holds
      Reader.modifyFile fun file => { file with conditions := (b, taken || b, isElse) :: outer }
  | _ => Reader.refuse line "a branch without a condition"

/-- Closes the innermost conditional directive. -/
def closeCondition (line : Nat) : Reader Unit := do
  match (← get).files.head?.map (·.conditions) with
  | some (_ :: outer) => Reader.modifyFile fun file => { file with conditions := outer }
  | _ => Reader.refuse line "the end of a condition without its beginning"

/-- Whether the name of a directive is defined. -/
def namedCondition (line : Nat) (wanted : Bool) (input : List Lexeme) : Reader Bool := do
  match input with
  | a :: rest =>
      if a.kind ≠ .name then Reader.refuse line "a condition has no name"
      if !rest.isEmpty then Reader.warn "endif-labels" line "something follows a directive"
      return (← isDefined a.text) = wanted
  | [] => Reader.refuse line "a condition has no name"

/-- Refuses constants that are not closed. -/
def checkClosed (input : List Lexeme) : Reader Unit :=
  input.forM fun a => do
    if a.kind = .other && (a.text = "\"" || a.text = "'") then
      Reader.refuse a.line "a constant is not closed"

/-- A directive, without its number sign. -/
def directive (line : Nat) (input : List Lexeme) : Reader Unit := do
  match input with
  | [] => pure ()
  | a :: rest =>
      let branchEnd : Reader Unit := do
        if !rest.isEmpty && (← Reader.isActive) then
          Reader.warn "endif-labels" line "something follows a directive"
      match a.text with
      | "if" => openCondition (holds line rest)
      | "ifdef" => openCondition (namedCondition line true rest)
      | "ifndef" => openCondition (namedCondition line false rest)
      | "elif" => nextBranch line false (holds line rest)
      | "elifdef" => nextBranch line false (namedCondition line true rest)
      | "elifndef" => nextBranch line false (namedCondition line false rest)
      | "else" =>
          branchEnd
          nextBranch line true (pure true)
      | "endif" =>
          branchEnd
          closeCondition line
      | name =>
          if ← Reader.isActive then
            checkClosed rest
            match name with
            | "define" => define line rest
            | "undef" => undefine line rest
            | "include" | "include_next" | "import" => includeNamed line rest
            | "line" => renumber line rest
            | "error" => Reader.refuse line "the source asks to be refused"
            | "warning" => Reader.warn "cpp" line "the source asks for a warning"
            | "pragma" => compilerDirective line rest
            | "ident" | "sccs" | "assert" | "unassert" => pure ()
            | _ =>
                if a.kind = .number then renumber line input
                else Reader.refuse line "an unknown directive"

/-- The next line for a use of a macro that goes on there. Directives in between are followed. -/
def nextText : Nat → Reader (Option (List Lexeme))
  | 0 => return none
  | fuel + 1 => do
      let reading ← get
      match reading.input with
      | .lexemes [] :: input =>
          set { reading with input := input }
          nextText fuel
      | .lexemes (a :: rest) :: input =>
          set { reading with input := input }
          if a.isMark "#" then
            directive a.line rest
            nextText fuel
          else if ← Reader.isActive then
            checkClosed (a :: rest)
            return some (a :: rest)
          else nextText fuel
      | _ => return none

/-- The text that a constant stands for as the argument of `_Pragma`. -/
def unquoted (text : String) : String :=
  let inside := (splitQuoted text).2
  let rec plain : List Char → List Char
    | '\\' :: c :: rest => if c = '"' || c = '\\' then c :: plain rest else '\\' :: c :: plain rest
    | c :: rest => c :: plain rest
    | [] => []
  String.ofList (plain inside)

/-- Puts lexemes out and follows the directives among them. -/
def putOut : List Lexeme → Reader Unit
  | [] => pure ()
  | a :: b :: c :: d :: rest =>
      if a.kind = .name && a.text = "_Pragma" then
        if b.isMark "(" && c.kind = .text && d.isMark ")" then do
          compilerDirective a.line ((lexemesOf (unquoted c.text)).map fun e => { e with line := a.line })
          putOut rest
        else Reader.refuse a.line "a malformed directive"
      else do
        modify fun reading => { reading with output := reading.output.push a }
        putOut (b :: c :: d :: rest)
  | a :: rest => do
      if a.kind = .name && a.text = "_Pragma" then Reader.refuse a.line "a malformed directive"
      modify fun reading => { reading with output := reading.output.push a }
      putOut rest

/-- Reads all lines; `fuel` bounds their number. -/
def readLines : Nat → Reader Unit
  | 0 => pure ()
  | fuel + 1 => do
      let reading ← get
      match reading.input with
      | [] => pure ()
      | .leave :: input =>
          let open_ := reading.files.head?.any fun file => !file.conditions.isEmpty
          if open_ then Reader.refuse 0 "a condition is not closed"
          set { reading with input := input, files := reading.files.drop 1 }
          readLines fuel
      | .lexemes [] :: input =>
          set { reading with input := input }
          readLines fuel
      | .lexemes (a :: rest) :: input =>
          set { reading with input := input }
          if a.isMark "#" then directive a.line rest
          else if ← Reader.isActive then
            checkClosed (a :: rest)
            let inHeader := reading.files.head?.any (·.isHeader)
            let done ← expandFrom (nextText fuel) expansionLimit (a :: rest) #[]
            putOut (if inHeader then done.toList.map fun b => { b with inHeader := true } else done.toList)
          readLines fuel

/-- How many lines a text may have with all the files that it includes. -/
def lineLimit : Nat := 100000000

/-- The lines of a text that is read. -/
def sourceLines (setting : Setting) (text : String) : Except Refusal (List SourceLine) := do
  let lines ← lexemeLines setting.lexemeRules setting.trigraphs text
  return lines.toList.map .lexemes

/-- Reads a source text: first what the setting defines, then the files that it includes, of which some
count for their macros only, then the text itself. -/
def readSource (setting : Setting) (header : String → Option (List SourceLine))
    (definitions : List SourceLine) (included : List (String × Bool)) (name text : String) :
    Except Refusal (Array Lexeme) := do
  let lines ← sourceLines setting text
  let work : Reader Unit := do
    readLines lineLimit
    for (file, isForMacros) in included do
      let before := (← get).output.size
      includeFile 0 file
      readLines lineLimit
      if isForMacros then modify fun reading => { reading with output := reading.output.shrink before }
    modify fun reading => { reading with files := [⟨name, 0, false, []⟩], input := lines }
    readLines lineLimit
    if (← get).files.any fun file => !file.conditions.isEmpty then
      Reader.refuse 0 "a condition is not closed"
  let start : Reading :=
    ⟨setting, Std.HashMap.emptyWithCapacity 1024, definitions, [⟨name, 0, false, []⟩], #[], 0, [], [],
      [], [], header⟩
  let (_, reading) ← work.run start
  return reading.output

end KernelForge.Compiler
