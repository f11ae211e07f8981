import KernelForge.Compiler.Team

/-!
# Statements

Loops and choices become labels and jumps. What has to be done when a block is left is done at its end
and in front of every jump out of it. The value of the last expression of a block can be the value of
the block.
-/

namespace KernelForge.Compiler

open Code

namespace Compile

/-- A condition in a statement. -/
def condition (g : Grammar) : Compile Term := do
  let v ← read (← g .expression)
  if v.op = "=" && !v.type.isBool then warn "parentheses" "an assignment as a condition"
  let t ← truth v
  return (← takeSetup).andThen t

/-- What has to be done when all blocks are left that are deeper than so many. -/
def cleanupsTo (depth : Nat) : Compile Term := do
  match ← function? with
  | some f => return Term.all (f.cleanups.take (f.cleanups.length - depth))
  | none => return .nothing

/-- Does what has to be done at the end of a block that began at a depth. -/
def endBlock (depth : Nat) : Compile Term := do
  let t ← cleanupsTo depth
  modifyFunction fun f => { f with cleanups := f.cleanups.drop (f.cleanups.length - depth) }
  return t

/-- How much has to be done when the function is left. -/
def cleanupDepth : Compile Nat := do return ((← function?).map (·.cleanups.length)).getD 0

/-- Reads the body of a loop. -/
def loopBody (g : Grammar) (done next : Nat) : Compile Term := do
  let depth ← cleanupDepth
  modifyFunction fun f => { f with
    breaks := .to done depth :: f.breaks, continues := .to next depth :: f.continues }
  let t ← g .statement
  modifyFunction fun f => { f with breaks := f.breaks.drop 1, continues := f.continues.drop 1 }
  return t

/-- Goes out of a loop or selection, or to the next iteration. -/
def leave (exits : List Exit) : Compile Term := do
  match exits.head? with
  | some (.to label depth) => return (← cleanupsTo depth).andThen (.jump label)
  | some .barred => refuse "a jump out of a block for threads"
  | none => refuse "nothing to leave"

/-- Defines a label. -/
def defineLabel (name : String) : Compile Term := do
  match ← function? with
  | none => refuse "a label outside of functions"
  | some f =>
      match f.labels.find? fun l => l.name = name with
      | some l =>
          if l.isDefined then refuse "a label is defined again"
          if l.region ≠ f.regions then refuse "a jump into a block for threads"
          modifyFunction fun f => { f with
            labels := f.labels.map fun x => if x.number = l.number then { x with isDefined := true } else x }
          return .label l.number
      | none =>
          let number ← newLabel
          let line := (← get).line
          modifyFunction fun f =>
            { f with labels := f.labels ++ [⟨name, number, true, false, f.regions, line⟩] }
          return .label number

/-- Changes the innermost selection. -/
def modifySelection (change : Selection → Compile Selection) : Compile Unit := do
  match ← function? with
  | some f =>
      match f.selections with
      | s :: rest =>
          let s ← change s
          modifyFunction fun f => { f with selections := s :: rest }
      | [] => refuse "a case outside of selections"
  | none => refuse "a case outside of functions"

/-- Reads a case behind its keyword. -/
def caseLabel (g : Grammar) : Compile Term := do
  let first ← constantInt g
  let last ← if ← accept "..." then
      extension "a range of cases"
      constantInt g
    else pure first
  expect ":"
  let number ← newLabel
  modifySelection fun s => do
    let kind := (s.type.intKind?).getD .int
    let lo := kind.value (kind.word first)
    let hi := kind.value (kind.word last)
    if s.cases.any fun (a, b, _) => a ≤ hi && lo ≤ b then refuse "a case is repeated"
    if hi < lo then
      warn "" "an empty range of cases"
      return s
    else return { s with cases := (lo, hi, number) :: s.cases }
  return .label number

/-- Reads the labels in front of a statement. -/
def labels (g : Grammar) : Nat → Term → Compile Term
  | 0, _ => refuse "too many labels"
  | fuel + 1, done => do
      let a ← peek
      if ← acceptKeyword "case" then labels g fuel (done.andThen (← caseLabel g))
      else if (← atKeyword "default") && (← peekAt 1).isMark ":" then
        skip
        skip
        let number ← newLabel
        modifySelection fun s => do
          if s.otherwise.isSome then refuse "a case is repeated"
          return { s with otherwise := some number }
        labels g fuel (done.andThen (.label number))
      else if a.kind = .name && (← peekAt 1).isMark ":" then
        skip
        skip
        let t ← defineLabel a.text
        let _ ← if (← atKeyword "__attribute__") then do
            let _ ← anyAttributes g
          else pure ()
        labels g fuel (done.andThen t)
      else return done

/-- Whether a statement begins with a label. -/
def atLabel : Compile Bool := do
  let a ← peek
  if a.kind = .keyword then return a.text = "case" || (a.text = "default" && (← peekAt 1).isMark ":")
  else return a.kind = .name && (← peekAt 1).isMark ":"

/-- The lexemes that have been read since some were left. -/
def readSince (before : List Lexeme) : Compile (List Lexeme) := do
  return before.take (before.length - (← get).input.length)

/-- Whether lexemes hold an `else` outside of braces. -/
def hasElse (depth : Nat) : List Lexeme → Bool
  | [] => false
  | a :: rest =>
      if a.isMark "\x7b" then hasElse (depth + 1) rest
      else if a.isMark "\x7d" then hasElse (depth - 1) rest
      else (depth = 0 && a.kind = .keyword && a.text = "else") || hasElse depth rest

/-- Warns about a statement that looks as if it belonged to the one before it. -/
def checkLines (guard body : Lexeme) : Compile Unit := do
  let after ← peek
  let isPlain (a : Lexeme) : Bool := a.hidden.isEmpty && !a.inHeader
  if isPlain guard && isPlain body && isPlain after && guard.line = body.line && body.line = after.line then
    let ends := after.isMark "\x7d" || after.isMark ";" || after.kind = .nothing ||
      after.kind = .pragma || (after.kind = .keyword && after.text = "else")
    if !(body.isMark "\x7b") && !(body.isMark ";") && !ends then
      warn "misleading-indentation" "a statement on the line of another one"

/-- Reads the statement that a condition is for. -/
def guarded (g : Grammar) (guard : Lexeme) (kind : String) : Compile Term := do
  let body ← peek
  if body.isMark ";" && (kind = "if" || kind = "else") then warn "empty-body" "a condition without a statement"
  if (← beginsDeclaration body) && !(body.kind = .keyword && body.text = "__attribute__") then
    if !(body.kind = .name && (← peekAt 1).isMark ":") then refuse "a declaration where a statement is expected"
  let t ← g .statement
  checkLines guard body
  return t

/-- Reads a statement with a condition behind its keyword. -/
def ifStatement (g : Grammar) (guard : Lexeme) : Compile Term := do
  openScope false
  expect "("
  let c ← condition g
  expect ")"
  let before := (← get).input
  let yes ← guarded g guard "if"
  let body ← readSince before
  let otherwise ← peek
  let no ← if ← acceptKeyword "else" then do
      if (← atKeyword "if") then g .statement else guarded g otherwise "else"
    else do
      let isNested := body.head?.any fun a => a.kind = .keyword && ["if", "for", "while"].contains a.text
      if isNested && hasElse 0 body then warn "dangling-else" "an ambiguous else"
      pure .nothing
  closeBlockScope
  return .decided c (yes.andThen .nothing) (no.andThen .nothing)

/-- A loop with its condition in front, or without one. -/
def loopCode (test : Option Term) (body step : Term) (top next done : Nat) : Compile Term := do
  match test with
  | none => return Term.all [.label top, body, .label next, step, .jump top, .label done]
  | some c =>
      match c.intValue? with
      | some n =>
          if n ≠ 0 then return Term.all [.label top, body, .label next, step, .jump top, .label done]
          else
            return Term.decided c (Term.all [.label top, body, .label next, step]) .nothing |>.andThen (.label done)
      | none =>
          let check ← newLabel
          return Term.all [.jump check, .label top, body, .label next, step, .label check,
            .branch false c top, .label done]

/-- Reads a `for` loop behind its keyword. -/
def forStatement (g : Grammar) (guard : Lexeme) : Compile Term := do
  openScope false
  let depth ← cleanupDepth
  expect "("
  let start ← if ← accept ";" then pure .nothing
    else do
      let isExtended := (← atKeyword "__extension__") && (← beginsDeclaration (← peekAt 1))
      if isExtended then skip
      if ← beginsDeclaration (← peek) then
        if !(← get).setting.since .c99 then refuse "a declaration in a loop"
        g .declaration
      else
        let v ← g .expression
        checkUnused v
        expect ";"
        pure ((← takeSetup).andThen (effectOf v))
  let test ← if ← atMark ";" then pure none else do pure (some (← condition g))
  expect ";"
  let step ← if ← atMark ")" then pure .nothing
    else do
      let v ← g .expression
      checkUnused v
      pure ((← takeSetup).andThen (effectOf v))
  expect ")"
  let top ← newLabel
  let next ← newLabel
  let done ← newLabel
  let inner ← peek
  let body ← loopBody g done next
  checkLines guard inner
  let last ← endBlock depth
  closeBlockScope
  return start.andThen ((← loopCode test body step top next done).andThen last)

/-- Reads a `while` loop behind its keyword. -/
def whileStatement (g : Grammar) (guard : Lexeme) : Compile Term := do
  expect "("
  let test ← condition g
  expect ")"
  let top ← newLabel
  let next ← newLabel
  let done ← newLabel
  let inner ← peek
  let body ← loopBody g done next
  checkLines guard inner
  loopCode (some test) body .nothing top next done

/-- Reads a `do` loop behind its keyword. -/
def doStatement (g : Grammar) : Compile Term := do
  let top ← newLabel
  let next ← newLabel
  let done ← newLabel
  let body ← loopBody g done next
  if !(← acceptKeyword "while") then refuse "the condition of a loop is missing"
  expect "("
  let test ← condition g
  expect ")"
  expect ";"
  let back := match test.intValue? with
    | some n => if n ≠ 0 then Term.jump top else .nothing
    | none => Term.branch false test top
  return Term.all [.label top, body, .label next, back, .label done]

/-- Reads a selection behind its keyword. -/
def switchStatement (g : Grammar) : Compile Term := do
  expect "("
  let v ← readPromoted (← g .expression)
  let setup ← takeSetup
  expect ")"
  match v.type.intKind? with
  | none => refuse "a selection by something that is no integer"
  | some kind =>
      let done ← newLabel
      let depth ← cleanupDepth
      modifyFunction fun f => { f with
        breaks := .to done depth :: f.breaks, selections := ⟨v.type.plain, [], none⟩ :: f.selections }
      let body ← g .statement
      let found := ((← function?).bind fun f => f.selections.head?).getD default
      modifyFunction fun f => { f with breaks := f.breaks.drop 1, selections := f.selections.drop 1 }
      if found.otherwise.isNone then warnAsked "switch-default" "a selection without a default"
      return Term.all [setup, .select kind v.term found.cases.reverse (found.otherwise.getD done), body, .label done]

/-- Reads the rest of a statement that returns. -/
def returnStatement (g : Grammar) : Compile Term := do
  match ← function? with
  | none => refuse "a return outside of functions"
  | some f =>
      if f.isRegion || !f.kinds.isEmpty then refuse "a jump out of a block for threads"
      if f.isFinal then warn "" "a function that does not return does"
      if ← accept ";" then
        if !f.result.isVoid && (← get).setting.since .c99 then forbid "return-mismatch" "a return without a value"
        return (← cleanupsTo 0).andThen (.return_ .nothing)
      else
        let v ← read (← g .expression)
        let setup ← takeSetup
        expect ";"
        let cleanup ← cleanupsTo 0
        if f.result.isVoid then
          if v.type.isVoid then extension "a return with an expression"
          else forbid "return-mismatch" "a return with a value"
          return Term.all [setup, effectOf v, cleanup, .return_ .nothing]
        else
          let v ← assigned f.result v
          match v.term with
          | .place _ _ => if v.type.isPointer then warn "return-local-addr" "the address of a local variable"
          | _ => pure ()
          match f.result.scalar?, f.resultPlace with
          | some s, _ =>
              if cleanup matches .nothing then return setup.andThen (.return_ v.term)
              else
                let slot ← newTemporary s
                return Term.all [setup, .sequence (.set slot v.term) .nothing, cleanup, .return_ (.get slot)]
          | none, some place =>
              let w ← writeTo (Value.object f.result (.get place)) v
              return Term.all [setup, effectOf w, cleanup, .return_ .nothing]
          | none, none => refuse "a result without a place"

/-- Instructions of the machine that do nothing here. -/
def idleInstructions : List String :=
  ["", "nop", "pause", "mfence", "lfence", "sfence", "rep; nop", "rep nop", "cld", "endbr64"]

/-- Whether a line for the machine does nothing. -/
def isIdle (line : String) : Bool :=
  let inside := (line.toList.takeWhile (· ≠ '#')).filter fun c => c ≠ '\t'
  let bare := ((inside.dropWhile (· = ' ')).reverse.dropWhile (· = ' ')).reverse
  idleInstructions.contains (String.ofList bare)

/-- The operands of instructions up to a colon or the closing parenthesis. -/
def machineOperands (g : Grammar) (isOutput : Bool) : Nat → Compile Unit
  | 0 => refuse "too many operands"
  | fuel + 1 => do
      if (← atMark ":") || (← atMark ")") then return
      else
        if ← accept "[" then
          let _ ← expectName
          expect "]"
        let letters ← textLetters
        expect "("
        let v ← g .expression
        expect ")"
        if isOutput then
          if !v.isObject then refuse "an output that is no object"
          if !(letters.startsWith "=" || letters.startsWith "+") then refuse "an output without a mark"
          match v.form with
          | .variable_ slot => markSet slot
          | _ => pure ()
        let _ ← read v
        let _ ← accept ","
        machineOperands g isOutput fuel

/-- Reads instructions of the machine behind their keyword. -/
def machineStatement (g : Grammar) : Compile Term := do
  for _ in List.range 4 do
    if (← acceptKeyword "volatile") || (← acceptKeyword "inline") || (← acceptKeyword "goto") then pure ()
  expect "("
  let lines ← textLetters
  if ← accept ":" then
    machineOperands g true 1000
    if ← accept ":" then
      machineOperands g false 1000
      if ← accept ":" then
        if !(← atMark ")") && !(← atMark ":") then
          for _ in List.range 100 do
            if (← peek).kind = .text then
              let _ ← textLetters
              let _ ← accept ","
        if ← accept ":" then
          let _ ← useLabel (← expectName)
  expect ")"
  expect ";"
  if !((lines.splitOn "\n").flatMap (·.splitOn ";")).all isIdle then
    refuse "instructions that the machine does not know"
  return .nothing

/-- Names of labels of a block of its own. -/
def localLabels : Nat → Compile Unit
  | 0 => refuse "too many labels"
  | fuel + 1 => do
      let name ← expectName
      let number ← newLabel
      let line := (← get).line
      modifyFunction fun f =>
        { f with labels := ⟨name, number, false, true, f.regions, line⟩ :: f.labels }
      if ← accept "," then localLabels fuel else expect ";"

/-- Reads one statement without labels. -/
def plainStatement (g : Grammar) : Compile Term := do
  let a ← peek
  if a.kind = .pragma then
    if ← atThreadDirective then threadDirective g
    else
      let isForLoop ← followDirective (← directiveLexemes)
      let b ← peek
      if isForLoop && !(b.kind = .keyword && ["for", "while", "do"].contains b.text) then
        refuse "a directive for a loop that is missing"
      g .statement
  else if a.isMark ";" then
    skip
    return .nothing
  else if a.isMark "\x7b" then
    skip
    openScope false
    let depth ← cleanupDepth
    let t ← g .block
    let last ← endBlock depth
    closeBlockScope
    return t.andThen last
  else if a.kind = .keyword then
    match a.text with
    | "if" =>
        skip
        ifStatement g a
    | "for" =>
        skip
        forStatement g a
    | "while" =>
        skip
        whileStatement g a
    | "do" =>
        skip
        doStatement g
    | "switch" =>
        skip
        switchStatement g
    | "break" =>
        skip
        expect ";"
        leave (((← function?).map (·.breaks)).getD [])
    | "continue" =>
        skip
        expect ";"
        leave (((← function?).map (·.continues)).getD [])
    | "return" =>
        skip
        returnStatement g
    | "goto" =>
        skip
        if ← accept "*" then
          extension "a jump to an address"
          let v ← read (← g .expression)
          expect ";"
          if !v.type.isPointer then refuse "a jump to something that is no address"
          return .jumpTo v.term
        else
          let name ← expectName
          expect ";"
          return .jump (← useLabel name)
    | "asm" =>
        skip
        machineStatement g
    | "else" => refuse "an else without a condition"
    | _ => expressionStatement
  else expressionStatement
where
  /-- An expression whose value nobody takes. -/
  expressionStatement : Compile Term := do
    let v ← g .expression
    expect ";"
    checkUnused v
    return (← takeSetup).andThen (effectOf v)

/-- Whether attributes that are a statement of their own are next. -/
def atAttributeStatement : Compile Bool := do
  let input := (← get).input
  match input with
  | a :: rest =>
      if a.kind = .keyword && a.text = "__attribute__" then
        return ((behindClosed 0 (rest.drop 1)).head?).any (·.isMark ";")
      else if a.isMark "[" && (rest.head?).any (·.isMark "[") then
        let behind := (input.dropWhile fun a => !a.isMark "]").drop 2
        return (behind.head?).any (·.isMark ";")
      else return false
  | [] => return false

/-- Reads a statement. -/
def statement (g : Grammar) : Compile Term := do
  if ← atAttributeStatement then
    let _ ← anyAttributes g
    expect ";"
    return .nothing
  else
    if (← atMark "[") && (← peekAt 1).isMark "[" then
      let _ ← anyAttributes g
    let first ← labels g 100000 .nothing
    if first matches .nothing then plainStatement g
    else if ← atMark "\x7d" then
      since .c23 "a label at the end of a block"
      return first
    else return first.andThen (← plainStatement g)

/-- What has been read of a block. -/
structure BlockState where
  code : Term
  /-- The value of the last statement, when it is an expression. -/
  value : Option Value
  /-- Whether a statement has been read. -/
  hasStatements : Bool
  deriving Inhabited

/-- Reads the parts of a block up to its closing brace. -/
def blockParts (g : Grammar) (keepsValue : Bool) : Nat → BlockState → Compile BlockState
  | 0, _ => refuse "a block is too long"
  | fuel + 1, st => do
      let flushed := match st.value with
        | some v => st.code.andThen (effectOf v)
        | none => st.code
      let a ← peek
      if ← accept "\x7d" then return st
      else if a.kind = .nothing then refuse "a brace is not closed"
      else if a.kind = .pragma && !(← atThreadDirective) then
        let isForLoop ← followDirective (← directiveLexemes)
        let b ← peek
        if isForLoop && !(b.kind = .keyword && ["for", "while", "do"].contains b.text) then
          refuse "a directive for a loop that is missing"
        blockParts g keepsValue fuel { st with code := flushed, value := none }
      else if ← atLabel then
        let first ← labels g 100000 .nothing
        if ← atMark "\x7d" then since .c23 "a label at the end of a block"
        else if ← beginsDeclaration (← peek) then since .c23 "a label in front of a declaration"
        blockParts g keepsValue fuel { st with code := flushed.andThen first, value := none }
      else if ← acceptKeyword "__label__" then
        extension "labels of a block"
        localLabels 10000
        blockParts g keepsValue fuel { st with code := flushed, value := none }
      else
        let isExtended := a.kind = .keyword && a.text = "__extension__" && (← beginsDeclaration (← peekAt 1))
        let isAttribute ← atAttributeStatement
        let isBracketed := a.isMark "[" && (← peekAt 1).isMark "[" && !isAttribute
        let declares ← if isExtended then pure true
          else if isAttribute then pure false
          else if isBracketed then do
            let behind := ((← get).input.dropWhile fun a => !a.isMark "]").drop 2
            beginsDeclaration (behind.headD default)
          else beginsDeclaration a
        if declares then
          if st.hasStatements then
            if !(← get).setting.since .c99 then forbid "pedantic" "a declaration behind a statement"
            warnAsked "declaration-after-statement" "a declaration behind a statement"
          if isExtended then skip
          let t ← if isExtended then leniently (g .declaration) else g .declaration
          blockParts g keepsValue fuel { st with code := flushed.andThen t, value := none }
        else if keepsValue && !isAttribute && !isBracketed && (← isExpression a) then
          let v ← g .expression
          expect ";"
          let v := after (← takeSetup) v
          let v ← if ← atMark "\x7d" then read v
            else do
              checkUnused v
              pure v
          blockParts g keepsValue fuel ⟨flushed, some v, true⟩
        else
          let t ← g .statement
          blockParts g keepsValue fuel ⟨flushed.andThen t, none, true⟩
where
  /-- Whether a statement that begins with a lexeme is an expression. -/
  isExpression (a : Lexeme) : Compile Bool := do
    return !(a.isMark ";" || a.isMark "\x7b" || a.kind = .pragma ||
      (a.kind = .keyword && ["if", "for", "while", "do", "switch", "break", "continue", "return", "goto", "asm",
        "else"].contains a.text))

/-- Reads statements up to a closing brace. -/
def block (g : Grammar) : Compile Term := do
  let st ← blockParts g false 10000000 ⟨.nothing, none, false⟩
  return st.code

/-- Reads a block in an expression. -/
def blockValue (g : Grammar) : Compile Value := do
  expect "\x7b"
  openScope false
  let depth ← cleanupDepth
  let st ← blockParts g true 10000000 ⟨.nothing, none, false⟩
  let last ← endBlock depth
  closeBlockScope
  match st.value with
  | none => return Value.ofTerm .void (st.code.andThen last)
  | some v =>
      let v := { v with isExact := false, isNull := false, op := if v.op = "=" then "=" else "" }
      match v.form, v.type.scalar? with
      | .term t, some s =>
          if last matches .nothing then return { v with form := .term (st.code.andThen t) }
          else
            let slot ← newTemporary s
            return { v with form := .term (Term.all [st.code, .sequence (.set slot t) .nothing, last] |>.andThen (.get slot)) }
      | .variable_ slot, _ =>
          keepInMemory slot
          return { v with form := .place (st.code.andThen (last.andThen (.place slot 0))), isObject := false }
      | _, _ => return after st.code v

end Compile

end KernelForge.Compiler
