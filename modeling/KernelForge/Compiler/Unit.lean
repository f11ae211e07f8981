import KernelForge.Compiler.Statement

/-!
# A whole source text

Declarations outside of functions, and the knot that ties the readers of all parts together: each level
of nesting uses one level of a given depth.
-/

namespace KernelForge.Compiler

open Code

namespace Compile

/-- Warns about a function that is defined without having been declared. -/
def checkDeclared (name : String) (isStatic isOld : Bool) : Compile Unit := do
  let known ← global? name
  let isKnown := known.any (·.isDeclared)
  if !isStatic && !isKnown then
    warnAsked "missing-prototypes" "a function without a prototype"
    warnAsked "missing-declarations" "a function without a declaration"
  if isOld then warnAsked "old-style-definition" "a function without a prototype"

/-- Reads a function with its body. -/
def functionDefinition (g : Grammar) (spec : Specifiers) (d : Declarator) (found : Attributes)
    (symbol : Option String) (start : Nat) : Compile Unit := do
  if ! [Storage.usual, .outside, .static].contains spec.storage then refuse "a storage class of a function"
  if spec.isThreadLocal then refuse "a storage class of a function"
  if spec.isImplicit then
    if (← get).setting.since .c99 then forbid "implicit-int" "the result of a function is missing"
    else warn "return-type" "the result of a function is missing"
  match ← findHere? d.name with
  | some (.global _ _) | none => pure ()
  | some _ => refuse "a name is declared as something else"
  let isNew := (← get).setting.since .c23
  let isOld := match d.type.plain with
    | .function _ _ style => style = .unsaid && !isNew
    | _ => false
  checkDeclared d.name (spec.storage = .static) (isOld && !d.names.isEmpty)
  let fresh ← linked spec found d.name d.type
  mergeGlobal d.name { fresh with isDefined := true, symbol := symbol.getD fresh.symbol } (spec.storage = .outside)
  let merged ← global? d.name
  declare d.name (.global d.name ((merged.map (·.type)).getD d.type))
  functionBody g d d.name start ((merged.map (·.isFinal)).getD false)

/-- Declares a variable outside of functions. -/
def outerVariable (g : Grammar) (spec : Specifiers) (found : Attributes) (symbol : Option String) (name : String)
    (type : SourceType) : Compile Unit := do
  if type.isVoid then refuse "a variable without a value"
  if spec.storage = .auto || spec.storage = .register then refuse "a storage class outside of functions"
  if spec.isInline || spec.isFinal then warn "" "a variable like a function"
  let hasInitial ← atMark "="
  let isExtern := spec.storage = .outside
  if isExtern && hasInitial then warn "" "an initial value for a name from outside"
  match ← findHere? name with
  | some (.global _ _) | none => pure ()
  | some _ => refuse "a name is declared as something else"
  let fresh ← linked spec found name type
  mergeGlobal name { fresh with
    isTentative := !isExtern && !hasInitial, symbol := symbol.getD fresh.symbol } isExtern
  let merged := ((← global? name).map (·.type)).getD type
  declare name (.global name merged)
  if ← accept "=" then
    if ((← global? name).map (·.isDefined)).getD false then refuse "a name is defined again"
    let full ← if spec.isDeduced then do
        let v ← read (← g .assignment)
        let type := v.type.plain.qualify spec.type.qualifiers
        let image ← imageOf type [⟨0, type.plain, none, v⟩]
        modifyGlobal name fun x => { x with type := type, isDefined := true, image := image }
        pure type
      else initializeGlobal g name merged
    if !(← isComplete full) then refuse "an object of incomplete type"
    declare name (.global name full)
  else
    if spec.isDeduced then refuse "the type of a variable is missing"
    if !isExtern && type.isArray && (type.element?.any fun e => e.isVoid) then refuse "an array of nothing"
    if spec.storage = .static && !(← isComplete merged) then
      forbid "pedantic" "a static object of incomplete type"

/-- Reads the names of a declaration outside of functions. -/
def outerNames (g : Grammar) (spec : Specifiers) : Nat → Bool → Compile Unit
  | 0, _ => refuse "too many names"
  | fuel + 1, isFirst => do
      let _ ← takeSetup
      let start := (← get).locals.size
      let d ← g (.declarator spec.type)
      if d.name.isEmpty then refuse ("expected a name before " ++ (← peek).text)
      let (late, symbol) ← afterDeclarator g d
      let found := joinAttributes spec.attributes late
      let type ← attributedType { late with alignment := 0 } d.type
      let d := { d with type := type }
      let beginsBody := (← atMark "\x7b") || (!d.names.isEmpty && (← beginsDeclaration (← peek)))
      if isFirst && type.isFunction && spec.storage ≠ .typedef && beginsBody then
        functionDefinition g spec d found symbol start
      else
        if !d.names.isEmpty then forbid "" "names of parameters without types"
        if spec.isImplicit then forbid "implicit-int" "the type of a name is missing"
        if spec.storage = .typedef then
          if ← atMark "=" then refuse "a type with an initial value"
          if type.isVariablyModified then refuse "a type of computed size outside of functions"
          declareAlias d.name type
        else if type.isFunction then
          if ← atMark "=" then refuse "a function with an initial value"
          if spec.storage = .auto || spec.storage = .register then refuse "a storage class outside of functions"
          match ← findHere? d.name with
          | some (.global _ _) | none => pure ()
          | some _ => refuse "a name is declared as something else"
          let fresh ← linked spec found d.name type
          mergeGlobal d.name { fresh with symbol := symbol.getD fresh.symbol } true
          let merged := ((← global? d.name).map (·.type)).getD type
          declare d.name (.global d.name merged)
        else
          if type.isVariablyModified then refuse "a variable of computed size outside of functions"
          outerVariable g spec found symbol d.name type
        if ← accept "," then outerNames g spec fuel false else expect ";"

/-- The words of a line for the machine. -/
def machineLine (line : String) : List String :=
  let text := (line.toList.takeWhile (· ≠ '#')).map fun c => if c = '\t' || c = ',' then ' ' else c
  ((String.ofList text).splitOn " ").filter (· ≠ "")

/-- The beginnings of common instructions for the machine. -/
def instructionBeginnings : List String :=
  ["mov", "xor", "add", "sub", "lea", "push", "pop", "call", "jmp", "j", "cmp", "test", "and", "or", "inc", "dec",
    "neg", "not", "shl", "shr", "sar", "imul", "mul", "div", "cvt", "sqrt", "ret", "leave", "ud2", "int3", "cpuid",
    "rdtsc", "hlt", "xchg", "cqo", "cdq", "cltq", "set", "cmov", "v", "p", "un", "min", "max", "syscall"]

/-- A function or object that text for the machine defines. -/
def machineName (name : String) (isShown isIdle : Bool) : Compile Unit := do
  let type ← match ← global? name with
    | some x => pure x.type
    | none => pure (.function .void .noParams .unsaid)
  mergeGlobal name { (default : Global) with
    name := name, symbol := name, type := type, isFunction := type.isFunction, isStatic := !isShown
    isExternal := true, isKept := true, isDefined := true, isDeclared := true, line := (← get).line } true
  let number ← newFunctionNumber
  let body : Term := if isIdle then .nothing else .request .trap .nothing
  modify fun s => { s with functions := s.functions.push ⟨number, name, [], [], false, body⟩ }

/-- Whether a word of text for the machine is an instruction. -/
def isInstruction (word : String) : Bool :=
  isIdle word || instructionBeginnings.any fun b => b.toList.isPrefixOf word.toList

/-- Follows lines for the machine: labels, directives and instructions. -/
def machineLines (shown : List String) : List (List String) → Compile Unit
  | [] => pure ()
  | [] :: more => machineLines shown more
  | (word :: rest) :: more => do
      if word.endsWith ":" then
        let next := if rest.isEmpty then (more.head?).getD [] else rest
        let after := if rest.isEmpty then (more[1]?).getD [] else (more.head?).getD []
        let leaves (line : List String) : Bool := line = ["ret"] || line = ["retq"]
        let name := String.ofList word.toList.dropLast
        machineName name (shown.contains name)
          (leaves next || (leaves after && [["nop"], ["endbr64"]].contains next))
        if rest.head?.any fun w => !isInstruction w && !w.startsWith "." then
          refuse "instructions that the machine does not know"
      else if !(word.startsWith "." || isInstruction word) then
        refuse "instructions that the machine does not know"
      machineLines shown more

/-- Follows text for the machine. -/
def machineText (lines : List String) : Compile Unit := do
  let lines := (lines.map machineLine).filter (!·.isEmpty)
  let shown := lines.filterMap fun line =>
    match line with
    | [word, name] => if [".globl", ".global", ".weak"].contains word then some name else none
    | _ => none
  machineLines shown lines

/-- Reads one declaration outside of functions. -/
def outerDeclaration (g : Grammar) : Compile Unit := do
  let a ← peek
  if a.kind = .pragma then
    if ← atThreadDirective then outerThreadDirective g
    else
      if ← followDirective (← directiveLexemes) then refuse "a directive for a loop outside of functions"
  else if ← accept ";" then extension "an empty declaration"
  else if ← acceptKeyword "_Static_assert" then staticAssertion g
  else if (← atKeyword "asm") && (← peekAt 1).isMark "(" then
    skip
    expect "("
    let lines ← textLetters
    expect ")"
    expect ";"
    machineText ((lines.splitOn "\n").flatMap (·.splitOn ";"))
  else
    let isExtended ← acceptKeyword "__extension__"
    let p : Compile Unit := do
      let spec ← g .specifiers
      if ← accept ";" then
        if spec.isImplicit && spec.storage = .usual then warn "" "an empty declaration"
        else if !spec.declaresTag then warn "" "a declaration of nothing"
      else
        let b ← peek
        if spec.isImplicit && spec.storage = .usual && !(b.kind = .name || b.isMark "*" || b.isMark "(") then
          refuse ("expected a declaration before " ++ b.text)
        outerNames g spec 100000 true
    if isExtended then leniently p else p

/-- Reads all declarations, up to a closing brace where names keep their plain form. -/
def outerDeclarations (g : Grammar) : Nat → Bool → Compile Unit
  | 0, _ => refuse "a source text is too long"
  | fuel + 1, isInside => do
      let closes ← if isInside then accept "\x7d" else pure false
      if closes then return
      else if (← get).input.isEmpty then
        if isInside then refuse "a closing brace is missing"
      else
        if (← get).setting.typedNames && (← atKeyword "extern") && (← peekAt 1).kind = .text then
          skip
          let plain := (← peek).text = "\"C\""
          skip
          let before := (← get).keepsNames
          modify fun s => { s with keepsNames := plain }
          if ← accept "\x7b" then outerDeclarations g fuel true
          else outerDeclaration g
          modify fun s => { s with keepsNames := before }
        else outerDeclaration g
        outerDeclarations g fuel isInside

/-- The readers of all parts, to a depth. -/
def grammar : Nat → Grammar
  | 0 => fun part => match part with
      | _ => refuse "a source text is nested too deeply"
  | depth + 1 => fun part =>
      let g := grammar depth
      match part with
      | .expression => commaExpression g
      | .assignment => assignmentExpression g
      | .choice => choiceExpression g
      | .cast => castExpression g
      | .prefixed => prefixed g
      | .typeName => typeName g
      | .specifiers => specifiers g
      | .declarator type => declarator g type
      | .statement => statement g
      | .block => block g
      | .blockValue => blockValue g
      | .declaration => localDeclaration g
      | .initial type _ => initial g type

/-- Completes what the declarations left open. -/
def finish : Compile Unit := do
  for key in (← get).order do
    match ← global? key with
    | none => pure ()
    | some x =>
        modify fun s => { s with line := x.line, inHeader := x.inHeader }
        if x.isFunction then
          if !x.isDefined && x.standsFor.isNone then
            if x.isStatic then
              if x.isUsed then warn "" "a static function is used but not defined"
              else warn "unused-function" "a static function is not defined"
          else if x.isStatic && !x.isUsed && !x.isKept && !x.isInline && key = x.name then
            warn "unused-function" "a function is not used"
        else if x.isTentative && !x.isDefined then
          let type := match x.type with
            | .array element .missing => .array element (.known 1)
            | t => t
          if !(← isComplete type) then refuse "an object of incomplete type"
          let records := (← get).records
          let size := (records.size? type).getD 0
          modifyGlobal key fun x => { x with
            type := type, isDefined := true
            image := ⟨size, max x.image.alignment (records.alignment type), #[]⟩ }
          if x.isStatic && !x.isUsed && !x.isKept && key = x.name then
            if x.type.qualifiers.isConst then warnAsked "unused-const-variable" "a constant is not used"
            else warn "unused-variable" "a variable is not used"
        else if x.isDefined && x.isStatic && !x.isUsed && !x.isKept && key = x.name then
          if x.type.qualifiers.isConst then warnAsked "unused-const-variable" "a constant is not used"
          else warn "unused-variable" "a variable is not used"
        match x.standsFor with
        | some target =>
            if !((← global? target).any (·.isDefined)) then refuse "another name for something that is not defined"
        | none => pure ()

end Compile

/-- The structure behind lists of arguments. -/
def argumentListRecord : Record where
  tag := "__va_list_tag"
  isUnion := false
  members := #[⟨"gp_offset", .int .unsignedInt, 0, none⟩, ⟨"fp_offset", .int .unsignedInt, 4, none⟩,
    ⟨"overflow_arg_area", .pointer .void, 8, none⟩, ⟨"reg_save_area", .pointer .void, 16, none⟩]
  size := 24
  alignment := 8
  isComplete := true
  isTransparent := false

/-- The names that need no declaration. -/
def firstScope : Scope :=
  let names : List (String × SourceType) :=
    [("__builtin_va_list", .array (.record 0) (.known 1)), ("__int128_t", .int .wide),
      ("__uint128_t", .int .unsignedWide), ("__float80", .float .extended)]
  { Scope.empty with entities := .ofList (names.map fun (name, type) => (name, (Entity.typeName type, 0))) }

/-- How deep source may be nested. -/
def nestingDepth : Nat := 100000

/-- Reads a whole source text. -/
def readUnit (setting : Setting) (lexemes : Array Lexeme) : Except Refusal State := do
  let start : State := { (default : State) with
    input := lexemes.toList, setting := setting, records := #[argumentListRecord], scopes := [firstScope]
    functionCount := 1, packing := [none], setup := .nothing }
  let work : Compile Unit := do
    Compile.outerDeclarations (Compile.grammar nestingDepth) 10000000 false
    Compile.finish
  let (_, s) ← work.run start
  return s

end KernelForge.Compiler
