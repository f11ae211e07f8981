import KernelForge.Compiler.Keyword
import KernelForge.Compiler.Term

/-!
# The state of reading source

Declarations and statements are read from lexemes and turned into terms at once. The state holds the
lexemes that are left, what names stand for, and what has been read of the functions and variables so
far.
-/

namespace KernelForge.Compiler

open Code

/-- What an object holds from the start: words at offsets. -/
structure Image where
  size : Nat
  alignment : Nat
  pieces : Array (Nat × WordType × Term)
  deriving Inhabited

/-- A variable or function with a name that the linker knows. -/
structure Global where
  name : String
  /-- The name in the machine's code. -/
  symbol : String
  type : SourceType
  isFunction : Bool
  isStatic : Bool
  /-- Whether it has a body or an initial value. -/
  isDefined : Bool
  /-- Whether it was declared as a variable that may be defined here. -/
  isTentative : Bool
  /-- Whether a declaration says that it is inline. -/
  isInline : Bool
  /-- Whether a definition for other sources is asked for. -/
  isExternal : Bool
  isHidden : Bool
  isWeak : Bool
  isThreadLocal : Bool
  /-- Whether it never returns. -/
  isFinal : Bool
  isUsed : Bool
  /-- Whether it is a function inside another one. -/
  isNested : Bool
  /-- Whether unused definitions are meant. -/
  isKept : Bool
  /-- Whether it is called when the module is loaded. -/
  runsOnLoad : Bool
  /-- Whether a declaration has said so far what its parameters are. -/
  isDeclared : Bool
  /-- Another name for what has this symbol. -/
  standsFor : Option String
  image : Image
  line : Nat
  inHeader : Bool
  deriving Inhabited

/-- A local variable and what is known of it. -/
structure Variable where
  info : Local
  type : SourceType
  line : Nat
  isParam : Bool
  isRead : Bool
  isSet : Bool
  /-- Whether it is declared to live in a register. -/
  isRegister : Bool
  /-- Whether it may stay unused. -/
  isKept : Bool
  hasInitial : Bool
  deriving Inhabited

/-- What a name stands for. -/
inductive Entity where
  | object (slot : Nat)
  | global (key : String) (type : SourceType)
  | typeName (type : SourceType)
  | constant (value : Int) (type : SourceType)
  /-- A variable that a directive for threads has hidden without a replacement. -/
  | barred
  deriving Inhabited

/-- What a tag stands for. -/
inductive Tag where
  | record (number : Nat) (isUnion : Bool)
  | enum (number : Nat) (kind : IntKind) (isComplete : Bool)
  deriving Inhabited

/-- The names of a block. -/
structure Scope where
  entities : Std.HashMap String (Entity × Nat)
  tags : Std.HashMap String Tag
  /-- Whether names from outside are of another function. -/
  isFunction : Bool
  deriving Inhabited

/-- A scope without names. -/
def Scope.empty : Scope := ⟨{}, {}, false⟩

/-- A place to go to. -/
structure LabelInfo where
  name : String
  number : Nat
  isDefined : Bool
  isUsed : Bool
  /-- How deep in blocks for threads it lies. -/
  region : List Nat
  line : Nat
  deriving Inhabited

/-- Where leaving a statement goes to. -/
inductive Exit where
  /-- A label, where so many things are to be done when the function is left. -/
  | to (label depth : Nat)
  | barred
  deriving Inhabited

/-- The cases of a selection so far. -/
structure Selection where
  type : SourceType
  cases : List (Int × Int × Nat)
  otherwise : Option Nat
  deriving Inhabited

/-- A function that is being read. -/
structure FunctionContext where
  number : Nat
  name : String
  result : SourceType
  labels : List LabelInfo
  breaks : List Exit
  continues : List Exit
  selections : List Selection
  /-- The blocks for threads around the current statement, by number. -/
  regions : List Nat
  /-- What kinds of blocks they are. -/
  kinds : List String
  params : List Nat
  /-- What has to be done when the blocks around the current statement are left, the innermost first. -/
  cleanups : List Term
  /-- The place that a result that is no word is written to. -/
  resultPlace : Option Nat
  isVariadic : Bool
  isFinal : Bool
  /-- Whether it is a part of another function that threads run. -/
  isRegion : Bool
  deriving Inhabited

/-- A function that has been read. -/
structure FunctionCode where
  number : Nat
  symbol : String
  /-- The functions around it, the innermost first. -/
  outer : List Nat
  params : List Nat
  isVariadic : Bool
  body : Term
  deriving Inhabited

/-- The state of reading. -/
structure State where
  input : List Lexeme
  /-- The line of the lexeme that was read last, and whether it is in a header. -/
  line : Nat
  inHeader : Bool
  setting : Setting
  choices : List Warnings
  records : Records
  enums : Nat
  globals : Std.HashMap String Global
  order : Array String
  scopes : List Scope
  locals : Array Variable
  functions : Array FunctionCode
  functionCount : Nat
  current : List FunctionContext
  labels : Nat
  symbols : Nat
  /-- Greatest alignments of members, the innermost first. -/
  packing : List (Option Nat)
  /-- Whether names are hidden from outside, the innermost first. -/
  visibility : List Bool
  /-- Whether functions keep their plain names where names carry types. -/
  keepsNames : Bool
  regions : Nat
  /-- Lengths of arrays that have to be computed before the declared objects are used. -/
  setup : Term
  deriving Inhabited

/-- Reading source. -/
abbrev Compile := StateT State (Except Refusal)

namespace Compile

variable {α : Type}

/-- Refuses the source. -/
def refuse (reason : String) : Compile α := do throw ⟨(← get).line, reason⟩

/-- A warning of a name: refuses the source when its warnings do. Headers give none. -/
def warn (name reason : String) : Compile Unit := do
  let s ← get
  if !s.inHeader && s.setting.warnings.fails name then refuse reason

/-- What the wider language refuses. -/
def strictly : List String :=
  ["incompatible-pointer-types", "int-conversion", "implicit-function-declaration", "implicit-int",
    "discarded-qualifiers", "pointer-sign"]

/-- A warning about what the standard forbids. -/
def forbid (name reason : String) : Compile Unit := do
  let s ← get
  if !s.inHeader && (s.setting.warnings.strict || s.setting.warnings.fails name ||
      (s.setting.typedNames && strictly.contains name)) then refuse reason

/-- Something that is only forbidden where the standard is kept to. -/
def extension (reason : String) : Compile Unit := forbid "pedantic" reason

/-- Something that a later revision of the standard brought. -/
def since (standard : Standard) (reason : String) : Compile Unit := do
  if !(← get).setting.since standard then extension reason

/-- The next lexeme. -/
def peek : Compile Lexeme := do
  match (← get).input with
  | a :: _ => return a
  | [] => return ⟨.nothing, "", (← get).line, true, false, []⟩

/-- The lexeme after so many others. -/
def peekAt (n : Nat) : Compile Lexeme := do
  return ((← get).input[n]?).getD ⟨.nothing, "", (← get).line, true, false, []⟩

/-- Goes on to the next lexeme. -/
def skip : Compile Unit := modify fun s =>
  match s.input with
  | a :: rest => { s with input := rest, line := a.line, inHeader := a.inHeader }
  | [] => s

/-- The next lexeme, going on behind it. -/
def next : Compile Lexeme := do
  let a ← peek
  skip
  return a

/-- Whether the next lexeme is a mark. -/
def atMark (mark : String) : Compile Bool := do
  match (← get).input with
  | a :: _ => return a.isMark mark
  | [] => return false

/-- Whether the next lexeme is a keyword. -/
def atKeyword (word : String) : Compile Bool := do
  match (← get).input with
  | a :: _ => return a.kind = .keyword && a.text = word
  | [] => return false

/-- Goes on behind a mark if it is next. -/
def accept (mark : String) : Compile Bool := do
  if ← atMark mark then
    skip
    return true
  else return false

/-- Goes on behind a keyword if it is next. -/
def acceptKeyword (word : String) : Compile Bool := do
  if ← atKeyword word then
    skip
    return true
  else return false

/-- Goes on behind a mark that has to be next. -/
def expect (mark : String) : Compile Unit := do
  if !(← accept mark) then
    let found ← peek
    refuse ("expected " ++ mark ++ " before " ++ found.text)

/-- A name that has to be next. -/
def expectName : Compile String := do
  let a ← peek
  if a.kind = .name then
    skip
    return a.text
  else refuse ("expected a name before " ++ a.text)

/-- A new label. -/
def newLabel : Compile Nat := modifyGet fun s => (s.labels, { s with labels := s.labels + 1 })

/-- A new symbol that no source can spell. -/
def newSymbol (name : String) : Compile String :=
  modifyGet fun s => (name ++ "." ++ toString s.symbols, { s with symbols := s.symbols + 1 })

/-- The function that is being read. -/
def function? : Compile (Option FunctionContext) := do return (← get).current.head?

/-- Changes what is known of the function that is being read. -/
def modifyFunction (f : FunctionContext → FunctionContext) : Compile Unit :=
  modify fun s =>
    match s.current with
    | c :: rest => { s with current := f c :: rest }
    | [] => s

/-- A new local variable of the current function. -/
def newVariable (name : String) (type : SourceType) (alignment : Nat) : Compile Nat := do
  let s ← get
  let owner := (s.current.head?.map (·.number)).getD 0
  let size := (s.records.size? type).getD 8
  let info : Local :=
    ⟨name, size, max alignment (s.records.alignment type), type.scalar?, owner, type.scalar?.isNone⟩
  modifyGet fun s =>
    (s.locals.size,
      { s with locals := s.locals.push ⟨info, type, s.line, false, false, false, false, false, false⟩ })

/-- A new local variable for a word. -/
def newTemporary (scalar : WordType) : Compile Nat :=
  newVariable "" (match scalar with | .int k => .int k | .float k => .float k) 1

/-- Changes what is known of a variable. -/
def modifyVariable (slot : Nat) (f : Variable → Variable) : Compile Unit :=
  modify fun s => { s with locals := s.locals.modify slot f }

/-- A local variable by its number. -/
def variableOf (slot : Nat) : Compile Variable := do return (← get).locals.getD slot default

/-- Keeps a variable in memory. -/
def keepInMemory (slot : Nat) : Compile Unit :=
  modifyVariable slot fun v => { v with info := { v.info with inMemory := true } }

/-- Adds a computation that a type needs. -/
def addSetup (t : Term) : Compile Unit := modify fun s => { s with setup := s.setup.andThen t }

/-- Takes the computations that the types read so far need. -/
def takeSetup : Compile Term := modifyGet fun s => (s.setup, { s with setup := .nothing })

/-- Reads something inside a function. -/
def inFunction (context : FunctionContext) (p : Compile α) : Compile (α × FunctionContext) := do
  modify fun s => { s with current := context :: s.current }
  let r ← p
  let found := ((← get).current.head?).getD context
  modify fun s => { s with current := s.current.drop 1 }
  return (r, found)

/-- A number for a new function. -/
def newFunctionNumber : Compile Nat :=
  modifyGet fun s => (s.functionCount, { s with functionCount := s.functionCount + 1 })

/-- Opens a scope. -/
def openScope (isFunction : Bool) : Compile Unit :=
  modify fun s => { s with scopes := { Scope.empty with isFunction := isFunction } :: s.scopes }

/-- Closes the innermost scope. -/
def closeScope : Compile Unit := modify fun s => { s with scopes := s.scopes.drop 1 }

/-- Whether the innermost scope is that of the whole source. -/
def isOutermost : Compile Bool := do return (← get).scopes.length ≤ 1

/-- Gives a name a meaning in the innermost scope. -/
def declare (name : String) (entity : Entity) : Compile Unit :=
  modify fun s =>
    match s.scopes with
    | scope :: rest =>
        { s with scopes := { scope with entities := scope.entities.insert name (entity, s.line) } :: rest }
    | [] => s

/-- Gives a tag a meaning in the innermost scope. -/
def declareTag (name : String) (tag : Tag) : Compile Unit :=
  modify fun s =>
    match s.scopes with
    | scope :: rest => { s with scopes := { scope with tags := scope.tags.insert name tag } :: rest }
    | [] => s

/-- What a name stands for. -/
def find? (name : String) : Compile (Option Entity) := do
  return (← get).scopes.findSome? fun scope => (scope.entities[name]?).map Prod.fst

/-- What a name stands for in the innermost scope. -/
def findHere? (name : String) : Compile (Option Entity) := do
  return ((← get).scopes.head?.bind fun scope => scope.entities[name]?).map Prod.fst

/-- What a tag stands for. -/
def findTag? (name : String) : Compile (Option Tag) := do
  return (← get).scopes.findSome? fun scope => scope.tags[name]?

/-- What a tag stands for in the innermost scope. -/
def findTagHere? (name : String) : Compile (Option Tag) := do
  return (← get).scopes.head?.bind fun scope => scope.tags[name]?

/-- A variable or function that the linker knows. -/
def global? (key : String) : Compile (Option Global) := do return (← get).globals[key]?

/-- Changes what is known of a variable or function. -/
def modifyGlobal (key : String) (f : Global → Global) : Compile Unit :=
  modify fun s => { s with globals := s.globals.modify key f }

/-- Adds a variable or function. -/
def addGlobal (key : String) (g : Global) : Compile Unit :=
  modify fun s => { s with globals := s.globals.insert key g, order := s.order.push key }

/-- Size in memory of a complete type. -/
def sizeOf (type : SourceType) : Compile Nat := do
  let s ← get
  if !s.records.isComplete type then refuse "an object of incomplete type"
  match s.records.size? type with
  | some n => return n
  | none => refuse "the size has to be computed"

/-- Whether objects of a type can be declared. -/
def isComplete (type : SourceType) : Compile Bool := do return (← get).records.isComplete type

/-- Whether a keyword or name begins a type. -/
def typeWords : List String :=
  ["void", "char", "short", "int", "long", "float", "double", "signed", "unsigned", "_Bool", "_Complex",
    "struct", "union", "enum", "const", "volatile", "restrict", "_Atomic", "typeof", "typeof_unqual",
    "__int128", "__float128", "_Float128", "_Float16", "_Float32", "_Float64", "_Float32x",
    "_Float64x", "__auto_type", "_Alignas", "__attribute__", "_Decimal32", "_Decimal64",
    "_Decimal128", "_Imaginary"]

/-- Keywords that begin declarations besides types. -/
def storageWords : List String :=
  ["typedef", "extern", "static", "auto", "register", "inline", "_Noreturn", "_Thread_local",
    "constexpr"]

/-- Whether a lexeme begins the name of a type. -/
def beginsType (a : Lexeme) : Compile Bool := do
  match a.kind with
  | .keyword => return typeWords.contains a.text
  | .name =>
      match ← find? a.text with
      | some (.typeName _) => return true
      | _ => return false
  | _ => return false

/-- Whether a lexeme begins a declaration. -/
def beginsDeclaration (a : Lexeme) : Compile Bool := do
  if a.kind = .keyword && (storageWords.contains a.text || a.text = "_Static_assert") then return true
  else beginsType a

end Compile

end KernelForge.Compiler
