import KernelForge.Compiler.Constant
import KernelForge.Compiler.Operation

/-!
# The parts of source

Expressions, types, declarations and statements contain one another. What reads a part is given the
readers of all parts, with one level less to go, so that reading ends whatever the source.
-/

namespace KernelForge.Compiler

open Code

/-- Where an object lives, as its declaration says. -/
inductive Storage where
  | usual
  | typedef
  | outside
  | static
  | auto
  | register
  deriving DecidableEq, Repr, Inhabited

/-- What attributes say of a declaration. -/
structure Attributes where
  alignment : Nat
  isPacked : Bool
  /-- The bytes of a vector. -/
  vectorBytes : Nat
  isFinal : Bool
  isKept : Bool
  isWeak : Bool
  isTransparent : Bool
  /-- Whether an inline function is not defined for other sources. -/
  isInlineOnly : Bool
  isNever : Bool
  visibility : Option String
  standsFor : Option String
  /-- The width of an integer or floating-point number by name. -/
  mode : Option String
  /-- A function that is called when a variable's block is left. -/
  cleanup : Option String
  /-- Whether a function is called when the module is loaded or unloaded. -/
  onLoad : Bool
  fallsThrough : Bool
  /-- Whether a use refuses the source. -/
  isError : Bool
  deriving Inhabited

/-- Attributes that say nothing. -/
def Attributes.none : Attributes :=
  ⟨0, false, 0, false, false, false, false, false, false, .none, .none, .none, .none, false, false, false⟩

/-- What stands in front of the names of a declaration. -/
structure Specifiers where
  type : SourceType
  storage : Storage
  isInline : Bool
  isFinal : Bool
  isThreadLocal : Bool
  /-- Whether the type is that of the initial value. -/
  isDeduced : Bool
  /-- Whether no type was given at all. -/
  isImplicit : Bool
  /-- Whether the declaration declares a structure, union or enumeration. -/
  declaresTag : Bool
  isConstant : Bool
  attributes : Attributes
  deriving Inhabited

/-- A parameter of a function. -/
structure Parameter where
  name : String
  type : SourceType
  slot : Nat
  deriving Inhabited

/-- A declared name with its type. -/
structure Declarator where
  name : String
  type : SourceType
  /-- The parameters, when it is a function. -/
  params : List Parameter
  /-- The names of parameters whose types follow. -/
  names : List String
  attributes : Attributes
  /-- The scope of the parameters. -/
  scope : Scope
  setup : Term
  deriving Inhabited

/-- The parts of source. -/
inductive Part where
  | expression
  | assignment
  /-- An expression without assignments. -/
  | choice
  | cast
  /-- An expression with operators in front. -/
  | prefixed
  | typeName
  | specifiers
  /-- A name around a type, which may be left out. -/
  | declarator (type : SourceType)
  | statement
  /-- Statements up to a closing brace. -/
  | block
  /-- The same as an expression. -/
  | blockValue
  /-- A declaration inside a function. -/
  | declaration
  /-- The initial value of an object in braces or not. -/
  | initial (type : SourceType) (isStatic : Bool)

/-- An initial value at an offset of an object; digits of a word are told apart. -/
structure InitialPiece where
  offset : Nat
  type : SourceType
  digits : Option (Nat × Nat)
  value : Value
  deriving Inhabited

/-- What reading a part gives. -/
@[reducible] def Part.Result : Part → Type
  | expression | assignment | choice | cast | prefixed | blockValue => Value
  | typeName => SourceType
  | specifiers => Specifiers
  | declarator _ => Declarator
  | statement | block | declaration => Term
  | initial _ _ => SourceType × List InitialPiece

/-- The readers of all parts. -/
abbrev Grammar := (part : Part) → Compile part.Result

namespace Compile

/-- The integer that a constant expression stands for. -/
def constantInt (g : Grammar) : Compile Int := do
  let v ← read (← g .choice)
  match v.intValue? with
  | some n =>
      if !v.isExact then extension "an integer constant is computed"
      return n
  | none => refuse "an integer constant is expected"

/-- Goes on behind the parenthesis that closes one that was opened. -/
def skipClosed (depth : Nat) : Nat → Compile Unit
  | 0 => refuse "a parenthesis is not closed"
  | fuel + 1 => do
      let a ← next
      if a.kind = .nothing then refuse "a parenthesis is not closed"
      else if a.isMark "(" then skipClosed (depth + 1) fuel
      else if a.isMark ")" then
        match depth with
        | 0 => pure ()
        | depth + 1 => skipClosed depth fuel
      else skipClosed depth fuel

/-- How many lexemes are left. -/
def remaining : Compile Nat := do return (← get).input.length

/-- Skips what is in parentheses if a parenthesis is next. -/
def skipParentheses : Compile Unit := do
  if ← accept "(" then skipClosed 0 (← remaining)

/-- The text constants that are next, as one. -/
def textConstants : Compile (Option TextConstant) := do
  let texts := ((← get).input.takeWhile fun a => a.kind = .text).map (·.text)
  if texts.isEmpty then return none
  else
    for _ in texts do skip
    match joinTexts? texts with
    | some t => return some t
    | none => refuse "a malformed text"

/-- Text constants as letters. -/
def textLetters : Compile String := do
  match ← textConstants with
  | some t => return String.ofList (t.units.map Char.ofNat)
  | none => refuse "a text is expected"

/-- Attributes that are known and say nothing here. -/
def plainAttributes : List String :=
  ["const", "pure", "nothrow", "leaf", "always_inline", "noinline", "noclone", "noipa", "hot", "cold", "flatten",
    "malloc", "nonnull", "format", "format_arg", "sentinel", "returns_nonnull", "warn_unused_result",
    "deprecated", "unavailable", "section", "artificial", "returns_twice", "may_alias", "assume_aligned",
    "alloc_size", "alloc_align", "optimize", "target", "no_instrument_function", "externally_visible",
    "no_sanitize", "no_sanitize_address", "no_sanitize_thread", "no_sanitize_undefined", "tls_model",
    "designated_init", "nonstring", "access", "copy", "simd", "stack_protect", "no_stack_protector",
    "no_reorder", "no_split_stack", "noplt", "patchable_function_entry", "target_clones", "warning",
    "tainted_args", "zero_call_used_regs", "fd_arg", "fd_arg_read", "fd_arg_write", "null_terminated_string_arg",
    "assume", "nocf_check", "cf_check", "cold", "common", "nocommon", "ms_abi", "sysv_abi", "cdecl", "stdcall",
    "fastcall", "regparm", "force_align_arg_pointer", "ms_struct", "gcc_struct", "scalar_storage_order",
    "strict_flex_array", "warn_if_not_aligned", "noinit", "persistent", "uninitialized", "retain",
    "no_icf", "no_profile_instrument_function", "symver", "ifunc", "counted_by", "type_unused",
    "expected_throw", "naked", "interrupt", "nodirect_extern_access", "transaction_safe", "unsequenced",
    "reproducible", "nodiscard"]

/-- Reads one attribute. -/
def oneAttribute (g : Grammar) (found : Attributes) : Compile Attributes := do
  let a ← next
  if a.kind ≠ .name && a.kind ≠ .keyword then refuse "an attribute is expected"
  let letters := a.text.toList
  let bare := if letters.take 2 = ['_', '_'] && 4 < letters.length && (letters.drop (letters.length - 2)) = ['_', '_'] then
      String.ofList ((letters.drop 2).take (letters.length - 4))
    else a.text
  let number (otherwise : Nat) : Compile Nat := do
    if ← accept "(" then
      let n ← constantInt g
      expect ")"
      return n.toNat
    else return otherwise
  let word : Compile String := do
    expect "("
    let w ← textLetters
    expect ")"
    return w
  let isPower (n : Nat) : Bool := n ≠ 0 && twoPow (bitLength n - 1) = n
  match bare with
  | "aligned" =>
      let n ← number 16
      if !isPower n then refuse "an alignment that is no power of two"
      return { found with alignment := max n found.alignment }
  | "packed" => return { found with isPacked := true }
  | "vector_size" => return { found with vectorBytes := ← number 0 }
  | "noreturn" | "_Noreturn" => return { found with isFinal := true }
  | "unused" | "used" | "maybe_unused" => return { found with isKept := true }
  | "weak" => return { found with isWeak := true }
  | "transparent_union" => return { found with isTransparent := true }
  | "gnu_inline" => return { found with isInlineOnly := true }
  | "constructor" =>
      skipParentheses
      return { found with onLoad := true, isKept := true }
  | "destructor" =>
      skipParentheses
      return { found with isKept := true }
  | "fallthrough" => return { found with fallsThrough := true }
  | "error" =>
      skipParentheses
      return { found with isError := true }
  | "visibility" =>
      let w ← word
      if ! ["default", "hidden", "internal", "protected"].contains w then refuse "an unknown visibility"
      return { found with visibility := some w }
  | "alias" | "weakref" =>
      if ← atMark "(" then return { found with standsFor := some (← word) } else return found
  | "mode" =>
      expect "("
      let m ← next
      expect ")"
      return { found with mode := some (String.ofList (m.text.toList.filter (· ≠ '_'))) }
  | "cleanup" =>
      expect "("
      let f ← expectName
      expect ")"
      return { found with cleanup := some f }
  | name =>
      if !plainAttributes.contains name then warn "attributes" "an unknown attribute"
      skipParentheses
      return found

/-- Reads attributes up to a closing mark; `fuel` bounds their number. -/
def attributeList (g : Grammar) (closing : String) : Nat → Attributes → Compile Attributes
  | 0, _ => refuse "too many attributes"
  | fuel + 1, found => do
      if ← accept closing then return found
      else if ← accept "," then attributeList g closing fuel found
      else
        let found ← oneAttribute g found
        if ← atMark closing then attributeList g closing fuel found
        else
          expect ","
          attributeList g closing fuel found

/-- Reads attributes in brackets, which may have the names of their makers in front. -/
def bracketAttributes (g : Grammar) : Nat → Attributes → Compile Attributes
  | 0, _ => refuse "too many attributes"
  | fuel + 1, found => do
      if ← accept "]" then return found
      else if ← accept "," then bracketAttributes g fuel found
      else
        if (← peekAt 1).isMark ":" && (← peekAt 2).isMark ":" then
          skip
          skip
          skip
        bracketAttributes g fuel (← oneAttribute g found)

/-- Reads all attributes that are next. -/
def attributes (g : Grammar) : Nat → Attributes → Compile Attributes
  | 0, _ => refuse "too many attributes"
  | fuel + 1, found => do
      if ← acceptKeyword "__attribute__" then
        expect "("
        expect "("
        let found ← attributeList g ")" 1000 found
        expect ")"
        attributes g fuel found
      else if (← atMark "[") && (← peekAt 1).isMark "[" then
        since .c23 "attributes in brackets"
        skip
        skip
        let found ← bracketAttributes g 1000 found
        expect "]"
        attributes g fuel found
      else return found

/-- All attributes that are next. -/
def anyAttributes (g : Grammar) : Compile Attributes := attributes g 1000 .none

/-- What two lists of attributes say. -/
def joinAttributes (a b : Attributes) : Attributes :=
  ⟨max a.alignment b.alignment, a.isPacked || b.isPacked, max a.vectorBytes b.vectorBytes,
    a.isFinal || b.isFinal, a.isKept || b.isKept, a.isWeak || b.isWeak,
    a.isTransparent || b.isTransparent, a.isInlineOnly || b.isInlineOnly, a.isNever || b.isNever,
    a.visibility <|> b.visibility, a.standsFor <|> b.standsFor, a.mode <|> b.mode, a.cleanup <|> b.cleanup,
    a.onLoad || b.onLoad, a.fallsThrough || b.fallsThrough, a.isError || b.isError⟩

/-- The type that attributes make of another. -/
def attributedType (found : Attributes) (type : SourceType) : Compile SourceType := do
  let type ← match found.mode with
    | none => pure type
    | some mode =>
        let isSigned := (type.intKind?.map (·.isSigned)).getD true
        let int (k : IntKind) : SourceType :=
          (SourceType.int (if isSigned then k else k.toUnsigned)).qualify type.qualifiers
        match mode with
        | "QI" | "byte" => pure (int .signedChar)
        | "HI" => pure (int .short)
        | "SI" => pure (int .int)
        | "DI" | "word" | "pointer" => pure (int .long)
        | "TI" => pure (int .wide)
        | "SF" => pure (.float .single)
        | "DF" => pure (.float .double)
        | "XF" => pure (.float .extended)
        | "TF" => pure (.float .quad)
        | "SC" => pure (.complex (.float .single))
        | "DC" => pure (.complex (.float .double))
        | _ => refuse "an unknown mode"
  if found.vectorBytes = 0 then return type
  else
    match type.scalar? with
    | some s =>
        if s.bytes = 0 || found.vectorBytes % s.bytes ≠ 0 then refuse "a vector of broken elements"
        return .vector type.plain (found.vectorBytes / s.bytes)
    | none => refuse "a vector of something that is no number"

end Compile

end KernelForge.Compiler
