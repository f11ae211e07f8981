import KernelForge.Compiler.Lexeme

/-!
# Settings of a compilation

The revision of the language, with or without its usual extensions, and what happens where source
calls for a warning. Warnings have names; a name belongs to groups, and what is chosen for a name
itself outweighs what is chosen for its groups. A warning refuses the source when it is on and fails.
-/

namespace KernelForge.Compiler

/-- The revisions of the language. -/
inductive Standard where
  | c89
  | c94
  | c99
  | c11
  | c17
  | c23
  deriving DecidableEq, Repr, Inhabited

/-- The order of the revisions. -/
def Standard.rank : Standard → Nat
  | c89 => 0
  | c94 => 1
  | c99 => 2
  | c11 => 3
  | c17 => 4
  | c23 => 5

/-- What happens with warnings. Later choices come first. -/
structure Warnings where
  /-- Names and groups that were turned on or off. -/
  chosen : List (String × Bool)
  /-- Names and groups whose warnings were made to refuse the source, or not to. -/
  failing : List (String × Bool)
  /-- Whether warnings refuse the source unless their name says otherwise. -/
  allFail : Bool
  /-- Whether there are no warnings at all. -/
  silent : Bool
  /-- Whether what the standard forbids is refused. -/
  strict : Bool
  deriving DecidableEq, Repr, Inhabited

/-- The names that are on from the start. -/
def usualWarnings : List String :=
  ["", "address-of-packed-member", "aggressive-loop-optimizations", "attributes",
    "builtin-declaration-mismatch", "builtin-macro-redefined", "coverage-mismatch", "cpp", "deprecated",
    "deprecated-declarations", "designated-init", "discarded-array-qualifiers", "discarded-qualifiers",
    "div-by-zero", "endif-labels", "enum-int-mismatch", "format", "format-contains-nul",
    "format-extra-args", "format-security", "format-zero-length", "free-nonheap-object",
    "if-not-aligned", "ignored-attributes", "implicit-function-declaration", "implicit-int",
    "incompatible-pointer-types", "int-conversion", "int-to-pointer-cast", "invalid-memory-model",
    "lto-type-mismatch", "multichar", "nonnull", "overflow", "override-init-side-effects",
    "packed-bitfield-compat", "pointer-compare", "pointer-to-int-cast", "pragmas", "prio-ctor-dtor",
    "psabi", "return-local-addr", "return-mismatch", "scalar-storage-order", "shift-count-negative",
    "shift-count-overflow", "shift-overflow", "sizeof-array-argument", "stringop-overflow",
    "stringop-overread", "switch-bool", "switch-outside-range", "switch-unreachable", "sync-nand",
    "tsan", "unicode", "unused-result", "varargs", "xor-used-as-pow"]

/-- The names of the group `all`. -/
def commonWarnings : List String :=
  ["address", "array-bounds", "array-compare", "array-parameter", "bool-compare", "bool-operation",
    "char-subscripts", "comment", "dangling-pointer", "duplicate-decl-specifier", "enum-compare",
    "format-overflow", "format-truncation", "frame-address", "implicit", "infinite-recursion",
    "int-in-bool-context", "logical-not-parentheses", "main", "maybe-uninitialized", "memset-elt-size",
    "memset-transposed-args", "misleading-indentation", "mismatched-dealloc", "missing-attributes",
    "missing-braces", "multistatement-macros", "nonnull-compare", "openmp-simd", "packed-not-aligned",
    "parentheses", "pointer-sign", "restrict", "return-type", "sequence-point", "sizeof-array-div",
    "sizeof-pointer-div", "sizeof-pointer-memaccess", "strict-aliasing", "strict-overflow",
    "stringop-truncation", "switch", "tautological-compare", "trigraphs", "uninitialized",
    "unknown-pragmas", "unused", "use-after-free", "vla-parameter", "volatile-register-var",
    "zero-length-bounds"]

/-- The names of the group `extra`. -/
def furtherWarnings : List String :=
  ["absolute-value", "cast-function-type", "clobbered", "empty-body", "enum-conversion",
    "expansion-to-defined", "ignored-qualifiers", "implicit-fallthrough", "maybe-uninitialized",
    "missing-field-initializers", "missing-parameter-type", "old-style-declaration", "override-init",
    "shift-negative-value", "sign-compare", "string-compare", "type-limits", "uninitialized",
    "unused-but-set-parameter", "unused-parameter"]

/-- The smaller groups with their names. -/
def smallGroups : List (String × List String) :=
  [("unused", ["unused-but-set-variable", "unused-function", "unused-label", "unused-local-typedefs",
      "unused-value", "unused-variable"]),
    ("unused-variable", ["unused-const-variable"]), ("implicit", ["implicit-function-declaration",
      "implicit-int"]), ("parentheses", ["dangling-else"]), ("maybe-uninitialized", []),
    ("uninitialized", ["maybe-uninitialized"]), ("format", ["nonnull"]),
    ("conversion", ["float-conversion", "sign-conversion"]),
    ("pedantic", ["expansion-to-defined", "main", "overlength-strings", "pointer-arith", "pointer-sign",
      "variadic-macros", "long-long", "declaration-after-statement"]),
    ("c++-compat", ["implicit-int", "enum-conversion"]), ("shadow", ["shadow-local"]),
    ("shadow-local", ["shadow-compatible-local"]), ("comments", ["comment"]),
    ("strict-prototypes", ["deprecated-non-prototype"]), ("missing-declarations", [])]

/-- The groups that a name belongs to. -/
def warningGroups (name : String) : List String :=
  (if commonWarnings.contains name then ["all"] else []) ++
    (if furtherWarnings.contains name then ["extra"] else []) ++
    (smallGroups.filter fun group => group.2.contains name).map Prod.fst

namespace Warnings

/-- The choices at the start. -/
def start : Warnings := ⟨[], [], false, false, false⟩

/-- What was chosen for a name or else for one of its groups; groups have groups, up to a depth. -/
def choice? (choices : List (String × Bool)) : Nat → String → Option Bool
  | 0, name => choices.lookup name
  | depth + 1, name =>
      match choices.lookup name with
      | some chosen => some chosen
      | none =>
          let found := (warningGroups name).filterMap (choice? choices depth)
          if found.isEmpty then none else some (found.any id)

variable (warnings : Warnings)

/-- Whether warnings of a name are on. -/
def isOn (name : String) : Bool :=
  !warnings.silent && (choice? warnings.chosen 3 name).getD (usualWarnings.contains name)

/-- Whether warnings of a name refuse the source. -/
def fails (name : String) : Bool :=
  warnings.isOn name && (choice? warnings.failing 3 name).getD warnings.allFail

/-- Turns a name or group on or off. -/
def choose (name : String) (on : Bool) : Warnings :=
  { warnings with chosen := (name, on) :: warnings.chosen }

/-- Makes the warnings of a name refuse the source, or not. -/
def chooseFailing (name : String) (fails : Bool) : Warnings :=
  let warnings := if fails then warnings.choose name true else warnings
  { warnings with failing := (name, fails) :: warnings.failing }

end Warnings

/-- What is asked of a compilation. -/
structure Setting where
  standard : Standard
  /-- Whether the usual extensions are on. -/
  extensions : Bool
  trigraphs : Bool
  /-- Whether directives for threads count. -/
  threads : Bool
  /-- Whether `char` has no negative values. -/
  naturalChar : Bool
  /-- Whether floating-point constants have single precision. -/
  singleConstants : Bool
  /-- Whether names with linkage cannot be found from outside unless they say so. -/
  hidden : Bool
  /-- Whether inline functions follow the old rule, by which they are defined here. -/
  oldInline : Bool
  /-- Whether enumerations take as few bytes as they need. -/
  shortEnums : Bool
  /-- Whether the source is of the wider language in which names carry their types. -/
  typedNames : Bool
  warnings : Warnings
  deriving DecidableEq, Repr, Inhabited

namespace Setting

/-- The usual setting. -/
def usual : Setting :=
  ⟨.c17, true, false, false, false, false, false, false, false, false, .start⟩

variable (setting : Setting)

/-- Whether a revision of the standard is in force. -/
def since (standard : Standard) : Bool := standard.rank ≤ setting.standard.rank

/-- How the letters of the source are cut. -/
def lexemeRules : LexemeRules where
  lineComments := setting.extensions || setting.since .c99
  wideNames := setting.since .c99
  dollars := true
  widePrefixes := setting.since .c11 || (setting.extensions && setting.since .c99)
  digraphs := setting.extensions || setting.since .c94
  separators := setting.since .c23

end Setting

end KernelForge.Compiler
