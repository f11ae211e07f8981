import KernelForge.Compiler.Setting
import Std.Data.HashMap

/-!
# Keywords

Which names are keywords depends on the setting. Reserved spellings of a keyword stand for the usual
one.
-/

namespace KernelForge.Compiler

/-- The keywords of all settings. -/
def commonKeywords : List String :=
  ["auto", "break", "case", "char", "const", "continue", "default", "do", "double", "else", "enum",
    "extern", "float", "for", "goto", "if", "int", "long", "register", "return", "short", "signed",
    "sizeof", "static", "struct", "switch", "typedef", "union", "unsigned", "void", "volatile", "while",
    "_Bool", "_Complex", "_Imaginary", "_Alignas", "_Alignof", "_Atomic", "_Generic", "_Noreturn",
    "_Static_assert", "_Thread_local", "__auto_type", "__int128", "__float128", "_Float128",
    "_Float16", "_Float32", "_Float64", "_Float32x", "_Float64x", "__builtin_va_arg",
    "__builtin_offsetof", "__builtin_choose_expr", "__builtin_types_compatible_p",
    "__builtin_complex", "__builtin_shuffle", "__builtin_convertvector", "_Decimal32", "_Decimal64",
    "_Decimal128", "__builtin_has_attribute", "__builtin_call_with_static_chain",
    "__builtin_tgmath", "__builtin_shufflevector", "__builtin_assoc_barrier", "__transaction_atomic",
    "_Sat", "_Fract", "_Accum"]

/-- Spellings of keywords that every setting knows, with the usual ones. -/
def reservedSpellings : List (String × String) :=
  [("__const", "const"), ("__const__", "const"), ("__volatile", "volatile"),
    ("__volatile__", "volatile"), ("__signed", "signed"), ("__signed__", "signed"),
    ("__inline", "inline"), ("__inline__", "inline"), ("__restrict", "restrict"),
    ("__restrict__", "restrict"), ("__asm", "asm"), ("__asm__", "asm"), ("__typeof", "typeof"),
    ("__typeof__", "typeof"), ("__alignof", "_Alignof"), ("__alignof__", "_Alignof"),
    ("__attribute", "__attribute__"), ("__attribute__", "__attribute__"),
    ("__extension__", "__extension__"), ("__complex", "_Complex"), ("__complex__", "_Complex"),
    ("__real", "__real__"), ("__real__", "__real__"), ("__imag", "__imag__"),
    ("__imag__", "__imag__"), ("__label__", "__label__"), ("__thread", "_Thread_local"),
    ("__null", "__null")]

/-- The keywords that a setting adds. -/
def Setting.furtherKeywords (setting : Setting) : List (String × String) :=
  let same (names : List String) : List (String × String) := names.map fun n => (n, n)
  (if setting.extensions then same ["asm"] else []) ++
    (if setting.extensions || setting.since .c23 then same ["typeof"] else []) ++
    (if setting.extensions || setting.since .c99 then same ["inline"] else []) ++
    (if setting.since .c99 then same ["restrict"] else []) ++
    (if setting.since .c23 then
      [("bool", "_Bool"), ("true", "true"), ("false", "false"), ("nullptr", "nullptr"),
        ("static_assert", "_Static_assert"), ("thread_local", "_Thread_local"),
        ("alignas", "_Alignas"), ("alignof", "_Alignof"), ("constexpr", "constexpr"),
        ("typeof_unqual", "typeof_unqual")]
    else [])

/-- Keywords that the wider language does not have. -/
def narrowKeywords : List String :=
  ["_Bool", "_Generic", "_Static_assert", "_Noreturn", "_Alignas", "_Alignof", "_Atomic", "_Thread_local",
    "restrict", "typeof_unqual"]

/-- Further keywords of the wider language. -/
def wideKeywords : List String :=
  ["and", "and_eq", "bitand", "bitor", "catch", "char16_t", "char32_t", "class", "compl", "const_cast",
    "decltype", "delete", "dynamic_cast", "explicit", "export", "friend", "mutable", "namespace", "new",
    "noexcept", "not", "not_eq", "operator", "or", "or_eq", "private", "protected", "public",
    "reinterpret_cast", "static_cast", "template", "this", "throw", "try", "typeid", "typename", "using",
    "virtual", "wchar_t", "xor", "xor_eq"]

/-- All keywords by their spellings. -/
def keywordTable (setting : Setting) : Std.HashMap String String :=
  let spellings := commonKeywords.map (fun n => (n, n)) ++ setting.furtherKeywords
  let spellings := if setting.typedNames then
      spellings.filter (fun (n, _) => !narrowKeywords.contains n) ++ wideKeywords.map fun n => (n, n)
    else spellings
  .ofList (spellings ++ reservedSpellings)

/-- Tells keywords from other names. -/
def markKeywords (setting : Setting) (input : Array Lexeme) : Array Lexeme :=
  let table := keywordTable setting
  input.map fun a =>
    if a.kind = .name && !(a.inHeader && setting.typedNames && wideKeywords.contains a.text) then
      match table[a.text]? with
      | some usual => { a with kind := .keyword, text := usual }
      | none => a
    else a

end KernelForge.Compiler
