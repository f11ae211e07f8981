import KernelForge.Compiler.Mathematics
import KernelForge.Compiler.SourceType
import Std.Data.HashMap

/-!
# The functions that the compiler knows

The types of library functions that need no declaration. A type is written with a letter for the result
and one for every parameter; a point stands for further arguments.
-/

namespace KernelForge.Compiler

open Code

/-- The type that a letter stands for. -/
def letterType : Char → SourceType
  | 'v' => .void
  | 'b' => .int .bool
  | 'c' => .int .char
  | 'h' => .int .unsignedShort
  | 'i' => .int .int
  | 'u' => .int .unsignedInt
  | 'l' => .int .long
  | 'z' => .int .unsignedLong
  | 'q' => .int .longLong
  | 'Q' => .int .unsignedLongLong
  | 'f' => .float .single
  | 'd' => .float .double
  | 'e' => .float .extended
  | 'F' => .complex (.float .single)
  | 'D' => .complex (.float .double)
  | 'E' => .complex (.float .extended)
  | 'p' => .pointer .void
  | 'P' => .pointer (.qualified .const .void)
  | 's' => .pointer (.int .char)
  | 'S' => .pointer (.qualified .const (.int .char))
  | 'I' => .pointer (.int .int)
  | '1' => .pointer (.float .single)
  | '2' => .pointer (.float .double)
  | '3' => .pointer (.float .extended)
  | _ => .void

/-- The type of a function from its letters. -/
def signatureType (letters : String) : SourceType :=
  match letters.toList with
  | result :: params =>
      let named := params.filter (· ≠ '.')
      .function (letterType result) (.ofParams (named.map letterType))
        (if params.contains '.' then .variadic else .exact)
  | [] => .function .void .noParams .exact

/-- The letters of mathematical functions in double precision. -/
def mathSignatures : List (String × String) :=
  (["exp", "exp2", "exp10", "pow10", "expm1", "log", "log2", "log10", "log1p", "logb", "sin", "cos",
      "tan", "asin", "acos", "atan", "sinh", "cosh", "tanh", "asinh", "acosh", "atanh", "cbrt", "sqrt",
      "trunc", "floor", "ceil", "rint", "nearbyint", "roundeven", "round", "fabs", "significand", "erf",
      "erfc", "tgamma", "lgamma", "gamma", "j0", "j1", "y0", "y1"].map (·, "dd")) ++
    (["pow", "atan2", "fmod", "remainder", "drem", "fmax", "fmin", "fdim", "copysign", "nextafter",
      "hypot", "scalb"].map (·, "ddd")) ++
    [("ldexp", "ddi"), ("scalbn", "ddi"), ("scalbln", "ddl"), ("frexp", "ddI"), ("modf", "dd2"),
      ("fma", "dddd"), ("remquo", "dddI"), ("ilogb", "id"), ("lrint", "ld"), ("llrint", "qd"),
      ("lround", "ld"), ("llround", "qd"), ("lceil", "ld"), ("lfloor", "ld"), ("irint", "id"),
      ("iround", "id"), ("iceil", "id"), ("ifloor", "id"), ("nexttoward", "dde"), ("jn", "did"),
      ("yn", "did"), ("sincos", "vd22"), ("nan", "dS"), ("nans", "dS"), ("inf", "d"), ("huge_val", "d"),
      ("isnan", "id"), ("isinf", "id"), ("finite", "id"), ("signbit", "id"), ("cabs", "dD"),
      ("carg", "dD"), ("creal", "dD"), ("cimag", "dD"), ("conj", "DD"), ("cproj", "DD"), ("cexp", "DD"),
      ("clog", "DD"), ("csqrt", "DD"), ("csin", "DD"), ("ccos", "DD"), ("ctan", "DD"), ("csinh", "DD"),
      ("ccosh", "DD"), ("ctanh", "DD"), ("casin", "DD"), ("cacos", "DD"), ("catan", "DD"),
      ("casinh", "DD"), ("cacosh", "DD"), ("catanh", "DD"), ("cpow", "DDD"), ("cexpi", "Dd")]

/-- Letters for another floating-point type. -/
def atWidth (float complex pointer : Char) (letters : String) : String :=
  letters.map fun c => if c = 'd' then float else if c = 'D' then complex else if c = '2' then pointer else c

/-- The other known functions. -/
def plainSignatures : List (String × String) :=
  [("abs", "ii"), ("labs", "ll"), ("llabs", "qq"), ("imaxabs", "ll"), ("malloc", "pz"), ("calloc", "pzz"),
    ("realloc", "ppz"), ("free", "vp"), ("alloca", "pz"), ("aligned_alloc", "pzz"), ("memcpy", "ppPz"),
    ("memmove", "ppPz"), ("mempcpy", "ppPz"), ("memset", "ppiz"), ("memcmp", "iPPz"), ("bcmp", "iPPz"),
    ("memchr", "pPiz"), ("bzero", "vpz"), ("bcopy", "vPpz"), ("strlen", "zS"), ("strnlen", "zSz"),
    ("strcmp", "iSS"), ("strncmp", "iSSz"), ("strcpy", "ssS"), ("stpcpy", "ssS"), ("strncpy", "ssSz"),
    ("stpncpy", "ssSz"), ("strcat", "ssS"), ("strncat", "ssSz"), ("strchr", "sSi"), ("strrchr", "sSi"),
    ("index", "sSi"), ("rindex", "sSi"), ("strstr", "sSS"), ("strspn", "zSS"), ("strcspn", "zSS"),
    ("strpbrk", "sSS"), ("strdup", "sS"), ("strndup", "sSz"), ("strcasecmp", "iSS"),
    ("strncasecmp", "iSSz"), ("ffs", "ii"), ("ffsl", "il"), ("ffsll", "iq"), ("printf", "iS."),
    ("sprintf", "isS."), ("snprintf", "iszS."), ("puts", "iS"), ("putchar", "ii"), ("abort", "v"),
    ("exit", "vi"), ("_exit", "vi"), ("_Exit", "vi"), ("isalpha", "ii"), ("isdigit", "ii"),
    ("isalnum", "ii"), ("isspace", "ii"), ("isupper", "ii"), ("islower", "ii"), ("isxdigit", "ii"),
    ("ispunct", "ii"), ("isprint", "ii"), ("isgraph", "ii"), ("iscntrl", "ii"), ("isblank", "ii"),
    ("isascii", "ii"), ("toascii", "ii"), ("toupper", "ii"), ("tolower", "ii"), ("scanf", "iS."),
    ("sscanf", "iSS."), ("toupper", "ii")]

/-- The letters of all known functions. -/
def knownSignatures : Std.HashMap String String :=
  .ofList (plainSignatures ++ mathSignatures.flatMap fun (name, letters) =>
    [(name, letters), (name ++ "f", atWidth 'f' 'F' '1' letters), (name ++ "l", atWidth 'e' 'E' '3' letters)])

/-- The type of a function that the compiler knows. -/
def signature? (name : String) : Option SourceType := (knownSignatures[name]?).map signatureType

/-- The functions that the compiler knows only under a name that begins with `__builtin_`. -/
def builtinSignatures : Std.HashMap String String :=
  .ofList ([("expect", "lll"), ("expect_with_probability", "llld"), ("unreachable", "v"), ("trap", "v"), ("huge_val", "d"),
    ("huge_valf", "f"), ("huge_vall", "e"), ("inf", "d"), ("inff", "f"), ("infl", "e"), ("nan", "dS"),
    ("nanf", "fS"), ("nanl", "eS"), ("nans", "dS"), ("nansf", "fS"), ("nansl", "eS"), ("popcount", "iu"),
    ("popcountl", "iz"), ("popcountll", "iQ"), ("clz", "iu"), ("clzl", "iz"), ("clzll", "iQ"),
    ("ctz", "iu"), ("ctzl", "iz"), ("ctzll", "iQ"), ("ffs", "ii"), ("ffsl", "il"), ("ffsll", "iq"),
    ("parity", "iu"), ("parityl", "iz"), ("parityll", "iQ"), ("clrsb", "ii"), ("clrsbl", "il"),
    ("clrsbll", "iq"), ("bswap16", "hh"), ("bswap32", "uu"), ("bswap64", "zz"), ("alloca", "pz"),
    ("frame_address", "pu"), ("return_address", "pu"), ("object_size", "zPi"),
    ("dynamic_object_size", "zPi"), ("extract_return_addr", "pp"), ("strlen", "zS"), ("cpu_init", "i"),
    ("cpu_supports", "iS"), ("cpu_is", "iS"), ("LINE", "i"), ("FILE", "S"), ("FUNCTION", "S"),
    ("prefetch", "vP."), ("assume_aligned", "pPz."), ("constant_p", "i."), ("classify_type", "i."),
    ("abs", "ii"), ("labs", "ll"), ("llabs", "qq"), ("signbit", "i."), ("signbitf", "if"), ("signbitl", "ie"),
    ("isnan", "i."), ("isinf", "i."), ("isinf_sign", "i."), ("isfinite", "i."), ("finite", "id"),
    ("isnormal", "i."), ("issignaling", "i."), ("fpclassify", "iiiiii."), ("isgreater", "i."),
    ("isgreaterequal", "i."), ("isless", "i."), ("islessequal", "i."), ("islessgreater", "i."),
    ("isunordered", "i."), ("iseqsig", "i."), ("add_overflow", "b."), ("sub_overflow", "b."),
    ("mul_overflow", "b."), ("add_overflow_p", "b."), ("sub_overflow_p", "b."), ("mul_overflow_p", "b."),
    ("sadd_overflow", "biiI"), ("ssub_overflow", "biiI"), ("smul_overflow", "biiI"),
    ("uadd_overflow", "b."), ("usub_overflow", "b."), ("umul_overflow", "b."), ("saddl_overflow", "b."),
    ("ssubl_overflow", "b."), ("smull_overflow", "b."), ("uaddl_overflow", "b."),
    ("usubl_overflow", "b."), ("umull_overflow", "b."), ("saddll_overflow", "b."),
    ("ssubll_overflow", "b."), ("smulll_overflow", "b."), ("uaddll_overflow", "b."),
    ("usubll_overflow", "b."), ("umulll_overflow", "b."), ("va_start", "v."), ("va_end", "v."),
    ("va_copy", "v."), ("copysignq", "ddd"), ("speculation_safe_value", "i."), ("ia32_pause", "v"),
    ("memcpy", "ppPz"), ("stack_save", "p"), ("stack_restore", "vp"), ("next_arg", "p")])

end KernelForge.Compiler
