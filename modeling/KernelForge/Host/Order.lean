import KernelForge.Compiler.Header
import KernelForge.Host.FlagTable

/-!
# What flags ask for

The flags of a compilation are read from the left to the right; one that is not known, or that misses
its argument, refuses the compilation. What they ask for is the setting of the language, what is defined
and included before the source, which names the libraries offer, and what is to be written.
-/

namespace KernelForge.Host

open Compiler

/-- What a compiler is to write. -/
inductive Product where
  | module
  /-- Something that cannot be opened as a module. -/
  | other
  /-- The source with its directives followed, which cannot be opened either. -/
  | expanded
  /-- Nothing at all: the source is not even read. -/
  | nothing
  deriving DecidableEq, Repr

/-- How hard a compiler tries to make fast or small code. -/
inductive Effort where
  | none
  | speed
  | size
  /-- Speed, with arithmetic that is not exact. -/
  | careless
  deriving DecidableEq, Repr

/-- Where a module may lie in memory, as far as its source can ask. -/
inductive Position where
  | fixed
  | shared (level : Nat)
  | program (level : Nat)
  deriving DecidableEq, Repr

/-- What flags ask for. -/
structure Order where
  setting : Setting
  product : Product
  effort : Effort
  /-- Whether arithmetic need not be exact, and whether numbers are taken to be finite. -/
  isFast : Bool
  isFinite : Bool
  position : Position
  /-- Lines of directives, the last one first. -/
  directives : List String
  /-- Files that are read before the source, the last one first, and whether only for their macros. -/
  included : List (String × Bool)
  /-- Properties of the machine that were asked for. -/
  machine : List String
  /-- Whether the headers can be found, and whether the names of the machine are defined. -/
  hasHeaders : Bool
  hasMachineNames : Bool
  /-- Whether the source can count on a whole library. -/
  isHosted : Bool
  /-- Whether functions for threads can be found. -/
  hasTeams : Bool
  /-- Whether every name has to be defined when the module is written. -/
  isComplete : Bool
  /-- Whether nothing can be found from outside. -/
  isWhole : Bool
  /-- Whether names have another letter in front. -/
  hasLeader : Bool
  /-- Whether a remark was made that refuses the source when remarks do. -/
  hasRemark : Bool
  /-- Whether the module cannot be opened for another reason. -/
  isUnusable : Bool

/-- What follows a beginning of a text. -/
def after? (beginning text : String) : Option String :=
  if beginning.toList.isPrefixOf text.toList then
    some (String.ofList (text.toList.drop beginning.length))
  else none

/-- The number that a text of digits is. -/
def count? (text : String) : Option Nat :=
  if text.isEmpty || !text.all Char.isDigit then none else text.toNat?

/-- What a text with an equals sign is made of. -/
def cut? (text : String) : Option (String × String) :=
  let chars := text.toList
  if chars.contains '=' then
    some (String.ofList (chars.takeWhile (· ≠ '=')), String.ofList ((chars.dropWhile (· ≠ '=')).drop 1))
  else none

/-- The line that a definition on the command line stands for: a name alone stands for one. -/
def definitionLine (text : String) : String :=
  let text := String.ofList (text.toList.takeWhile (· ≠ '\n'))
  match cut? text with
  | some (name, body) => "#define " ++ name ++ " " ++ body
  | none => "#define " ++ text ++ " 1"

/-- The language standards, with and without the usual extensions. -/
def standards : List (String × Standard × Bool) :=
  let both (years : List String) (standard : Standard) : List (String × Standard × Bool) :=
    years.flatMap fun year => [("c" ++ year, standard, false), ("gnu" ++ year, standard, true)]
  both ["89", "90"] .c89 ++ both ["99", "9x"] .c99 ++ both ["11", "1x"] .c11 ++ both ["17", "18"] .c17 ++
    both ["2x"] .c23 ++
    [("iso9899:1990", .c89, false), ("iso9899:199409", .c94, false), ("iso9899:1999", .c99, false),
      ("iso9899:199x", .c99, false), ("iso9899:2011", .c11, false), ("iso9899:2017", .c17, false),
      ("iso9899:2018", .c17, false)]

/-- Standards of other languages, which are taken with a remark. -/
def foreignStandards : List String :=
  wordsOf ["c++98 c++03 c++0x c++11 c++1y c++14 c++1z c++17 c++2a c++20 c++2b c++23 gnu++98 gnu++03 gnu++0x",
    "gnu++11 gnu++1y gnu++14 gnu++1z gnu++17 gnu++2a gnu++20 gnu++2b gnu++23 f95 f2003 f2008 f2018 gnu legacy"]

/-- The libraries that a module can name. -/
def linkedLibraries : List String :=
  wordsOf ["m c dl pthread rt gomp stdc++ quadmath atomic ubsan gcov gcc gcc_s gcc_eh util crypt z resolv anl",
    "mvec BrokenLocale itm ssp_nonshared supc++ :libm.so.6 :libc.so.6"]

/-- Flags by themselves that change nothing. -/
def plainFlags : List String :=
  wordsOf ["-g -g0 -g1 -g2 -g3 -ggdb -ggdb0 -ggdb1 -ggdb2 -ggdb3 -gdwarf -gdwarf-2 -gdwarf-3 -gdwarf-4",
    "-gdwarf-5 -gstabs -gstabs+ -gxcoff -gz -gsplit-dwarf -gcolumn-info -gno-column-info -gtoggle -gbtf -gctf",
    "-gstrict-dwarf -gno-strict-dwarf -grecord-gcc-switches -gno-record-gcc-switches -ginline-points",
    "-gstatement-frontiers -gpubnames -ggnu-pubnames -gvariable-location-views -gdwarf32 -gdwarf64",
    "-p -pg -coverage -v -s -t -time -pipe -H -C -CC -P -Q -dA -dD -dM -dN -dU -dI -da -dp -MD -MMD",
    "-save-temps -save-temps=obj -save-temps=cwd -shared -shared-libgcc -static-libgcc -static-libstdc++",
    "-static-libasan -static-libubsan -static-libquadmath -nostdlib -nodefaultlibs -nostartfiles -nolibc",
    "-nostdlib++ -rdynamic -remap -pass-exit-codes -no-canonical-prefixes -no-integrated-cpp -posix",
    "-specs=/dev/null -znow -I- -export-dynamic"]

/-- Flags by themselves after which nothing is compiled. -/
def askingFlags : List String :=
  wordsOf ["-print-search-dirs -print-libgcc-file-name -print-multi-lib -print-multi-directory",
    "-print-multi-os-directory -print-multiarch -print-sysroot -print-sysroot-headers-suffix -dumpversion",
    "-dumpmachine -dumpspecs -dumpfullversion --version --help --target-help -### -fversion -fhelp -ftarget-help"]

/-- Flags whose argument may be joined to them or be the next word, without an effect. -/
def idleWithWord : List String :=
  wordsOf ["-isystem -iquote -idirafter -iprefix -iwithprefixbefore -iwithprefix -imultilib -dumpbase-ext",
    "-dumpbase -dumpdir -aux-info -Xassembler -I -L -B -u -e -o"]

/-- Long flags and what they stand for. -/
def longFlags : List (String × String) :=
  [("--ansi", "-ansi"), ("--pedantic", "-pedantic"), ("--pedantic-errors", "-pedantic-errors"),
    ("--all-warnings", "-Wall"), ("--extra-warnings", "-Wextra"), ("--debug", "-g"), ("--optimize", "-O"),
    ("--define-macro", "-D"), ("--undefine-macro", "-U"), ("--include", "-include"), ("--imacros", "-imacros"),
    ("--include-directory", "-I"), ("--library-directory", "-L"), ("--no-warnings", "-w"), ("--verbose", "-v"),
    ("--shared", "-shared"), ("--pipe", "-pipe"), ("--profile", "-p"), ("--trigraphs", "-trigraphs"),
    ("--output", "-o"), ("--language", "-x"), ("--for-linker", "-Xlinker"), ("--for-assembler", "-Xassembler"),
    ("--no-standard-libraries", "-nostdlib"), ("--no-standard-includes", "-nostdinc"), ("--prefix", "-B"),
    ("--write-dependencies", "-MD"), ("--write-user-dependencies", "-MMD"), ("--comments", "-C"),
    ("--compile", "-c"), ("--preprocess", "-E"), ("--assemble", "-S"), ("--static", "-static"),
    ("--user-dependencies", "-MM"), ("--dependencies", "-M"), ("--save-temps", "-save-temps"),
    ("--coverage", "-coverage"), ("--entry", "-e"), ("--std", "-std="), ("--no-line-commands", "-P")]

/-- Words for the linker that change nothing. -/
def linkerWords : List String :=
  wordsOf ["-O1 -O2 -O3 --as-needed --no-as-needed -Bsymbolic -Bsymbolic-functions -Bdynamic --strip-all --strip-debug -s -S",
    "--gc-sections --no-gc-sections --print-gc-sections --export-dynamic -E --no-export-dynamic -v -V --hash-style=gnu",
    "--hash-style=sysv --hash-style=both --build-id --build-id=none --build-id=sha1 --allow-multiple-definition",
    "--warn-common --fatal-warnings --no-fatal-warnings --sort-common --relax --no-relax --discard-all -x -X",
    "-q -t --trace --stats --verbose -shared --no-dynamic-linker --start-group --no-whole-archive",
    "--unresolved-symbols=ignore-all --unresolved-symbols=report-all -d -g --print-map -M --cref --eh-frame-hdr",
    "--enable-new-dtags --disable-new-dtags --compress-debug-sections=zlib --compress-debug-sections=none -lm -lc",
    "--no-warnings --no-warn-mismatch --allow-shlib-undefined --no-allow-shlib-undefined --copy-dt-needed-entries",
    "--no-copy-dt-needed-entries --emit-relocs --reduce-memory-overheads --demangle --no-demangle --warn-once"]

/-- Words for the linker whose argument follows in the same flag. -/
def linkerPairs : List String :=
  wordsOf ["-rpath --rpath -rpath-link -soname -h -Map -u --undefined --wrap -init -fini -e --entry --exclude-libs",
    "-L -y --trace-symbol -z -a -A -G"]

/-- What definitions flags for the machine make; a flag makes those of all before it, too. -/
def machineSteps : List (String × List String) :=
  [("sse3", ["__SSE3__"]), ("ssse3", ["__SSSE3__"]), ("sse4.1", ["__SSE4_1__"]),
    ("sse4.2", ["__SSE4_2__", "__POPCNT__", "__CRC32__"]), ("avx", ["__AVX__", "__XSAVE__"]),
    ("avx2", ["__AVX2__"]), ("avx512f", ["__AVX512F__", "__EVEX512__", "__EVEX256__"])]

/-- Flags for the machine that make one definition of their own. -/
def machineExtras : List (String × String × String) :=
  [("fma", "__FMA__", "avx"), ("bmi", "__BMI__", ""), ("bmi2", "__BMI2__", ""), ("popcnt", "__POPCNT__", ""),
    ("lzcnt", "__LZCNT__", ""), ("f16c", "__F16C__", "avx"), ("aes", "__AES__", ""), ("pclmul", "__PCLMUL__", ""),
    ("movbe", "__MOVBE__", ""), ("rdrnd", "__RDRND__", ""), ("avx512vl", "__AVX512VL__", "avx512f"),
    ("avx512bw", "__AVX512BW__", "avx512f"), ("avx512dq", "__AVX512DQ__", "avx512f"),
    ("avx512cd", "__AVX512CD__", "avx512f")]

/-- The properties of machines with a name. -/
def architectureParts (name : String) : List String :=
  let second := ["sse4.2"]
  let third := ["avx2", "fma", "bmi", "bmi2", "lzcnt", "f16c", "movbe"]
  if name = "x86-64-v2" || name = "nehalem" || name = "westmere" then second
  else if name = "sandybridge" || name = "ivybridge" then ["avx"]
  else if ["x86-64-v4", "skylake-avx512", "cascadelake", "icelake-server", "icelake-client", "znver4"].contains name then
    third ++ ["avx512vl", "avx512bw", "avx512dq", "avx512cd"]
  else if ["x86-64-v3", "haswell", "broadwell", "skylake", "native", "znver1", "znver2", "znver3",
      "core-avx2", "alderlake"].contains name then third
  else if name = "core2" then ["ssse3"]
  else []

/-- What a list of properties defines. -/
def machineNames (properties : List String) : List String :=
  let steps := machineSteps.map Prod.fst
  let wanted := properties.flatMap fun p =>
    match machineExtras.find? (·.1 = p) with
    | some (_, _, step) => [p, step]
    | none => [p]
  let height := wanted.foldl (fun n p => max n (match steps.idxOf? p with
    | some i => i + 1
    | none => 0)) 0
  ((machineSteps.take height).flatMap Prod.snd ++
    wanted.filterMap fun p => (machineExtras.find? (·.1 = p)).map (·.2.1)).eraseDups

namespace Order

/-- The order of a compilation without flags of its own. -/
def usual (threads : Bool) : Order where
  setting := { Setting.usual with threads := threads }
  product := .module
  effort := .speed
  isFast := false
  isFinite := false
  position := .shared 2
  directives := []
  included := []
  machine := []
  hasHeaders := true
  hasMachineNames := true
  isHosted := true
  hasTeams := threads
  isComplete := false
  isWhole := false
  hasLeader := false
  hasRemark := false
  isUnusable := false

variable (order : Order)

/-- Adds a line of directives. -/
def direct (line : String) : Order := { order with directives := line :: order.directives }

/-- Changes the setting. -/
def set (f : Setting → Setting) : Order := { order with setting := f order.setting }

/-- Changes what happens with warnings. -/
def warn (f : Warnings → Warnings) : Order :=
  order.set fun s => { s with warnings := f s.warnings }

/-- Notes a remark on a flag for another language. -/
def remark : Order := { order with hasRemark := true }

/-- Lowers what is to be written. -/
def lower (product : Product) : Order :=
  if order.product = .nothing then order else { order with product := product }

/-- Chooses a revision of the language. -/
def follow (standard : Standard) (extensions : Bool) : Order :=
  order.set fun s => { s with
    standard := standard
    extensions := extensions
    oldInline := standard.rank < Standard.c99.rank
    trigraphs := !extensions && standard ≠ .c23 }

/-- What a word of the flag `-std=` asks for. -/
def standardFlag (word : String) : Option Order :=
  match standards.lookup word with
  | some (standard, extensions) => some (order.follow standard extensions)
  | none => if foreignStandards.contains word then some order.remark else none

/-- Whether a number with a unit of size follows. -/
def isSize (text : String) : Bool :=
  let digits := text.toList.takeWhile Char.isDigit
  let unit := String.ofList (text.toList.dropWhile Char.isDigit)
  !digits.isEmpty && ["", "kB", "KiB", "MB", "MiB", "GB", "GiB", "TB", "TiB", "PB", "PiB", "EB", "EiB"].contains unit

/-- The names of warnings that have a size. -/
def sizedWarnings : List String :=
  wordsOf ["alloc-size-larger-than alloca-larger-than frame-larger-than larger-than stack-usage vla-larger-than"]

/-- What a flag with a value asks for, when the value may stand there. -/
def valued (flag : String) : Option Order :=
  match cut? flag with
  | none => none
  | some (name, value) =>
      let beginning := name ++ "="
      if textValued.contains beginning then some order
      else if foreignTextValued.contains beginning then some order.remark
      else if countValued.contains beginning then (count? value).map fun _ => order
      else if foreignCountValued.contains beginning then (count? value).map fun _ => order.remark
      else
        match rangeValued.lookup beginning with
        | some (least, greatest) =>
            (count? value).bind fun n => if least ≤ n && n ≤ greatest then some order else none
        | none =>
            match wordValued.lookup beginning with
            | some words => if words.contains value then some order else none
            | none => (foreignWordValued.lookup beginning).bind fun words =>
                if words.contains value then some order.remark else none

/-- What a flag about warnings asks for; its first letter is left out. -/
def warning (name : String) : Option Order :=
  let known (n : String) : Bool := knownWarnings.contains n || ["all", "extra", "pedantic"].contains n
  if name = "error" then some (order.warn fun w => { w with allFail := true })
  else if name = "no-error" then some (order.warn fun w => { w with allFail := false })
  else if ["fatal-errors", "no-fatal-errors", "system-headers", "no-system-headers"].contains name then some order
  else if name.isEmpty then some (order.warn fun w => w.choose "extra" true)
  else
    match after? "error=" name with
    | some n =>
        let n := ((cut? n).map Prod.fst).getD n
        if known n then some (order.warn fun w => w.chooseFailing n true)
        else if foreignWarnings.contains n then some order else none
    | none =>
        match after? "no-error=" name with
        | some n =>
            if known n then some (order.warn fun w => w.chooseFailing n false)
            else if foreignWarnings.contains n then some order else none
        | none =>
            match after? "no-" name with
            | some n =>
                if n.isEmpty || n.toList.contains '=' then none
                else if foreignWarnings.contains n then
                  some (if order.setting.warnings.allFail then order.remark else order)
                else some (order.warn fun w => w.choose n false)
            | none =>
                if known name then some (order.warn fun w => w.choose name true)
                else if foreignWarnings.contains name then
                  some (if order.setting.warnings.allFail then order.remark else order)
                else
                  match cut? name with
                  | none => none
                  | some (n, value) =>
                      if sizedWarnings.contains n then if isSize value then some order else none
                      else
                        let chosen := order.warn fun w => w.choose n (value ≠ "0" && value ≠ "none")
                        chosen.valued ("W" ++ name)

/-- What sanitizers can look for. -/
def sanitizers : List String :=
  wordsOf ["alignment bool bounds bounds-strict builtin enum float-cast-overflow float-divide-by-zero",
    "integer-divide-by-zero nonnull-attribute null object-size pointer-overflow return",
    "returns-nonnull-attribute shift shift-base shift-exponent signed-integer-overflow undefined unreachable",
    "vla-bound vptr"]

/-- Features with an effect on the source. -/
def feature (name : String) (on : Bool) : Option Order :=
  let fast (on : Bool) (order : Order) : Order := { order with isFast := on, isFinite := on }
  match name with
  | "openmp" =>
      some ({ order with hasTeams := on || order.hasTeams }.set fun s => { s with threads := on })
  | "openmp-simd" | "cond-mismatch" | "signed-bitfields" | "unsigned-bitfields" | "ms-extensions" | "builtin"
  | "plan9-extensions" | "short-wchar" | "asm" | "directives-only" | "dollars-in-identifiers" => some order
  | "fast-math" => some (fast on order)
  | "finite-math-only" => some { order with isFinite := on }
  | "signed-char" => some (order.set fun s => { s with naturalChar := !on })
  | "unsigned-char" => some (order.set fun s => { s with naturalChar := on })
  | "single-precision-constant" => some (order.set fun s => { s with singleConstants := on })
  | "short-enums" => some (order.set fun s => { s with shortEnums := on })
  | "gnu89-inline" =>
      if !on && order.setting.standard.rank < Standard.c99.rank then none
      else some (order.set fun s => { s with oldInline := on })
  | "freestanding" => some { order with isHosted := !on }
  | "hosted" => some { order with isHosted := on }
  | "pic" => some { order with position := if on then .shared 1 else .fixed }
  | "PIC" => some { order with position := if on then .shared 2 else .fixed }
  | "pie" => some { order with position := if on then .program 1 else .fixed }
  | "PIE" => some { order with position := if on then .program 2 else .fixed }
  | "syntax-only" => some (if on then order.lower .other else order)
  | "leading-underscore" => some { order with hasLeader := on }
  | "whole-program" => some { order with isWhole := on }
  | "pack-struct" => some order
  | "permissive" => if on then some order.remark else none
  | _ => none

/-- What a flag for a feature asks for; its first letter is left out. -/
def featureFlag (name : String) : Option Order :=
  let base := (after? "no-" name).getD name
  let on := (after? "no-" name).isNone
  match order.feature base on with
  | some found => some found
  | none =>
      if switchedFeatures.contains base then some order
      else if on && positiveFeatures.contains base then some order
      else if !on && negativeFeatures.contains base then some order
      else if foreignSwitches.contains base then some order.remark
      else if on && foreignPositives.contains base then some order.remark
      else
        match after? "visibility=" name with
        | some "hidden" | some "internal" => some (order.set fun s => { s with hidden := true })
        | some "default" | some "protected" => some (order.set fun s => { s with hidden := false })
        | some _ => none
        | none =>
            match after? "sanitize=" base with
            | some words =>
                let words := words.splitOn ","
                if words.all sanitizers.contains then some order
                else if !on && words = ["all"] then some order
                else if words.all fun w => (["leak", "thread", "kernel-address"] ++ sanitizers).contains w then
                  some (if on then { order with isUnusable := true } else order)
                else none
            | none =>
                let open_ := ["call-saved-r", "call-used-r", "fixed-r", "dump-", "debug-prefix-map=", "file-prefix-map=",
                  "macro-prefix-map=", "opt-info-", "sanitize-recover=", "sanitize-trap=", "input-charset=",
                  "exec-charset=", "wide-exec-charset=", "pack-struct=", "max-errors=", "constexpr-"]
                if open_.any fun b => (after? b base).any fun rest => !rest.isEmpty then some order
                else if !on && (after? "builtin-" base).any fun rest => !rest.isEmpty then some order
                else order.valued ("f" ++ name)

/-- What a flag for the machine asks for; its first letter is left out. -/
def machineFlag (name : String) : Option Order :=
  let base := (after? "no-" name).getD name
  let on := (after? "no-" name).isNone
  if !on && base = "sse" then none
  else if machineSwitches.contains base || (on && machinePositives.contains base) then
    some { order with machine := if on then base :: order.machine else order.machine.filter (· ≠ base) }
  else if !on && machineNegatives.contains base then some order
  else
    match cut? name with
    | some ("arch", value) =>
        if architectures.contains value then
          some { order with machine := order.machine ++ architectureParts value }
        else none
    | some ("tune", value) | some ("cpu", value) => if tunings.contains value then some order else none
    | some ("abi", value) => if value = "sysv" then some order else none
    | _ => order.valued ("m" ++ name)

/-- What words for the linker ask for. -/
def linker : List String → Order → Option Order
  | [], order => some order
  | [word], order => linkerWord word order
  | word :: next :: rest, order =>
      if word = "-z" then
        linker rest (if next = "defs" then { order with isComplete := true } else order)
      else if linkerPairs.contains word then linker rest order
      else if word = "-m" then if next = "elf_x86_64" then linker rest order else none
      else if word = "--defsym" then if ((cut? next).bind fun d => count? d.2).isSome then linker rest order else none
      else (linkerWord word order).bind (linker (next :: rest))
where
  /-- One word by itself. -/
  linkerWord (word : String) (order : Order) : Option Order :=
    if word = "--no-undefined" then some { order with isComplete := true }
    else if ["--version", "--help"].contains word then some (order.lower .nothing)
    else if word = "-pie" then some { order with isUnusable := true }
    else if linkerWords.contains word then some order
    else if ["-rpath=", "-soname=", "-rpath-link=", "--undefined=", "--wrap=", "-Map=", "--exclude-libs=", "--entry=",
        "--trace-symbol=", "-y", "-u", "-L", "-f", "--retain-symbols-file="].any
        fun b => (after? b word).any fun rest => !rest.isEmpty then some order
    else none

/-- What words for the reader of directives ask for. -/
def readerWords : List String → Order → Option Order
  | [], order => some order
  | word :: rest, order =>
      match after? "-D" word, after? "-U" word, rest with
      | some "", _, text :: rest => readerWords rest (order.direct (definitionLine text))
      | some text, _, rest => readerWords rest (order.direct (definitionLine text))
      | none, some "", text :: rest => readerWords rest (order.direct ("#undef " ++ text))
      | none, some text, rest => readerWords rest (order.direct ("#undef " ++ text))
      | none, none, rest =>
          if ["-P", "-C", "-H", "-pedantic"].contains word || (after? "-I" word).isSome then readerWords rest order
          else if word = "-w" then
            readerWords rest (order.warn fun w => { w with silent := true })
          else
            match (after? "-W" word).bind order.warning with
            | some order => readerWords rest order
            | none => if word = "-MD" && !rest.isEmpty then some order else none

/-- How hard a flag asks to try. -/
def effortFlag (name : String) : Option Order :=
  let slow (effort : Effort) : Option Order := some { order with effort := effort }
  match name with
  | "" | "g" => slow .speed
  | "s" | "z" => slow .size
  | "fast" => some { order with effort := .careless, isFast := true, isFinite := true }
  | digits => (count? digits).map fun n => { order with effort := if n = 0 then .none else .speed }

/-- The language that is asked for. -/
def language (name : String) : Option Order :=
  if ["c", "none"].contains name then some order
  else if name = "c++" then some (order.set fun s => { s with typedNames := true, standard := .c23, trigraphs := false })
  else if name = "c-header" then some { order with product := .other }
  else none

/-- One flag by itself. -/
def single (flag : String) : Option Order :=
  if plainFlags.contains flag then some order
  else if askingFlags.contains flag then some (order.lower .nothing)
  else
    match flag with
    | "-c" | "-S" => some (order.lower .other)
    | "-E" | "-M" | "-MM" => some (order.lower .expanded)
    | "-w" => some (order.warn fun w => { w with silent := true })
    | "-ansi" => some (order.follow .c89 false)
    | "-trigraphs" => some (order.set fun s => { s with trigraphs := true })
    | "-pedantic" => some (order.warn fun w => w.choose "pedantic" true)
    | "-pedantic-errors" =>
        some (order.warn fun w => { w.chooseFailing "pedantic" true with strict := true })
    | "-pthread" => some (order.direct "#define _REENTRANT 1")
    | "-nostdinc" => some { order with hasHeaders := false }
    | "-nostdinc++" => some order.remark
    | "-undef" => some { order with hasHeaders := false, hasMachineNames := false }
    | "/dev/null" => some order
    | _ =>
        let try_ (beginning : String) (read : String → Option Order) (otherwise : Option Order) : Option Order :=
          match after? beginning flag with
          | some rest => read rest
          | none => otherwise
        let ignored (rest : String) : Option Order := if rest.isEmpty then none else some order
        try_ "-Wl," (fun rest => if rest.isEmpty then none else linker (rest.splitOn ",") order) <|
        try_ "-Wp," (fun rest => readerWords (rest.splitOn ",") order) <|
        try_ "-Wa," (fun rest =>
          if (rest.splitOn ",").all ["-g", "--noexecstack", "--warn", "--fatal-warnings", "-W", "-al", "-mintel64", "--64",
            "-", "--gdwarf-5", "-mrelax-relocations=no", "-mbranches-within-32B-boundaries"].contains then some order else none) <|
        try_ "-std=" order.standardFlag <|
        try_ "-D" (fun text => some (order.direct (definitionLine text))) <|
        try_ "-U" (fun text => some (order.direct ("#undef " ++ text))) <|
        try_ "-W" order.warning <|
        try_ "-f" order.featureFlag <|
        try_ "-m" (fun name => if name = "64" then some order else order.machineFlag name) <|
        try_ "-O" order.effortFlag <|
        try_ "-l" (fun name =>
          if linkedLibraries.contains name then
            some (if name = "gomp" then { order with hasTeams := true } else order)
          else none) <|
        try_ "-x" order.language <|
        try_ "-include" (fun file => some { order with included := (file, false) :: order.included }) <|
        try_ "-imacros" (fun file => some { order with included := (file, true) :: order.included }) <|
        try_ "-isysroot" (fun dir => some (if dir = "/" then order else { order with hasHeaders := false })) <|
        try_ "--sysroot=" (fun dir => if dir.isEmpty || dir = "/" then some order else none) <|
        try_ "--param=" (fun rest => (cut? rest).bind fun (name, value) =>
          if name.length < 4 then none else (count? value).map fun _ => order) <|
        try_ "-print-" ignored <| try_ "--help=" (fun _ => some (order.lower .nothing)) <|
        try_ "-gz=" (fun kind => if ["none", "zlib", "zlib-gnu", "zstd"].contains kind then some order else none) <|
        try_ "-A" ignored <| try_ "-z" ignored <|
        (idleWithWord.findSome? fun b => (after? b flag).bind ignored)

/-- Flags that a long one stands for, when it is one; its argument may be joined by an equals sign. -/
def expand (flag : String) : List String :=
  match longFlags.lookup flag with
  | some short => [short]
  | none =>
      match after? "--warn-" flag with
      | some rest => ["-W" ++ rest]
      | none =>
          match cut? flag with
          | some (name, value) =>
              match longFlags.lookup name with
              | some "-O" => ["-O" ++ value]
              | some "-std=" => ["-std=" ++ value]
              | some short => [short, value]
              | none => match name with
                  | "--machine" => ["-m" ++ value]
                  | "--dump" => ["-d" ++ value]
                  | _ => [flag]
          | none => [flag]

/-- What flags ask for, when all of them are known. -/
def read : List String → Order → Option Order
  | [], order => some order
  | [flag], order =>
      if flag = "-Xlinker" then some order
      else if needsWord flag then none else order.single flag
  | flag :: next :: rest, order =>
      match flag with
      | "-D" => read rest (order.direct (definitionLine next))
      | "-U" => read rest (order.direct ("#undef " ++ next))
      | "-include" => read rest { order with included := (next, false) :: order.included }
      | "-imacros" => read rest { order with included := (next, true) :: order.included }
      | "-isysroot" => read rest (if next = "/" then order else { order with hasHeaders := false })
      | "-x" => (order.language next).bind (read rest)
      | "-l" => (order.single ("-l" ++ next)).bind (read rest)
      | "-std=" => (order.standardFlag next).bind (read rest)
      | "-Xlinker" => (linker [next] order).bind (read rest)
      | "-Xpreprocessor" => (readerWords [next] order).bind (read rest)
      | "-z" => read rest (if next = "defs" then { order with isComplete := true } else order)
      | "--param" => (order.single ("--param=" ++ next)).bind (read rest)
      | "-wrapper" => if next = "env" then read rest order else none
      | "-A" => read rest order
      | "-T" | "-specs" => none
      | _ =>
          if idleWithWord.contains flag then read rest order
          else (order.single flag).bind (read (next :: rest))
where
  /-- Whether an argument has to follow a flag. -/
  needsWord (flag : String) : Bool :=
    idleWithWord.contains flag || ["-D", "-U", "-include", "-imacros", "-isysroot", "-x", "-l", "-std=", "-Xpreprocessor",
      "-z", "--param", "-wrapper", "-A", "-T", "-MF", "-MT", "-MQ"].contains flag

/-- What the flags of a compilation ask for. -/
def ofFlags (threads : Bool) (flags : List String) : Option Order :=
  let flags := flags.flatMap expand
  let withFile := flags.contains "-MF" && (flags.any ["-MD", "-MMD", "-M", "-MM"].contains)
  let flags := if withFile then dropFiles flags else flags
  (read flags (usual threads)).bind fun order =>
    if order.hasRemark && order.setting.warnings.allFail && !order.setting.warnings.silent then none else some order
where
  /-- Leaves out the names of files for dependencies. -/
  dropFiles : List String → List String
    | "-MF" :: _ :: rest | "-MT" :: _ :: rest | "-MQ" :: _ :: rest => dropFiles rest
    | flag :: rest => if ["-MP", "-MG"].contains flag then dropFiles rest else flag :: dropFiles rest
    | [] => []

/-- The definitions that are made before the flags make theirs. -/
def firstDefinitions : List String :=
  let position := match order.position with
    | .fixed => []
    | .shared level => ["__pic__ " ++ toString level, "__PIC__ " ++ toString level]
    | .program level => ["__pic__ " ++ toString level, "__PIC__ " ++ toString level,
        "__pie__ " ++ toString level, "__PIE__ " ++ toString level]
  let effort := match order.effort with
    | .none => ["__NO_INLINE__ 1"]
    | .size => ["__OPTIMIZE__ 1", "__OPTIMIZE_SIZE__ 1"]
    | _ => ["__OPTIMIZE__ 1"]
  settingDefinitions order.setting ++ position ++ effort ++
    (if order.isFast then ["__FAST_MATH__ 1"] else []) ++
    (if order.isFinite then ["__FINITE_MATH_ONLY__ 1"] else ["__FINITE_MATH_ONLY__ 0"]) ++
    (if order.isFast || order.isFinite || order.setting.singleConstants then
      ["__GCC_IEC_559_COMPLEX 0", "__GCC_IEC_559 0"] else Header.exactDefinitions) ++
    (machineNames order.machine).map (· ++ " 1") ++
    [if order.isHosted then "__STDC_HOSTED__ 1" else "__STDC_HOSTED__ 0"]

/-- The lines that are read before everything else. -/
def definitions : List SourceLine :=
  (if order.hasMachineNames then commonDefinitions else []) ++
    linesOf (order.firstDefinitions.map ("#define " ++ ·)) ++
    order.directives.reverse.flatMap fun line => linesOf [line]

/-- The lines of a header, when headers can be found. -/
def header (name : String) : Option (List SourceLine) :=
  if order.hasHeaders || name = "/dev/null" then header? name else none

end Order

end KernelForge.Host
