import KernelForge.Compiler.Directive
import KernelForge.Compiler.Header.General
import KernelForge.Compiler.Header.Number
import KernelForge.Compiler.Header.Predefined

/-!
# Headers and definitions

The lines of the headers that a source text can include, cut into lexemes once, and the definitions
that a setting makes before anything is read.
-/

namespace KernelForge.Compiler

/-- The lines of a text that is made of lines. -/
def linesOf (text : List String) : List SourceLine :=
  match lexemeLines .usual false ("\n".intercalate text) with
  | .ok lines => lines.toList.map .lexemes
  | .error _ => []

/-- The lines of the headers. -/
def headerTable : Std.HashMap String (List SourceLine) :=
  .ofList ((Header.generalHeaders ++ Header.numberHeaders ++ [("/dev/null", [])]).map
    fun (name, text) => (name, linesOf text))

/-- The lines of a header. -/
def header? (name : String) : Option (List SourceLine) := headerTable[name]?

/-- The definitions that all settings make. -/
def commonDefinitions : List SourceLine := linesOf (Header.machineDefinitions.map ("#define " ++ ·))

/-- The definitions of a setting that differ from others. -/
def settingDefinitions (setting : Setting) : List String :=
  let version := match setting.standard with
    | .c89 => none
    | .c94 => some "199409L"
    | .c99 => some "199901L"
    | .c11 => some "201112L"
    | .c17 => some "201710L"
    | .c23 => some "202000L"
  (if setting.typedNames then ["__cplusplus 201703L", "__GNUG__ 13", "_GNU_SOURCE 1"]
    else version.toList.map ("__STDC_VERSION__ " ++ ·)) ++
    (if setting.extensions then ["linux 1", "unix 1"] else ["__STRICT_ANSI__ 1"]) ++
    (if setting.since .c11 || (setting.extensions && setting.since .c99) then
      ["__STDC_UTF_16__ 1", "__STDC_UTF_32__ 1"] else []) ++
    (if setting.oldInline then ["__GNUC_GNU_INLINE__ 1"] else ["__GNUC_STDC_INLINE__ 1"]) ++
    (if setting.naturalChar then ["__CHAR_UNSIGNED__ 1"] else []) ++
    (if setting.threads then ["_OPENMP 201511", "_REENTRANT 1"] else [])

end KernelForge.Compiler
