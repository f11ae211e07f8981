import KernelForge.Code.Printer
import KernelForge.Template.Contract

/-!
# Types and parameters in kernel source

Every element type has a type in kernel source, and every module gives its floating-point type the same
name.

Every slot of a kernel's contract becomes one parameter of the C function: a dimension, a pointer, a
leading dimension or a scalar. Both targets list the same parameters and differ in the word that
promises that pointers do not overlap.
-/

namespace KernelForge

/-- The type of an element in kernel source. -/
def ElementType.cType : ElementType → Code.CType
  | int32 => .int .int
  | int64 => .int .longLong
  | float32 => .float .single
  | float64 => .float .double

/-- The name under which a module refers to its floating-point type. -/
def floatTypeAlias : String := "fpdtype_t"

/-- The type names of a module for a floating-point type. -/
def moduleTypeNames (floatType : ElementType) : Code.TypeNames :=
  [(floatType.cType, floatTypeAlias)]

/-- A parameter of a C function that stands for one slot. -/
structure SourceParameter where
  type : String
  name : String
  /-- Passed as a 64-bit address. -/
  isAddress : Bool
  /-- Declared free of overlap with other pointers. -/
  isRestricted : Bool
  deriving DecidableEq, Repr

namespace SourceParameter

/-- A parameter passed by value. -/
def value (type name : String) : SourceParameter := ⟨type, name, false, false⟩

/-- A pointer to elements. -/
def pointer (type name : String) : SourceParameter := ⟨type, name, true, true⟩

/-- An address of unknown contents. -/
def opaquePointer (name : String) : SourceParameter := ⟨"void*", name, true, false⟩

/-- The declaration, with the target's word for freedom of overlap. -/
def declaration (p : SourceParameter) (restrictWord : String) : String :=
  if p.isRestricted then p.type ++ " " ++ restrictWord ++ " " ++ p.name
  else p.type ++ " " ++ p.name

/-- The C type of the elements behind an argument; read-only ones are constant. -/
def elementCName (type : ElementType) (intent : Intent) : String :=
  if intent.isReadOnly then "const " ++ type.cName else type.cName

/-- The parameters of one argument, one for each of its slots. -/
def ofArgument (arg : Argument) : List SourceParameter :=
  match arg.kind with
  | .matrix type strided =>
      let elements := pointer (elementCName type arg.intent ++ "*") arg.name
      if strided then [elements, value "int" ("ld" ++ arg.name)] else [elements]
  | .view type | .exchangeView type =>
      [pointer (elementCName type arg.intent ++ "* const*") (arg.name ++ "_vix"),
        pointer "const int*" (arg.name ++ "_vstri")]
  | .scalar type => [value type.cName arg.name]
  | .pointer => [opaquePointer arg.name]

/-- The parameters of a kernel: the dimensions, then every argument in order. -/
def ofKernel (ndim : UInt64) (args : List Argument) : List SourceParameter :=
  (dimNames ndim).map (value "int") ++ args.flatMap ofArgument

end SourceParameter

end KernelForge
