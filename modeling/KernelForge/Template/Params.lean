import KernelForge.Element.Basic
import KernelForge.NameMap
import KernelForge.Template.Error
import KernelForge.Text.Quoted

/-!
# Template parameters

The parameters of a rendering are a map from names to integers, truth values, texts and element
types. They are part of what a rendered kernel is remembered under, so equal bindings make equal
maps. The typed getters fail with the name of a parameter that is missing or of another type.
-/

namespace KernelForge

/-- The value of a parameter. -/
inductive ParamValue where
  | int (value : Int64)
  | bool (value : Bool)
  | text (value : String)
  | elementType (value : ElementType)
  deriving DecidableEq

namespace ParamValue

/-- The form that messages and substitutions use: a text is quoted. -/
def display : ParamValue → String
  | int value => toString value.toInt
  | bool value => Text.boolText value
  | text value => Text.quoted value
  | elementType value => value.name

/-- Values are ordered by their type first, in the order of the constructors. -/
def compare : ParamValue → ParamValue → Ordering
  | int a, int b => Ord.compare a.toInt b.toInt
  | int _, _ => .lt
  | _, int _ => .gt
  | bool a, bool b => Ord.compare a.toNat b.toNat
  | bool _, _ => .lt
  | _, bool _ => .gt
  | text a, text b => Ord.compare a b
  | text _, _ => .lt
  | _, text _ => .gt
  | elementType a, elementType b => Ord.compare a b

/-- A count as a parameter; one beyond the signed range wraps. -/
def ofCount (n : UInt64) : ParamValue := int n.toInt64

end ParamValue

/-- The parameters of one rendering. -/
abbrev Params := NameMap ParamValue

namespace Params

/-- The parameter that holds the floating-point element type of the rendered source. -/
def floatTypeName : String := "fpdtype"

/-- Compares the bindings pairwise, names before values; a proper beginning comes first. -/
def compareEntries : List (String × ParamValue) → List (String × ParamValue) → Ordering
  | [], [] => .eq
  | [], _ :: _ => .lt
  | _ :: _, [] => .gt
  | (name, value) :: rest, (name', value') :: rest' =>
      (compare name name').then ((value.compare value').then (compareEntries rest rest'))

/-- The order of parameter sets. -/
def compare (a b : Params) : Ordering := compareEntries a.entries b.entries

variable (params : Params)

/-- The parameters with one more binding, or with another value for a name. -/
def extend (name : String) (value : ParamValue) : Params := (params.replace name value).2

/-- The value of a parameter that has to be there. -/
def require (name : String) : Except TemplateError ParamValue :=
  match params.get? name with
  | some value => .ok value
  | none => .error (.missingParam name)

/-- The refusal of a value of another type. -/
def expected (name what : String) (value : ParamValue) : TemplateError :=
  .invalidParam name ("expected " ++ what ++ ", got " ++ value.display)

/-- An integer parameter. -/
def int (name : String) : Except TemplateError Int64 := do
  match ← params.require name with
  | .int value => .ok value
  | other => .error (expected name "an integer" other)

/-- An integer parameter that is not negative. -/
def count (name : String) : Except TemplateError Nat := do
  let value ← params.int name
  if 0 ≤ value.toInt then .ok value.toInt.toNat
  else .error (expected name "a non-negative count" (.int value))

/-- A truth value. -/
def bool (name : String) : Except TemplateError Bool := do
  match ← params.require name with
  | .bool value => .ok value
  | other => .error (expected name "a boolean" other)

/-- A text. -/
def text (name : String) : Except TemplateError String := do
  match ← params.require name with
  | .text value => .ok value
  | other => .error (expected name "a string" other)

/-- An element type. -/
def elementType (name : String) : Except TemplateError ElementType := do
  match ← params.require name with
  | .elementType value => .ok value
  | other => .error (expected name "a dtype" other)

/-- The floating-point element type of the rendered source. -/
def floatType : Except TemplateError ElementType := do
  let type ← params.elementType floatTypeName
  if type.isFloat then .ok type
  else .error (.invalidParam floatTypeName (type.name ++ " is not a floating-point type"))

end Params

end KernelForge
