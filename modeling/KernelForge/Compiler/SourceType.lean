import KernelForge.Compiler.Word

/-!
# The types of source

The types that declarations can give. Parameters of functions are a list within the type, so that types
can be compared. Structures and unions are told apart by their numbers; their members are kept in a
table. Qualifiers stand around a type; those of an array stand around its elements.
-/

namespace KernelForge.Compiler

open Code

/-- What a declaration says besides the type of an object. -/
structure Qualifiers where
  isConst : Bool
  isVolatile : Bool
  isRestrict : Bool
  isAtomic : Bool
  deriving DecidableEq, Repr, Inhabited

namespace Qualifiers

def none : Qualifiers := ⟨false, false, false, false⟩

def const : Qualifiers := { none with isConst := true }

/-- All qualifiers of two lists. -/
def union (a b : Qualifiers) : Qualifiers :=
  ⟨a.isConst || b.isConst, a.isVolatile || b.isVolatile, a.isRestrict || b.isRestrict,
    a.isAtomic || b.isAtomic⟩

/-- Whether all qualifiers of the first list are in the second. -/
def within (a b : Qualifiers) : Bool := a.union b = b

end Qualifiers

/-- How long an array is. -/
inductive Extent where
  | known (length : Nat)
  /-- Not said yet. -/
  | missing
  /-- Kept in a variable of the function. -/
  | counted (slot : Nat)
  /-- Said to be variable in a declaration without a body. -/
  | star
  deriving DecidableEq, Repr, Inhabited

/-- What is known of the parameters of a function. -/
inductive ParamStyle where
  | exact
  /-- Further arguments may follow. -/
  | variadic
  /-- Nothing is said. -/
  | unsaid
  deriving DecidableEq, Repr, Inhabited

/-- The types of source. -/
inductive SourceType where
  | void
  | int (kind : IntKind)
  | float (kind : FloatKind)
  /-- A pair of numbers. -/
  | complex (part : SourceType)
  | enum (number : Nat) (kind : IntKind)
  | pointer (target : SourceType)
  | array (element : SourceType) (extent : Extent)
  | vector (element : SourceType) (length : Nat)
  | function (result : SourceType) (params : SourceType) (style : ParamStyle)
  | record (number : Nat)
  | qualified (qualifiers : Qualifiers) (type : SourceType)
  | noParams
  | param (type : SourceType) (rest : SourceType)
  deriving DecidableEq, Repr, Inhabited

namespace SourceType

/-- The type without the qualifiers around it. -/
def plain : SourceType → SourceType
  | qualified _ type => type.plain
  | type => type

/-- The qualifiers around a type. -/
def qualifiers : SourceType → Qualifiers
  | qualified q type => q.union type.qualifiers
  | array element _ => element.qualifiers
  | _ => .none

/-- Puts qualifiers around a type; those of an array go to its elements. -/
def qualify (q : Qualifiers) : SourceType → SourceType
  | array element extent => array (element.qualify q) extent
  | qualified p type => qualified (p.union q) type
  | type => if q = .none then type else qualified q type

/-- The type without qualifiers, also of elements. -/
def unqualified : SourceType → SourceType
  | qualified _ type => type.unqualified
  | array element extent => array element.unqualified extent
  | type => type

/-- A list of parameters as a type. -/
def ofParams : List SourceType → SourceType
  | [] => noParams
  | type :: rest => param type (ofParams rest)

/-- The parameters of a function. -/
def paramList : SourceType → List SourceType
  | function _ params _ => params.paramList
  | param type rest => type :: rest.paramList
  | _ => []

/-- The type of sizes. -/
def sizeType : SourceType := .int .unsignedLong

/-- The scalar that a value of the type is. -/
def scalar? : SourceType → Option WordType
  | int kind | enum _ kind => some (.int kind)
  | float kind => some (.float kind)
  | pointer _ => some .address
  | qualified _ type => type.scalar?
  | _ => none

/-- The kind of an integer type. -/
def intKind? : SourceType → Option IntKind
  | int kind | enum _ kind => some kind
  | qualified _ type => type.intKind?
  | _ => none

/-- The kind of a floating-point type. -/
def floatKind? : SourceType → Option FloatKind
  | float kind => some kind
  | qualified _ type => type.floatKind?
  | _ => none

def isVoid (type : SourceType) : Bool := type.plain = void
def isInteger (type : SourceType) : Bool := type.intKind?.isSome
def isFloat (type : SourceType) : Bool := type.floatKind?.isSome

/-- Real numbers. -/
def isReal (type : SourceType) : Bool := type.isInteger || type.isFloat

def isComplex (type : SourceType) : Bool :=
  match type.plain with
  | complex _ => true
  | _ => false

/-- Real and complex numbers. -/
def isArithmetic (type : SourceType) : Bool := type.isReal || type.isComplex

def isPointer (type : SourceType) : Bool :=
  match type.plain with
  | pointer _ => true
  | _ => false

def isArray (type : SourceType) : Bool :=
  match type.plain with
  | array _ _ => true
  | _ => false

def isVector (type : SourceType) : Bool :=
  match type.plain with
  | vector _ _ => true
  | _ => false

def isFunction (type : SourceType) : Bool :=
  match type.plain with
  | function _ _ _ => true
  | _ => false

def isRecord (type : SourceType) : Bool :=
  match type.plain with
  | record _ => true
  | _ => false

def isBool (type : SourceType) : Bool := type.intKind? = some .bool

/-- What a pointer points to. -/
def target? (type : SourceType) : Option SourceType :=
  match type.plain with
  | pointer target => some target
  | _ => none

/-- The elements of an array. -/
def element? (type : SourceType) : Option SourceType :=
  match type.plain with
  | array element _ => some element
  | _ => none

/-- The parts of a complex type. -/
def part? (type : SourceType) : Option SourceType :=
  match type.plain with
  | complex part => some part
  | _ => none

/-- The result of a function. -/
def result? (type : SourceType) : Option SourceType :=
  match type.plain with
  | function result _ _ => some result
  | _ => none

/-- Whether the length of an array, or of one inside it, is computed. -/
def isCounted : SourceType → Bool
  | array element extent =>
      (match extent with
      | .counted _ | .star => true
      | _ => false) || element.isCounted
  | qualified _ type => type.isCounted
  | _ => false

/-- Whether computed lengths occur anywhere in a type. -/
def isVariablyModified : SourceType → Bool
  | array element extent =>
      (match extent with
      | .counted _ | .star => true
      | _ => false) || element.isVariablyModified
  | pointer target => target.isVariablyModified
  | function result _ _ => result.isVariablyModified
  | qualified _ type => type.isVariablyModified
  | _ => false

/-- Whether a character of text has this type. -/
def isCharacter (type : SourceType) : Bool :=
  match type.intKind? with
  | some .char | some .naturalChar | some .signedChar | some .unsignedChar => true
  | _ => false

/-- What a parameter without a prototype is widened to. -/
def promoted (type : SourceType) : SourceType :=
  match type.plain with
  | int kind | enum _ kind => int kind.promote
  | float .single => float .double
  | float .half => float .half
  | other => other

end SourceType

/-- A member of a structure or union. -/
structure Member where
  /-- A member without a name has only its own members. -/
  name : String
  type : SourceType
  offset : Nat
  /-- The first digit and the number of digits of a part of a word. -/
  digits : Option (Nat × Nat)
  deriving DecidableEq, Repr, Inhabited

/-- A structure or union. -/
structure Record where
  tag : String
  isUnion : Bool
  members : Array Member
  size : Nat
  alignment : Nat
  isComplete : Bool
  /-- Whether an argument may be given as any of its members. -/
  isTransparent : Bool
  deriving Inhabited

/-- The structures and unions of a source text. -/
abbrev Records := Array Record

namespace Records

variable (records : Records)

/-- A structure or union by its number. -/
def find (number : Nat) : Record := records.getD number default

/-- Size in memory of a type whose size does not have to be computed. -/
def size? : SourceType → Option Nat
  | .void | .function _ _ _ => some 1
  | .int kind | .enum _ kind => some kind.bytes
  | .float kind => some kind.bytes
  | .complex part => (size? part).map (2 * ·)
  | .pointer _ => some 8
  | .array element (.known n) => (size? element).map (n * ·)
  | .array _ _ => none
  | .vector element n => (size? element).map (n * ·)
  | .record number =>
      let found := records.find number
      if found.isComplete then some found.size else none
  | .qualified _ type => size? type
  | .noParams | .param _ _ => none

/-- What addresses of objects are multiples of. -/
def alignment : SourceType → Nat
  | .int kind | .enum _ kind => kind.bytes
  | .float kind => kind.bytes
  | .complex part => alignment part
  | .pointer _ => 8
  | .array element _ => alignment element
  | .vector element n => alignment element * n
  | .record number => max 1 (records.find number).alignment
  | .qualified _ type => alignment type
  | _ => 1

/-- Whether objects of a type can be declared. -/
def isComplete : SourceType → Bool
  | .void | .function _ _ _ | .noParams | .param _ _ => false
  | .array element extent => isComplete element && extent ≠ .missing
  | .record number => (records.find number).isComplete
  | .qualified _ type => isComplete type
  | _ => true

/-- A member by its name, also of a member without one; `depth` bounds how deep members lie. -/
def member? (depth : Nat) (number : Nat) (name : String) : Option Member :=
  match depth with
  | 0 => none
  | depth + 1 =>
      (records.find number).members.findSome? fun m =>
        if m.name = name then some m
        else if m.name.isEmpty then
          match m.type.plain with
          | .record inner =>
              (member? depth inner name).map fun found =>
                { found with offset := m.offset + found.offset
                             type := found.type.qualify m.type.qualifiers }
          | _ => none
        else none

end Records

/-- A number rounded up to a multiple of another. -/
def roundUp (n unit : Nat) : Nat := if unit = 0 then n else (n + unit - 1) / unit * unit

end KernelForge.Compiler
