import KernelForge.Compiler.State

/-!
# Compatible types

Two declarations may speak of one object when their types are compatible; what they say together is
the composite type. An enumeration is compatible with the integer type that it is kept in.
-/

namespace KernelForge.Compiler

open Code

namespace Extent

/-- Whether two lengths can be one. -/
def agrees : Extent → Extent → Bool
  | known m, known n => m = n
  | _, _ => true

/-- What two lengths say together. -/
def merge : Extent → Extent → Extent
  | known n, _ => known n
  | _, known n => known n
  | counted v, _ => counted v
  | _, e => e

end Extent

namespace SourceType

/-- Whether parameters stay as they are without a prototype. -/
def allPromoted : SourceType → Bool
  | param type rest => type.promoted = type.plain && rest.allPromoted
  | _ => true

/-- Whether two types can be of one object. Parameters are compared without qualifiers. -/
def compatible : SourceType → SourceType → Bool
  | void, void => true
  | int a, int b => a = b
  | int a, enum _ b => a = b
  | enum _ a, int b => a = b
  | enum m _, enum n _ => m = n
  | float a, float b => a = b
  | complex a, complex b => a.compatible b
  | pointer a, pointer b => a.compatible b
  | array a x, array b y => x.agrees y && a.compatible b
  | vector a m, vector b n => m = n && a.compatible b
  | record m, record n => m = n
  | qualified p a, qualified q b => p = q && a.compatible b
  | noParams, noParams => true
  | param a r, param b s => a.compatible b && r.compatible s
  | function r p s, function r' p' s' =>
      r.compatible r' &&
        match s, s' with
        | .unsaid, .unsaid => true
        | .unsaid, .exact => p'.allPromoted
        | .exact, .unsaid => p.allPromoted
        | .unsaid, .variadic | .variadic, .unsaid => false
        | s, s' => s = s' && p.compatible p'
  | _, _ => false

/-- What two compatible types say together. -/
def composite : SourceType → SourceType → SourceType
  | pointer a, pointer b => pointer (a.composite b)
  | array a x, array b y => array (a.composite b) (x.merge y)
  | qualified p a, qualified _ b => qualified p (a.composite b)
  | enum m k, _ => enum m k
  | param a r, param b s => param (a.composite b) (r.composite s)
  | function r p s, function r' p' s' =>
      match s, s' with
      | .unsaid, s' => function (r.composite r') p' s'
      | s, .unsaid => function (r.composite r') p s
      | s, _ => function (r.composite r') (p.composite p') s
  | a, _ => a

/-- Whether two types agree when qualifiers around them are left out. -/
def alike (a b : SourceType) : Bool := a.unqualified.compatible b.unqualified

/-- The type without the sign of integers, for comparing targets of pointers. -/
def unsignedForm (type : SourceType) : SourceType :=
  match type.plain with
  | int kind | enum _ kind => if kind = .bool then int kind else int kind.toUnsigned
  | other => other

end SourceType

end KernelForge.Compiler
