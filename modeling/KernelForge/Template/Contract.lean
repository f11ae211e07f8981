import KernelForge.Element.Basic

/-!
# Kernel arguments and their contract

A kernel declares named arguments. Each takes one or two slots of the compiled function's argument
list, after one integer slot for every dimension. The contract of a kernel lists the names with their
slots; it is what operands are later bound against.
-/

namespace KernelForge

/-- The direction in which data flows through an argument. -/
inductive Intent where
  | input
  | output
  | inOut
  deriving DecidableEq, Repr

namespace Intent

/-- The lower-case word for an intent. -/
def name : Intent → String
  | input => "in"
  | output => "out"
  | inOut => "inout"

/-- Whether the kernel only reads. -/
def isReadOnly : Intent → Bool
  | input => true
  | output | inOut => false

end Intent

/-- What an argument is declared as. -/
inductive ArgumentKind where
  /-- A matrix; with `strided`, its leading sub-dimension is passed too. -/
  | matrix (type : ElementType) (strided : Bool)
  /-- Blocks of elements reached through addresses and row strides. -/
  | view (type : ElementType)
  /-- A view whose blocks are exchanged; the kernel sees it as a view. -/
  | exchangeView (type : ElementType)
  | scalar (type : ElementType)
  /-- An address passed through untouched. -/
  | pointer
  deriving DecidableEq, Repr

/-- A declared argument of a kernel. -/
structure Argument where
  name : String
  intent : Intent
  kind : ArgumentKind
  deriving DecidableEq, Repr

namespace Argument

/-- The slots that an argument takes. -/
def slots (arg : Argument) : List SlotType :=
  match arg.kind with
  | .matrix _ false | .pointer => [.pointer]
  | .matrix _ true => [.pointer, .scalar .int32]
  | .view _ | .exchangeView _ => [.pointer, .pointer]
  | .scalar type => [.scalar type]

end Argument

/-- The names of the dimension arguments, outermost first; there are at most two. -/
def dimNames (ndim : UInt64) : List String :=
  if ndim = 0 then [] else if ndim = 1 then ["_nx"] else ["_ny", "_nx"]

/-- The argument contract of a kernel: the dimension arguments first, then the declared ones. -/
structure Contract where
  ndim : UInt64
  names : List String
  types : List (List SlotType)
  deriving DecidableEq, Repr

namespace Contract

/-- The contract of a kernel over `ndim` dimensions with the given arguments. -/
def ofArguments (ndim : UInt64) (args : List Argument) : Contract where
  ndim := ndim
  names := dimNames ndim ++ args.map Argument.name
  types := (dimNames ndim).map (fun _ => [.scalar .int32]) ++ args.map Argument.slots

variable (contract : Contract)

/-- The argument list that the compiled function takes. -/
def slotTypes : List SlotType := contract.types.flatten

/-- The declared arguments with their slots. -/
def declared : List (String × List SlotType) :=
  (contract.names.zip contract.types).drop contract.ndim.toNat

end Contract

end KernelForge
