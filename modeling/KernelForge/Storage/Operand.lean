import KernelForge.NameMap
import KernelForge.Storage.Store
import KernelForge.Storage.View

/-!
# Operands

What a kernel argument can be bound to.
-/

namespace KernelForge

/-- What a kernel argument can be bound to. -/
inductive Operand where
  | matrix (m : Matrix)
  | bank (b : Bank)
  | view (v : View)
  | exchangeView (v : ExchangeView)
  | scalar (s : Scalar)
  /-- An address that is passed on untouched. -/
  | pointer (address : UInt64)
  deriving DecidableEq

/-- Operands by the name of the argument that they are bound to. -/
abbrev Operands := NameMap Operand

namespace Operand

/-- The name of the kind of an operand. -/
def kind : Operand → String
  | matrix _ => "Matrix"
  | bank _ => "MatrixBank"
  | view _ => "View"
  | exchangeView _ => "MpiView"
  | scalar _ => "Scalar"
  | pointer _ => "Pointer"

/-- The layout of a matrix or of the members of a bank. -/
def layout? : Operand → Option Layout
  | matrix m => some m.layout
  | bank b => some b.layout
  | view _ | exchangeView _ | scalar _ | pointer _ => none

end Operand

end KernelForge
