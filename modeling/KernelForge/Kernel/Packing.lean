import KernelForge.Kernel.Provider

/-!
# Packing

Kernels that gather an exchange view into its matrix and scatter the matrix back. Their names are
registered one after the other.
-/

namespace KernelForge

/-- The registered names of the two kernels. -/
structure Packing where
  pack : String
  unpack : String
  deriving DecidableEq, Repr

namespace Packing

variable {Fn σ : Type}

/-- Registers both kernels. -/
def create : SessionM Fn σ Packing := do
  let pack ← Session.register Builtin.Packing.packModule
  let unpack ← Session.register Builtin.Packing.unpackModule
  return ⟨pack, unpack⟩

/-- The parameters for the blocks of a view. -/
def params (view : View) : Params :=
  .ofList [(Builtin.Packing.rowsParam, .ofCount view.rows),
    (Builtin.Packing.columnsParam, .ofCount view.columns),
    (Params.floatTypeName, .elementType view.elementType)]

/-- The kernel of a name over the blocks of an exchange view. -/
def kernel (backend : Backend Fn σ) (name : String) (v : ExchangeView) :
    SessionM Fn σ (BoundKernel Fn) :=
  backend.kernel name (params v.view) [UInt64.ofNat v.view.count]
    (.ofList [("v", .exchangeView v), ("m", .matrix v.exchange)])

end Packing

end KernelForge
