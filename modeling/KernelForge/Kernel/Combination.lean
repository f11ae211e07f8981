import KernelForge.Kernel.Provider

/-!
# Linear combinations and copies

Element-wise kernels over matrices and banks of one layout and a floating-point type, padding
included. A linear combination takes its coefficients at every run; a copy takes none.
-/

namespace KernelForge

namespace Operand

/-- The layout of an operand that has to be a matrix or bank. -/
def requireLayout (operand : Operand) : Except KernelError Layout :=
  match operand.layout? with
  | some layout => .ok layout
  | none => .error (.incompatibleTraits (.notMatrix operand.kind))

end Operand

namespace Layout

/-- Refuses another layout under the name of the operand that has it. -/
def requireSame (layout other : Layout) (name reference : String) : Except KernelError Unit :=
  if other = layout then .ok ()
  else .error (.incompatibleTraits (.differs name reference layout))

/-- Refuses element types that are not floating-point types. -/
def requireFloat (layout : Layout) : Except KernelError Unit :=
  if layout.elementType.isFloat then .ok ()
  else .error (.incompatibleTraits (.notFloating layout.elementType))

end Layout

/-- The sum of weighted operands; the result takes part with a weight of its own. -/
structure CombinationKernel (Fn : Type) where
  function : Fn
  contract : Contract
  count : UInt64
  elementType : ElementType
  result : Operand
  terms : List Operand

namespace CombinationKernel

variable {Fn σ : Type}

/-- The operands for weights: that of the result first, then one for each term. -/
def operands (kernel : CombinationKernel Fn) (weight : Scalar) (weights : List Scalar) :
    Operands :=
  let scalar (s : Scalar) : Operand := .scalar (s.cast kernel.elementType)
  let own : Operands := (NameMap.empty.insert "y" kernel.result).insert "beta" (scalar weight)
  ((kernel.terms.zip weights).zipIdx).foldl
    (fun map entry =>
      (map.insert (Builtin.numbered "x" entry.2) entry.1.1).insert
        (Builtin.numbered "a" entry.2) (scalar entry.1.2))
    own

/-- Launches the combination with the weights that are given. -/
def run (backend : Backend Fn σ) (kernel : CombinationKernel Fn) (args : List Scalar) :
    BackendM σ Unit := do
  match args with
  | weight :: weights =>
      if weights.length = kernel.terms.length then
        match BoundArgument.list [kernel.count] kernel.contract
            (kernel.operands weight weights) with
        | .error error => throw error
        | .ok bound =>
            let store := (← get).store
            backend.launch kernel.function [kernel.count] (bound.map (·.resolve store))
      else throw (.argumentMismatch (.coefficients (1 + kernel.terms.length) args.length))
  | [] => throw (.argumentMismatch (.coefficients (1 + kernel.terms.length) 0))

end CombinationKernel

namespace Backend

variable {Fn σ : Type} (backend : Backend Fn σ)

/-- The common layout of a result and terms. -/
def combinationLayout (result : Operand) (terms : List Operand) : Except KernelError Layout := do
  let layout ← result.requireLayout
  terms.zipIdx.forM fun (term, i) => do
    layout.requireSame (← term.requireLayout) (Builtin.numbered "x" i) "y"
  layout.requireFloat
  return layout

/-- A linear combination of terms into a result. -/
def combination (result : Operand) (terms : List Operand) :
    SessionM Fn σ (CombinationKernel Fn) := do
  let layout ← Session.ofExcept (combinationLayout result terms)
  let params : Params :=
    (NameMap.empty.insert Builtin.Combination.countParam
      (.ofCount (UInt64.ofNat terms.length))).insert Params.floatTypeName
        (.elementType layout.elementType)
  let (function, contract) ←
    backend.function Builtin.Combination.kernelName Builtin.Combination.module params
  return ⟨function, contract, layout.elements, layout.elementType, result, terms⟩

/-- The common layout of a target and a source. -/
def copyLayout (target source : Operand) : Except KernelError Layout := do
  let layout ← target.requireLayout
  layout.requireSame (← source.requireLayout) "src" "dst"
  layout.requireFloat
  return layout

/-- A copy of a source into a target. -/
def copy (target source : Operand) : SessionM Fn σ (BoundKernel Fn) := do
  let layout ← Session.ofExcept (copyLayout target source)
  let params : Params :=
    NameMap.empty.insert Params.floatTypeName (.elementType layout.elementType)
  let (function, contract) ←
    backend.function Builtin.Copy.kernelName Builtin.Copy.module params
  Session.ofExcept
    (bind function contract [layout.elements] (.ofList [("dst", target), ("src", source)]))

end Backend

end KernelForge
