import KernelForge.Bench.Backend
import KernelForge.Host.Algebra
import KernelForge.Kernel.Tree

/-!
# The kernels of a bench

Every form of kernel, and probes: kernels that only note that they were run, and fail at chosen runs.
-/

namespace KernelForge.Bench

/-- A kernel that notes its runs. -/
structure Probe where
  name : String
  /-- The runs that fail, counted from zero. -/
  failures : List Nat
  /-- The result from the first run on. -/
  result : Option Scalar
  runs : Nat
  deriving DecidableEq

namespace Probe

/-- Runs a probe: it notes the arguments unless this run is to fail. -/
def run (p : Probe) (args : List Scalar) : Work Unit :=
  if p.failures.contains p.runs then throw (.emptyLaunch ("member " ++ p.name))
  else modifyState fun own => { own with probed := own.probed ++ [(p.name, args)] }

end Probe

/-- A single kernel. -/
inductive Kernel where
  | bound (k : BoundKernel Function)
  | combination (k : CombinationKernel Function)
  | product (k : Host.VendorProduct)
  | norm (k : Host.NormKernel)
  | probe (p : Probe)

namespace Kernel

/-- A product in one of its two forms. -/
def ofProduct : Host.ProductKernel Function → Kernel
  | .partitioned k => .bound k
  | .vendor k => .product k

/-- The last result, of a kernel that gives results. -/
def result? : Kernel → Option Scalar
  | norm k => k.result
  | probe p => if p.runs = 0 then none else p.result
  | bound _ | combination _ | product _ => none

/-- Runs a kernel. -/
def step (backend : Backend Function State) : KernelTree.Step Kernel (World State)
  | bound k, args => return (← (k.run backend args).run, bound k)
  | combination k, args => return (← (k.run backend args).run, combination k)
  | product k, args => return (← (onHost (k.run args)).run, product k)
  | norm k, args => do
      match ← (onHost (k.run args)).run with
      | .ok updated => return (.ok (), norm updated)
      | .error error => return (.error error, norm k)
  | probe p, args => return (← (p.run args).run, probe { p with runs := p.runs + 1 })

end Kernel

/-- A kernel or a group of kernels. -/
abbrev Tree := KernelTree Kernel

/-- The last result of a tree; a group has none. -/
def Tree.result? : Tree → Option Scalar
  | .single k => k.result?
  | .group _ _ => none

/-- What happened while something was run. -/
structure Report where
  failure : Option KernelError
  launches : List (String × List UInt64 × List SlotValue)
  probed : List (String × List Scalar)

/-- Does work and takes what was launched and noted out of the state. -/
def report {α : Type} (work : StateM (World State) (Except KernelError Unit × α)) :
    Work (Report × α) := fun world =>
  let ((result, a), ⟨store, ⟨host, ⟨refusals, builds, launches⟩, probed, renders⟩⟩) := work world
  let failure := match result with
    | .ok _ => none
    | .error error => some error
  (.ok (⟨failure, launches, probed⟩, a), ⟨store, ⟨host, ⟨refusals, builds, []⟩, [], renders⟩⟩)

end KernelForge.Bench
