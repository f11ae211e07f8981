import KernelForge.Kernel.Combination
import KernelForge.Kernel.Packing

/-!
# Histories of calls on a provider

Callers register modules, ask for functions and kernels, and run the kernels that they got. Between
their calls the store and the state of the backend may change in any way: members of banks are made
active, memory is written, other providers work on the same backend.
-/

namespace KernelForge

/-- A kernel that a caller got. -/
inductive Obtained (Fn : Type) where
  | bound (kernel : BoundKernel Fn)
  | combination (kernel : CombinationKernel Fn)

/-- Runs a kernel. -/
def Obtained.run {Fn σ : Type} (backend : Backend Fn σ) :
    Obtained Fn → List Scalar → BackendM σ Unit
  | bound kernel => kernel.run backend
  | combination kernel => kernel.run backend

/-- A session, and the kernels that callers got from it, in order. -/
structure History (Fn σ : Type) where
  session : Session Fn σ
  kernels : List (Obtained Fn)

/-- What can happen next. -/
inductive Call (σ : Type) where
  | register (module : String)
  | function (name module : String) (params : Params)
  | kernel (name : String) (params : Params) (dims : List UInt64) (operands : Operands)
  | combination (result : Operand) (terms : List Operand)
  | copy (target source : Operand)
  /-- Registers the two packing kernels. -/
  | packing
  /-- Asks for one of the two packing kernels over a view. -/
  | packingKernel (name : String) (view : ExchangeView)
  /-- Runs the kernel that was got as the i-th. -/
  | run (i : Nat) (args : List Scalar)
  /-- The store and the state of the backend change. -/
  | change (f : World σ → World σ)

namespace History

variable {Fn σ : Type}

/-- A new provider, of which nobody got a kernel. -/
def start (world : World σ) : History Fn σ := ⟨⟨world, .empty⟩, []⟩

/-- Does work of the session. -/
def perform {α : Type} (h : History Fn σ) (work : SessionM Fn σ α) : History Fn σ :=
  { h with session := (work h.session).2 }

/-- Does work of the session that gives a kernel, if it succeeds. -/
def obtain {α : Type} (h : History Fn σ) (wrap : α → Obtained Fn) (work : SessionM Fn σ α) :
    History Fn σ :=
  match work h.session with
  | (.ok kernel, session) => ⟨session, h.kernels ++ [wrap kernel]⟩
  | (.error _, session) => ⟨session, h.kernels⟩

variable (backend : Backend Fn σ)

/-- What becomes of a history by the next call. -/
def call (h : History Fn σ) : Call σ → History Fn σ
  | .register module => h.perform (Session.register module)
  | .function name module params => h.perform (backend.function name module params)
  | .kernel name params dims operands =>
      h.obtain .bound (backend.kernel name params dims operands)
  | .combination result terms => h.obtain .combination (backend.combination result terms)
  | .copy target source => h.obtain .bound (backend.copy target source)
  | .packing => h.perform Packing.create
  | .packingKernel name view => h.obtain .bound (Packing.kernel backend name view)
  | .run i args =>
      match h.kernels[i]? with
      | some kernel => h.perform (Session.ofBackend (kernel.run backend args))
      | none => h
  | .change f => { h with session := { h.session with world := f h.session.world } }

/-- A new provider after a number of calls. -/
def after (world : World σ) (calls : List (Call σ)) : History Fn σ :=
  calls.foldl (call backend) (start world)

end History

end KernelForge
