import KernelForge.Element.Scalar
import KernelForge.Kernel.Error

/-!
# Trees of kernels

Kernels are run singly or as ordered groups. A group passes the same arguments to its members from the
first to the last and stops at the first failure. What a single kernel is, and how running it changes
it, is left open.
-/

namespace KernelForge

/-- How a kernel is scheduled. -/
inductive KernelKind where
  | compute
  /-- Takes part in messaging between partitions. -/
  | messaging
  deriving DecidableEq, Repr, Inhabited

namespace KernelKind

/-- The lower-case word for a kind. -/
def name : KernelKind → String
  | compute => "compute"
  | messaging => "mpi"

/-- The capitalised word that record texts use. -/
def label : KernelKind → String
  | compute => "Compute"
  | messaging => "Mpi"

end KernelKind

/-- A kernel, or a group of kernels that run as one. -/
inductive KernelTree (α : Type) where
  | single (kernel : α)
  | group (kind : KernelKind) (members : List (KernelTree α))

namespace KernelTree

variable {α S : Type}

/-- How a kernel is scheduled; single kernels compute. -/
def kind : KernelTree α → KernelKind
  | single _ => .compute
  | group kind _ => kind

/-- How one kernel is run on arguments: it ends in success or failure, and may change. -/
abbrev Step (α S : Type) := α → List Scalar → StateM S (Except KernelError Unit × α)

mutual

/-- Runs a tree. -/
def run (step : Step α S) (args : List Scalar) :
    KernelTree α → StateM S (Except KernelError Unit × KernelTree α)
  | single kernel => do
      let (result, kernel) ← step kernel args
      return (result, single kernel)
  | group kind members => do
      let (result, members) ← runAll step args members
      return (result, group kind members)

/-- Runs trees in order up to the first failure. -/
def runAll (step : Step α S) (args : List Scalar) :
    List (KernelTree α) → StateM S (Except KernelError Unit × List (KernelTree α))
  | [] => return (.ok (), [])
  | tree :: rest => do
      let (result, tree) ← run step args tree
      match result with
      | .error error => return (.error error, tree :: rest)
      | .ok _ =>
          let (result, rest) ← runAll step args rest
          return (result, tree :: rest)

end

/-- The record text of a group. -/
def describeGroup (kind : KernelKind) (members : List (KernelTree α)) : String :=
  Text.recordText "MetaKernel" [("kind", kind.label), ("members", toString members.length)]

end KernelTree

end KernelForge
