import KernelForge.Bench.Kernel
import KernelForge.Kernel.Packing

/-!
# The desk of a bench

A session with names for what was made in it. A name that stands for nothing, or for something of
another sort than is asked for, is an error of its own. Making an object that fails leaves its name
without an object.

Allocations can be given names too. An address inside a named allocation is written as the name and the
distance from its beginning, so that texts do not depend on where buffers lie.
-/

namespace KernelForge

/-- Whether an address lies inside an allocation. -/
def Allocation.holds (a : Allocation) (address : UInt64) : Bool :=
  a.address.toNat ≤ address.toNat && address.toNat < a.address.toNat + a.size

/-- Names of allocations, the oldest first. -/
abbrev Labels := List (String × Allocation)

namespace Labels

variable (labels : Labels)

/-- The text of an address: by the oldest name that covers it, or as a number. -/
def describe (address : UInt64) : String :=
  match labels.find? fun e => e.2.holds address with
  | some (name, a) => name ++ "+" ++ toString (address.toNat - a.address.toNat)
  | none => "#" ++ toString address.toNat

/-- The address that a name and a distance stand for. -/
def address? (text : String) : Option UInt64 := do
  let parts := text.splitOn "+"
  let (_, a) ← labels.find? fun e => e.1 = "+".intercalate parts.dropLast
  let distance ← (← parts.getLast?).toNat?
  return a.address + UInt64.ofNat distance

end Labels

end KernelForge

namespace KernelForge.Bench

/-- What a name can stand for. -/
inductive Item where
  | operand (o : Operand)
  | contract (c : Contract)
  | args (list : List BoundArgument)
  /-- A function; its contract is known when it was rendered. -/
  | function (f : Function) (contract? : Option Contract)
  | kernel (k : Tree)
  | module (file : Host.ModuleFile)

namespace Item

def operand? : Item → Option Operand
  | operand o => some o
  | _ => none

def matrix? : Item → Option Matrix
  | operand (.matrix m) => some m
  | _ => none

def bank? : Item → Option Bank
  | operand (.bank b) => some b
  | _ => none

def exchangeView? : Item → Option ExchangeView
  | operand (.exchangeView v) => some v
  | _ => none

def contract? : Item → Option Contract
  | contract c => some c
  | function _ c => c
  | _ => none

def args? : Item → Option (List BoundArgument)
  | args list => some list
  | _ => none

def function? : Item → Option Function
  | function f _ => some f
  | _ => none

/-- A function that was compiled. -/
def hostFunction? : Item → Option Host.HostFunction
  | function (.compiled f) _ => some f
  | _ => none

def kernel? : Item → Option Tree
  | kernel k => some k
  | _ => none

def module? : Item → Option Host.ModuleFile
  | module file => some file
  | _ => none

end Item

/-- An allocator that gives little, whatever is asked for, so that huge objects can be described. -/
def tinyAllocator : Allocator := ⟨"TINY", fun size => Allocator.host.grant (min size 64)⟩

/-- A session and its names. -/
structure Desk where
  session : Session Function State
  items : NameMap Item
  labels : Labels
  packing : Option Packing
  algebra : Option Host.Algebra

/-- Why a step on a desk has no result. -/
inductive DeskError where
  /-- A name stands for nothing of the sort that is asked for. -/
  | noItem (name : String)
  | storage (error : StorageError)
  | kernel (error : KernelError)

/-- Work on a desk. -/
abbrev DeskM := ExceptT DeskError (StateM Desk)

namespace Desk

/-- An empty desk; so many builds of its recording backend will be refused. -/
def start (setup : Setup) (refusals : Nat) : Desk :=
  ⟨⟨⟨.empty, ⟨.start setup.config, .empty refusals, [], 0⟩⟩, .empty⟩, .empty, [], none, none⟩

/-- Work of the session. -/
def ofSession {α : Type} (work : SessionM Function State α) : DeskM α :=
  fun ⟨session, items, labels, packing, algebra⟩ =>
    let (result, session) := work session
    (result.mapError .kernel, ⟨session, items, labels, packing, algebra⟩)

/-- Work of the backend. -/
def ofWork {α : Type} (work : Work α) : DeskM α := ofSession (Session.ofBackend work)

/-- Work on the host. -/
def ofHost {α : Type} (work : Host.HostM α) : DeskM α := ofWork (onHost work)

/-- A request on the store. -/
def ofStore {α : Type} (request : StoreM α) : DeskM α :=
  fun ⟨⟨⟨store, own⟩, provider⟩, items, labels, packing, algebra⟩ =>
    match request store with
    | .ok (a, store) => (.ok a, ⟨⟨⟨store, own⟩, provider⟩, items, labels, packing, algebra⟩)
    | .error error =>
        (.error (.storage error), ⟨⟨⟨store, own⟩, provider⟩, items, labels, packing, algebra⟩)

/-- A request on memory. -/
def ofMemory {α : Type} (request : MemoryM α) : DeskM α := ofStore (Store.withMemory request)

/-- The store as it is. -/
def store : DeskM Store := return (← get).session.world.store

/-- What a name stands for, when it is of the sort that is asked for. -/
def find {α : Type} (sort : Item → Option α) (name : String) : DeskM α := do
  match ((← get).items.get? name).bind sort with
  | some a => return a
  | none => throw (.noItem name)

/-- Gives a name to an object. -/
def keep (name : String) (item : Item) : DeskM Unit :=
  modify fun desk => { desk with items := desk.items.insert name item }

/-- Takes a name away. -/
def drop (name : String) : DeskM Unit :=
  modify fun desk => { desk with items := desk.items.erase name }

/-- Gives a label to an allocation. -/
def label (name : String) (a : Allocation) : DeskM Unit :=
  modify fun desk => { desk with labels := desk.labels ++ [(name, a)] }

/-- The allocation of a label, or of the matrix of that name. -/
def allocation (name : String) : DeskM Allocation := do
  match (← get).labels.lookup name with
  | some a => return a
  | none => return (← find Item.matrix? name).storage

/-- The text of an address. -/
def address (a : UInt64) : DeskM String := return (← get).labels.describe a

/-- Makes a matrix under a name. -/
def makeMatrix (name : String) (request : MemoryM Matrix) : DeskM Layout := do
  let m ← ofMemory request
  label name m.storage
  keep name (.operand (.matrix m))
  return m.layout

/-- Labels the two buffers of a view. -/
def labelView (name : String) (v : View) : DeskM Unit := do
  label (name ++ ".mapping") v.mapping
  label (name ++ ".strides") v.strides

/-- Makes a view under a name. -/
def makeView (name : String) (request : MemoryM View) : DeskM Unit := do
  let v ← ofMemory request
  labelView name v
  keep name (.operand (.view v))

/-- Makes an exchange view under a name. -/
def makeExchangeView (name : String) (request : MemoryM ExchangeView) : DeskM Unit := do
  let v ← ofMemory request
  labelView name v.view
  label (name ++ ".mpimat") v.exchange.storage
  keep name (.operand (.exchangeView v))

/-- Makes a kernel under a name. -/
def makeKernel (name : String) (work : SessionM Function State Tree) : DeskM KernelKind := do
  let tree ← ofSession work
  keep name (.kernel tree)
  return tree.kind

/-- The kernels of a list of names, which lose their names. -/
def takeKernels : List String → DeskM (List Tree)
  | [] => return []
  | name :: rest => do
      let tree ← find Item.kernel? name
      drop name
      return tree :: (← takeKernels rest)

/-- Makes a group of kernels under a name. -/
def makeGroup (name : String) (kind : KernelKind) (members : List String) : DeskM KernelKind := do
  keep name (.kernel (.group kind (← takeKernels members)))
  return kind

/-- Runs the kernel of a name. -/
def run (backend : Backend Function State) (name : String) (args : List Scalar) :
    DeskM Report := do
  let tree ← find Item.kernel? name
  let (report, tree) ← ofWork (report (tree.run (Kernel.step backend) args))
  keep name (.kernel tree)
  return report

/-- Launches a function. -/
def launch (backend : Backend Function State) (f : Function) (dims : List UInt64)
    (args : List SlotValue) : DeskM Report := do
  let (report, _) ← ofWork (report do return (← (backend.launch f dims args).run, ()))
  return report

/-- Compiles the reference routines and gives the name of the module's file. -/
def referenceLibrary : DeskM FileName := do
  return .ofText (← ofHost (Host.compilePlainly Host.Reference.source)).path

/-- Opens a library. -/
def openLibrary (config : HostConfig) : DeskM Host.ProductStrategy := do
  let algebra ← ofHost (Host.Algebra.create config)
  modify fun desk => { desk with algebra := some algebra }
  return algebra.strategy

/-- The library in use. -/
def library : DeskM Host.Algebra := do
  match (← get).algebra with
  | some algebra => return algebra
  | none => throw (.noItem "cblas")

/-- Registers the packing kernels. -/
def registerPacking : DeskM Unit := do
  let names ← ofSession Packing.create
  modify fun desk => { desk with packing := some names }

/-- The names of the packing kernels. -/
def packingNames : DeskM Packing := do
  match (← get).packing with
  | some names => return names
  | none => throw (.noItem "packing")

end Desk

end KernelForge.Bench
