import KernelForge.Proofs.Elementwise.Covering
import KernelForge.Proofs.Exact.Products
import KernelForge.Proofs.Packing.Requests
import Mathlib.Logic.Relation

/-!
# Sessions on exact numbers

A session begins without matrices. It makes matrices and exchange views, writes matrices, and runs
kernels that a provider gave for matrices and banks of the session. What a session writes is read as
exact numbers, and its kernels run on them. What lies between two steps is a memory, whose bytes give
sizes and addresses, the numbers at its addresses, and all matrices and views that were made so far.
-/

namespace KernelForge

/-- Memory in which a matrix was written: the numbers in its allocation are read anew. -/
def ExactMemory.reread {R : Type} [Ring R] (m : ExactMemory R) (reading : Reading R) (x : Matrix)
    (memory : Memory) : ExactMemory R :=
  ⟨memory, fun address =>
    if x.address.toNat ≤ address ∧
        address + x.elementType.bytes ≤ x.address.toNat + x.storage.size then
      reading.value x.elementType (memory.valueAt x.elementType address)
    else m.numbers address⟩

namespace Padding

/-- What a session works with. -/
structure Tools (Fn σ R : Type) [Ring R] where
  backend : Backend Fn σ
  renderer : Renderer
  allocator : Allocator
  /-- The addresses of the routines of a library. -/
  routines : Host.Routines
  /-- What its product routines do to numbers. -/
  multiply : ExactRoutine R
  /-- The numbers that bit patterns stand for. -/
  reading : Reading R

/-- Matrices, views, and memory with exact numbers. -/
structure State (R : Type) where
  exact : ExactMemory R
  matrices : List Matrix
  views : List ExchangeView

namespace State

variable {R : Type}

/-- No buffer is in use, and nothing was made. -/
def start (numbers : Nat → R) : State R := ⟨⟨.empty, numbers⟩, [], []⟩

/-- A matrix of the session, or a bank of such matrices. -/
def Has (s : State R) : Operand → Prop
  | .matrix m => m ∈ s.matrices
  | .bank b => b.Made ∧ ∀ m ∈ b.members, m ∈ s.matrices
  | .view _ | .exchangeView _ | .scalar _ | .pointer _ => False

end State

variable {Fn σ R : Type} [Ring R] [DecidableEq R]

/-- The session after some calls on a new provider. -/
def Tools.after (w : Tools Fn σ R) (world : World σ) (calls : List (Call σ)) : Session Fn σ :=
  (History.after (w.backend.rendering w.renderer) world calls).session

/-- A function over one dimension that was launched: it was built from the text of its body, and runs
the body on exact numbers, with its iterations in some order. Loops in the body repeat less often than
a limit. -/
structure Tools.Runs (w : Tools Fn σ R) (limit : Nat) (type : ElementType) (names : Code.TypeNames)
    (name : String) (args : List Argument) (body : List Code.Stmt) (launch : Launch Fn)
    (before after : ExactMemory R) : Prop where
  built : Elementwise.Built w.backend w.renderer type name args (Code.bodyText names body)
    launch.function
  run : ∃ order : Nat → List Nat, (∀ n, (order n).Perm (List.range n)) ∧
    Host.runExact w.reading order limit name args body launch.values before = .ok after

/-- What one step of a session does. The kernels are those that a provider gives after any calls, and
are launched with any members of banks active. -/
inductive Step (w : Tools Fn σ R) : State R → State R → Prop
  /-- A new matrix. -/
  | create {s : State R} {type : ElementType} {rows columns : UInt64}
      {leading? subLeading? : Option UInt64} {density : Density} {m : Matrix} {memory : Memory}
      (hcreate : Matrix.create w.allocator type rows columns leading? subLeading? density
        s.exact.memory = .ok (m, memory)) :
      Step w s ⟨s.exact.reread w.reading m memory, m :: s.matrices, s.views⟩
  /-- A new exchange view of blocks whose rows are as far apart as those of their matrices. -/
  | view {s : State R} {matrices : List Matrix} {rowMap columnMap : List UInt64}
      {rows columns : UInt64} {v : ExchangeView} {memory : Memory}
      (hmatrices : ∀ m ∈ matrices, m ∈ s.matrices)
      (hcreate : ExchangeView.create w.allocator matrices rowMap columnMap none rows columns
        s.exact.memory = .ok (v, memory)) :
      Step w s ⟨s.exact.reread w.reading v.exchange memory, v.exchange :: s.matrices, v :: s.views⟩
  /-- A matrix is overwritten. -/
  | set {s : State R} {m : Matrix} {type : ElementType} {data : List type.Value} {memory : Memory}
      (hm : m ∈ s.matrices) (hset : m.set type data s.exact.memory = .ok ((), memory)) :
      Step w s ⟨s.exact.reread w.reading m memory, s.matrices, s.views⟩
  /-- All elements of a matrix are set to one value. -/
  | fill {s : State R} {m : Matrix} {type : ElementType} {value : type.Value} {memory : Memory}
      (hm : m ∈ s.matrices) (hfill : m.fill type value s.exact.memory = .ok ((), memory)) :
      Step w s ⟨s.exact.reread w.reading m memory, s.matrices, s.views⟩
  /-- A linear combination. -/
  | combination {s : State R} {world : World σ} {calls : List (Call σ)} {result : Operand}
      {terms : List Operand} {kernel : CombinationKernel Fn} {weights : List Scalar}
      {selections : Array Nat} {launch : Launch Fn} {limit : Nat} {exact : ExactMemory R}
      (hhas : ∀ operand ∈ result :: terms, s.Has operand) (hcount : terms.length < twoPow 64)
      (hkernel : ((w.backend.rendering w.renderer).combination result terms
        (w.after world calls)).1 = .ok kernel)
      (hlaunch : kernel.launch weights ⟨s.exact.memory, selections⟩ = .ok launch)
      (hruns : w.Runs limit kernel.elementType (moduleTypeNames kernel.elementType)
        Builtin.Combination.kernelName
        (Builtin.Combination.arguments kernel.elementType terms.length)
        (Builtin.Combination.body kernel.elementType terms.length) launch s.exact exact) :
      Step w s ⟨exact, s.matrices, s.views⟩
  /-- A copy. -/
  | copy {s : State R} {world : World σ} {calls : List (Call σ)} {target source : Operand}
      {layout : Layout} {kernel : BoundKernel Fn} {selections : Array Nat} {launch : Launch Fn}
      {limit : Nat} {exact : ExactMemory R}
      (htarget : s.Has target) (hsource : s.Has source) (hlayout : target.layout? = some layout)
      (hkernel : ((w.backend.rendering w.renderer).copy target source (w.after world calls)).1 =
        .ok kernel)
      (hlaunch : kernel.launch [] ⟨s.exact.memory, selections⟩ = .ok launch)
      (hruns : w.Runs limit layout.elementType [] Builtin.Copy.kernelName
        (Builtin.Copy.arguments layout.elementType) Builtin.Copy.body launch s.exact exact) :
      Step w s ⟨exact, s.matrices, s.views⟩
  /-- A product by one call of the library. -/
  | direct {s : State R} {world : World σ} {calls : List (Call σ)} {a b out : Matrix}
      {alpha beta : Binary64} {kernel : Host.VendorProduct} {exact : ExactMemory R}
      (hmatrices : ∀ m ∈ [a, b, out], m ∈ s.matrices)
      (hkernel : ((⟨.vendor, w.routines⟩ : Host.Algebra).product (w.backend.rendering w.renderer)
        a b out alpha beta (w.after world calls)).1 = .ok (.vendor kernel))
      (hrun : Product.runDirect w.reading w.multiply kernel s.exact = some exact) :
      Step w s ⟨exact, s.matrices, s.views⟩
  /-- A product whose columns are shared out among a team of threads, which run in some order. -/
  | shared {s : State R} {world : World σ} {calls : List (Call σ)} {a b out : Matrix}
      {alpha beta : Binary64} {kernel : BoundKernel Fn} {selections : Array Nat}
      {launch : Launch Fn} {order : Nat → List Nat} {team : Nat} {exact : ExactMemory R}
      (hmatrices : ∀ m ∈ [a, b, out], m ∈ s.matrices)
      (hkernel : ((⟨.partitioned, w.routines⟩ : Host.Algebra).product
        (w.backend.rendering w.renderer) a b out alpha beta (w.after world calls)).1 =
          .ok (.partitioned kernel))
      (hlaunch : kernel.launch [] ⟨s.exact.memory, selections⟩ = .ok launch)
      (hbuilt : ∃ before, (w.backend.build Builtin.Product.kernelName
        (w.renderer.productText a.elementType)
        (Contract.ofArguments 0 (Builtin.Product.arguments a.elementType)).slotTypes before).1 =
          .ok launch.function)
      (hteam : 0 < team) (horder : (order team).Perm (List.range team))
      (hrun : Product.runExactShared w.reading order team (w.routines.product a.elementType)
        w.multiply a.elementType launch.values s.exact = .ok exact) :
      Step w s ⟨exact, s.matrices, s.views⟩
  /-- The blocks of a view are gathered. -/
  | pack {s : State R} {v : ExchangeView} {kernel : BoundKernel Fn} {selections : Array Nat}
      {launch : Launch Fn} {limit : Nat} {exact : ExactMemory R} (hv : v ∈ s.views)
      (hkernel : Packing.Gives w.backend w.renderer Packing.pack v kernel)
      (hlaunch : kernel.launch [] ⟨s.exact.memory, selections⟩ = .ok launch)
      (hlimit : v.view.rows.toNat < limit ∧ v.view.columns.toNat < limit)
      (hruns : w.Runs limit v.view.elementType [] Builtin.Packing.packKernelName
        (Builtin.Packing.arguments v.view.elementType .input .output)
        (Builtin.Packing.packBody v.view.rows.toNat v.view.columns.toNat) launch s.exact exact) :
      Step w s ⟨exact, s.matrices, s.views⟩
  /-- The blocks of a view are scattered. -/
  | unpack {s : State R} {v : ExchangeView} {kernel : BoundKernel Fn} {selections : Array Nat}
      {launch : Launch Fn} {limit : Nat} {exact : ExactMemory R} (hv : v ∈ s.views)
      (hkernel : Packing.Gives w.backend w.renderer Packing.unpack v kernel)
      (hlaunch : kernel.launch [] ⟨s.exact.memory, selections⟩ = .ok launch)
      (hlimit : v.view.rows.toNat < limit ∧ v.view.columns.toNat < limit)
      (hruns : w.Runs limit v.view.elementType [] Builtin.Packing.unpackKernelName
        (Builtin.Packing.arguments v.view.elementType .output .input)
        (Builtin.Packing.unpackBody v.view.rows.toNat v.view.columns.toNat) launch s.exact exact) :
      Step w s ⟨exact, s.matrices, s.views⟩

/-- A state that a session comes to, whatever the numbers were at its beginning. -/
def Reached (w : Tools Fn σ R) (s : State R) : Prop :=
  ∃ numbers, Relation.ReflTransGen (Step w) (.start numbers) s

/-- The source of buffers is exact, the modules are the built-in ones, and a product routine changes
numbers of elements of its result at most. -/
structure Tools.Standard (w : Tools Fn σ R) : Prop where
  allocator : w.allocator.Exact
  multiply : Product.WritesResult w.multiply
  combination : w.renderer.templates.get? Builtin.Combination.module =
    some Builtin.Combination.template
  copy : w.renderer.templates.get? Builtin.Copy.module = some Builtin.Copy.template
  product : w.renderer.templates.get? Builtin.Product.module = some Builtin.Product.template
  pack : w.renderer.templates.get? Builtin.Packing.packModule = some Builtin.Packing.pack
  unpack : w.renderer.templates.get? Builtin.Packing.unpackModule = some Builtin.Packing.unpack

end Padding

end KernelForge
