import KernelForge.Code.Printer
import KernelForge.Proofs.Code.Calling
import KernelForge.Proofs.Device.Grids
import KernelForge.Source.Generator

/-!
# Threads of a grid

A device kernel over one dimension runs its body on every thread whose index is below the count. The
index is the number of the thread in the grid, computed in 32-bit unsigned arithmetic and then
converted to `int`. The grid is the smallest one with a thread for every element, so its last block
may have threads too many: those whose numbers are still an `int` are kept out by the comparison with
the count, but the numbers from `2 ^ 31` on become negative indices, which pass it. The body is run
exactly once for each element, and for no other index, just when the grid has at most `2 ^ 31` threads.
-/

namespace KernelForge

open Code

namespace LaunchGrid

/-! ### Grids -/

/-- A count of elements that an `int` can hold has a grid; it reaches the last element, and its last
block is needed. -/
theorem forElements_eq_ok {count : UInt64} {block : UInt32} (hcount : 1 ≤ count.toNat)
    (hint : count.toNat < twoPow 31) (hblock : 1 ≤ block.toNat) :
    ∃ g, forElements count block = .ok g ∧ g.block = block ∧ count.toNat ≤ g.threads.toNat ∧
      g.threads.toNat < count.toNat + block.toNat := by
  have hleast : IsLeast (covering count.toNat block.toNat) _ := isLeast_covering hblock
  have hquotient : (count.toNat + block.toNat - 1) / block.toNat ≤ count.toNat :=
    hleast.2 (Nat.le_mul_of_pos_right _ hblock)
  rw [twoPow_31] at hint
  have hgrid := isLeast_toNat hleast (by rw [twoPow_32]; omega)
  generalize UInt32.ofNat ((count.toNat + block.toNat - 1) / block.toNat) = grid at hgrid
  obtain ⟨hpos, hlast⟩ := lt_of_isLeast hgrid hcount
  have hwhole : block.toNat ≤ grid.toNat * block.toNat := Nat.le_mul_of_pos_left _ hpos
  refine ⟨⟨grid, block⟩, forElements_eq_ok_iff.mpr ⟨hcount, hblock, rfl, hgrid⟩, rfl, ?_⟩
  rw [toNat_threads]
  rw [Nat.sub_one_mul] at hlast
  exact ⟨hgrid.1, by dsimp only; omega⟩

end LaunchGrid

namespace Cuda

/-! ### Threads -/

/-- A thread of a grid: the number of its block, and its number in the block. -/
structure Thread where
  block : Nat
  place : Nat
  deriving DecidableEq, Repr

/-- All threads of a grid, block by block. -/
def threadsOf (g : LaunchGrid) : List Thread :=
  (List.range g.grid.toNat).flatMap fun block =>
    (List.range g.block.toNat).map fun place => ⟨block, place⟩

namespace Thread

variable (g : LaunchGrid) (t : Thread)

/-- The number of a thread in its grid. -/
def number : Nat := t.block * g.block.toNat + t.place

/-- The number as an `int` has it. -/
def index : Int := IntKind.int.wrap (t.number g)

/-- The variables that a thread knows its place in the grid by. -/
def locals (M : Machine) : List (Local M) :=
  [⟨"blockIdx.x", .int .unsignedInt, .int .unsignedInt t.block⟩,
    ⟨"blockDim.x", .int .unsignedInt, .int .unsignedInt g.block.toNat⟩,
    ⟨"threadIdx.x", .int .unsignedInt, .int .unsignedInt t.place⟩]

/-- An index is an `int`. -/
theorem wrap_index : IntKind.int.wrap (t.index g) = t.index g := by
  rw [index, wrap_int, wrap_int, Int.bmod_bmod]

end Thread

/-- The indices below a count, in the order of their threads. -/
def indices (g : LaunchGrid) (count : Nat) (threads : List Thread) : List Int :=
  (threads.map (·.index g)).filter (· < count)

/-! ### The code of a thread -/

/-- The index of a thread, as a kernel declares it. -/
def indexVariable : Variable :=
  ⟨"_x", .int .int, false,
    some (.binary .add (.binary .mul (.var "blockIdx.x") (.var "blockDim.x")) (.var "threadIdx.x"))⟩

/-- The comparison that a thread has to pass. -/
def guard : Expr := .binary .lt (.var "_x") (.var "_nx")

/-- The text of a kernel over one dimension between its braces. -/
def threadText (bodyLines : String) : String :=
  "    " ++ bodyText [] [.declare [indexVariable]] ++ "\n    if (" ++ guard.text [] ++ ")\n" ++
    bracedBlock "    " (Text.indent 2 bodyLines)

/-- It is what the generator writes. -/
theorem guarded_eq_threadText (bodyLines : String) : guarded 1 bodyLines = threadText bodyLines := by
  have hindex : threadIndex = "    " ++ bodyText [] [.declare [indexVariable]] ++ "\n" := by decide
  have hguard : "    if (_x < _nx)\n" = "    if (" ++ guard.text [] ++ ")\n" := by decide
  rw [guarded, if_neg (by decide), if_pos rfl, hindex, hguard, threadText]
  simp only [String.append_assoc]
  rfl

section Runs

variable {M : Machine} (ctx : Context M) (g : LaunchGrid) (parameters : List (Local M))
  (body : List Stmt)

/-- Runs the code on a thread. -/
def runThread (t : Thread) (memory : M.Memory) : Except Code.Fault M.Memory :=
  (inScope (Stmt.execAll [.declare [indexVariable], .ifElse guard (.block body) .empty]
    { ctx with frame := 0 }) ⟨memory, t.locals g M ++ parameters⟩).map fun result =>
      result.2.memory

/-- Runs the code on threads one after the other. -/
def runThreads (threads : List Thread) (memory : M.Memory) : Except Code.Fault M.Memory :=
  threads.foldlM (fun memory t => runThread ctx g parameters body t memory) memory

end Runs

/-! ### What a thread does -/

section Performing

variable {M : Machine} {ctx : Context M} {g : LaunchGrid} {parameters : List (Local M)}
  {body : List Stmt} {inv : M.Memory → Prop} {step : Int → M.Memory → Option M.Memory}
  {count : Nat} {t : Thread} {memory : M.Memory}

/-- The local variables that the body of a thread sees. -/
def bodyLocals (g : LaunchGrid) (parameters : List (Local M)) (t : Thread) : List (Local M) :=
  ⟨"_x", .int .int, .int .int (t.index g)⟩ :: (t.locals g M ++ parameters)

variable (hwrap : M.wrap = IntKind.wrap)

include hwrap

/-- Products and sums of unsigned numbers are taken modulo `2 ^ 32`. -/
theorem eval_unsigned {op : BinaryOp} {a b : Expr} {s : RunState M} {m n r : Int}
    (hop : op = .add ∧ r = m + n ∨ op = .mul ∧ r = m * n)
    (ha : a.eval ctx s = .ok (.int .unsignedInt m, s))
    (hb : b.eval ctx s = .ok (.int .unsignedInt n, s)) :
    (Expr.binary op a b).eval ctx s = .ok (.int .unsignedInt (r % twoPow 32), s) := by
  rw [Expr.eval, run_bind ha, run_bind hb]
  refine run_liftM ?_
  obtain ⟨rfl, rfl⟩ | ⟨rfl, rfl⟩ := hop
  · change Except.ok (Value.int .unsignedInt (M.wrap .unsignedInt
      (M.wrap .unsignedInt m + M.wrap .unsignedInt n))) = _
    rw [hwrap, wrap_unsignedInt, wrap_unsignedInt, wrap_unsignedInt, ← Int.add_emod]
  · change Except.ok (Value.int .unsignedInt (M.wrap .unsignedInt
      (M.wrap .unsignedInt m * M.wrap .unsignedInt n))) = _
    rw [hwrap, wrap_unsignedInt, wrap_unsignedInt, wrap_unsignedInt, ← Int.mul_emod]

/-- A thread finds its index: unsigned arithmetic and the conversion leave what an `int` has of the
number of the thread. -/
theorem declares_index (hframe : ctx.frame = 0) :
    declareVariable ctx indexVariable ⟨memory, t.locals g M ++ parameters⟩ =
      .ok ((), ⟨memory, bodyLocals g parameters t⟩) := by
  set s : RunState M := ⟨memory, t.locals g M ++ parameters⟩ with hs
  have hvisible : s.visible ctx = t.locals g M ++ parameters := visible_all hframe
  have hblock : (Expr.var "blockIdx.x").eval ctx s = .ok (.int .unsignedInt t.block, s) :=
    eval_var (x := ⟨"blockIdx.x", .int .unsignedInt, .int .unsignedInt t.block⟩)
      (by rw [hvisible]; rfl) rfl
  have hsize : (Expr.var "blockDim.x").eval ctx s = .ok (.int .unsignedInt g.block.toNat, s) :=
    eval_var (x := ⟨"blockDim.x", .int .unsignedInt, .int .unsignedInt g.block.toNat⟩)
      (by rw [hvisible]; rfl) rfl
  have hplace : (Expr.var "threadIdx.x").eval ctx s = .ok (.int .unsignedInt t.place, s) :=
    eval_var (x := ⟨"threadIdx.x", .int .unsignedInt, .int .unsignedInt t.place⟩)
      (by rw [hvisible]; rfl) rfl
  have hproduct := eval_unsigned hwrap (.inr ⟨rfl, rfl⟩) hblock hsize
  have hsum := eval_unsigned hwrap (.inl ⟨rfl, rfl⟩) hproduct hplace
  have hnumber : ((t.block : Int) * g.block.toNat % twoPow 32 + t.place) % twoPow 32 =
      (t.number g : Int) % twoPow 32 := by
    rw [Int.emod_add_emod, Thread.number]
    push_cast
    rfl
  have hconvert : (Value.int .unsignedInt ((t.number g : Int) % twoPow 32) : Value M.Real).convert
      (.int .int) = .ok (.int .int (t.index g)) := by
    change Except.ok (Value.int .int (M.wrap .int ((t.number g : Int) % twoPow 32))) = _
    rw [hwrap, Thread.index, wrap_int, wrap_int, Int.emod_bmod]
  rw [hnumber] at hsum
  change ((Expr.binary .add (.binary .mul (.var "blockIdx.x") (.var "blockDim.x"))
    (.var "threadIdx.x")).eval ctx >>= fun v =>
      (liftM (v.convert (.int .int)) : Run M _) >>= fun value => _) s = _
  rw [run_bind hsum, run_bind (run_liftM hconvert)]
  rfl

/-- The indices of threads are integers that an `int` can hold, and so is the count. -/
theorem guard_counts (hframe : ctx.frame = 0) (hint : count < twoPow 31)
    (hcount : parameters.find? (·.name = "_nx") = some ⟨"_nx", .int .int, .int .int count⟩) :
    guard.Counts ctx ⟨memory, bodyLocals g parameters t⟩ (if t.index g < count then 1 else 0) := by
  set s : RunState M := ⟨memory, bodyLocals g parameters t⟩ with hs
  have hvisible : s.visible ctx = bodyLocals g parameters t := visible_all hframe
  have hindex : (Expr.var "_x").eval ctx s = .ok (.int .int (t.index g), s) :=
    eval_var (x := ⟨"_x", .int .int, .int .int (t.index g)⟩) (by rw [hvisible]; rfl) rfl
  have hbound : (Expr.var "_nx").eval ctx s = .ok (.int .int count, s) :=
    eval_var (x := ⟨"_nx", .int .int, .int .int count⟩) (by rw [hvisible]; exact hcount) rfl
  have hindexWrap : M.wrap .int (t.index g) = t.index g := by rw [hwrap, Thread.wrap_index]
  have hcountWrap : M.wrap .int (count : Int) = count := by
    rw [hwrap, wrap_int]
    rw [twoPow_31] at hint
    rw [twoPow_32]
    exact Int.bmod_eq_of_le (by omega) (by omega)
  have hcompare : BinaryOp.lt.apply (Value.int .int (t.index g)) (Value.int .int count) =
      .ok (Value.int .int (if t.index g < count then 1 else 0) : Value M.Real) := by
    have hkind : IntKind.int.common .int = .int := rfl
    simp [BinaryOp.apply, intOperation, BinaryOp.isShift, BinaryOp.isComparison, BinaryOp.ofInts,
      hkind, hindexWrap, hcountWrap, bind, Except.bind, pure, Except.pure]
  refine ⟨.int, ?_⟩
  rw [guard, Expr.eval, run_bind hindex, run_bind hbound]
  exact run_liftM hcompare

/-- A thread does what it does once it has found its index. -/
theorem runThread_of_choice {memory' : M.Memory}
    (h : (Stmt.ifElse guard (.block body) .empty).exec { ctx with frame := 0 }
      ⟨memory, bodyLocals g parameters t⟩ = .ok (.next, ⟨memory', bodyLocals g parameters t⟩)) :
    runThread ctx g parameters body t memory = .ok memory' := by
  have hdeclare : (Stmt.declare [indexVariable]).exec { ctx with frame := 0 }
      ⟨memory, t.locals g M ++ parameters⟩ = .ok (.next, ⟨memory, bodyLocals g parameters t⟩) :=
    (exec_declare_cons (declares_index hwrap rfl)).trans exec_declare_nil
  have hall := (execAll_cons hdeclare).trans ((execAll_cons h).trans execAll_nil)
  rw [runThread, inScope_of_ok hall (List.suffix_cons _ _)]
  rfl

variable (hint : count < twoPow 31)
  (hcount : parameters.find? (·.name = "_nx") = some ⟨"_nx", .int .int, .int .int count⟩)

include hint hcount

/-- A thread whose index is below the count does the step of the body. -/
theorem runThread_of_lt (hlt : t.index g < count)
    (hbody : (Stmt.block body).Performs { ctx with frame := 0 } (bodyLocals g parameters t) inv
      (step (t.index g))) (hinv : inv memory) :
    ∃ memory', step (t.index g) memory = some memory' ∧ inv memory' ∧
      runThread ctx g parameters body t memory = .ok memory' := by
  obtain ⟨memory', hstep, hinv', hexec⟩ := hbody memory hinv
  refine ⟨memory', hstep, hinv', runThread_of_choice hwrap ?_⟩
  rw [exec_ifElse (guard_counts hwrap rfl hint hcount), if_pos hlt]
  exact inScope_of_ok hexec (List.suffix_refl _)

/-- Any other thread does nothing. -/
theorem runThread_of_le (hle : ¬t.index g < count) :
    runThread ctx g parameters body t memory = .ok memory := by
  have hempty : Stmt.empty.exec { ctx with frame := 0 } ⟨memory, bodyLocals g parameters t⟩ =
      .ok (.next, ⟨memory, bodyLocals g parameters t⟩) := by
    rw [Stmt.exec]
    rfl
  refine runThread_of_choice hwrap ?_
  rw [exec_ifElse (guard_counts hwrap rfl hint hcount), if_neg hle]
  exact inScope_of_ok hempty (List.suffix_refl _)

/-- Threads one after the other do the steps of their indices below the count. -/
theorem runThreads_eq {threads : List Thread}
    (hbody : ∀ t ∈ threads, t.index g < count →
      (Stmt.block body).Performs { ctx with frame := 0 } (bodyLocals g parameters t) inv
        (step (t.index g))) (hinv : inv memory) :
    ∃ memory', (indices g count threads).foldlM (fun memory x => step x memory) memory =
        some memory' ∧ inv memory' ∧ runThreads ctx g parameters body threads memory = .ok memory' := by
  induction threads generalizing memory with
  | nil => exact ⟨memory, rfl, hinv, rfl⟩
  | cons t rest ih =>
    have hrest := fun u hu => hbody u (List.mem_cons_of_mem t hu)
    by_cases hlt : t.index g < count
    · obtain ⟨middle, hstep, hmiddle, hrun⟩ := runThread_of_lt hwrap hint hcount hlt
        (hbody t List.mem_cons_self hlt) hinv
      obtain ⟨memory', hfold, hinv', hruns⟩ := ih hrest hmiddle
      refine ⟨memory', ?_, hinv', ?_⟩
      · rw [indices, List.map_cons, List.filter_cons_of_pos (by simpa using hlt), List.foldlM_cons,
          hstep]
        exact hfold
      · rw [runThreads, List.foldlM_cons, hrun]
        exact hruns
    · have hrun : runThread ctx g parameters body t memory = .ok memory :=
        runThread_of_le hwrap hint hcount hlt
      obtain ⟨memory', hfold, hinv', hruns⟩ := ih hrest hinv
      refine ⟨memory', ?_, hinv', ?_⟩
      · rw [indices, List.map_cons, List.filter_cons_of_neg (by simpa using hlt)]
        exact hfold
      · rw [runThreads, List.foldlM_cons, hrun]
        exact hruns

end Performing

/-! ### Which indices the threads of a grid have -/

/-- The numbers of the threads of a grid are the numbers below their count. -/
theorem numbers_threadsOf (g : LaunchGrid) :
    (threadsOf g).map (·.number g) = List.range g.threads.toNat := by
  rw [LaunchGrid.toNat_threads, threadsOf]
  induction g.grid.toNat with
  | zero => rw [Nat.zero_mul]; rfl
  | succ n ih =>
    rw [List.range_succ, List.flatMap_append, List.map_append, ih, Nat.succ_mul, List.range_add,
      List.flatMap_singleton, List.map_map]
    rfl

variable {g : LaunchGrid} {count : Nat}

/-- A number that an `int` can hold is an index itself; the next ones become negative. -/
theorem wrap_number {n : Nat} (hn : n < twoPow 32) :
    IntKind.int.wrap n = if n < twoPow 31 then (n : Int) else (n : Int) - twoPow 32 := by
  rw [twoPow_32] at hn
  rw [wrap_int, twoPow_31, twoPow_32]
  split
  · exact Int.bmod_eq_of_le (by omega) (by omega)
  · rw [← Int.sub_bmod_right]
    exact Int.bmod_eq_of_le (by omega) (by omega)

/-- Indices that are all below the count are kept. -/
theorem filter_range_eq {bound : Int} {n : Nat} {f f' : Nat → Int}
    (h : ∀ k < n, f k = f' k ∧ f' k < bound) :
    ((List.range n).map f).filter (· < bound) = (List.range n).map f' := by
  have hmap : (List.range n).map f = (List.range n).map f' :=
    List.map_congr_left fun k hk => (h k (List.mem_range.mp hk)).1
  rw [hmap, List.filter_eq_self]
  intro x hx
  obtain ⟨k, hk, rfl⟩ := List.mem_map.mp hx
  exact decide_eq_true (h k (List.mem_range.mp hk)).2

/-- Indices none of which is below the count are left out. -/
theorem filter_range_eq_nil {bound : Int} {n : Nat} {f : Nat → Int} (h : ∀ k < n, bound ≤ f k) :
    ((List.range n).map f).filter (· < bound) = [] := by
  rw [List.filter_eq_nil_iff]
  intro x hx
  obtain ⟨k, hk, rfl⟩ := List.mem_map.mp hx
  rw [decide_eq_true_eq]
  exact Int.not_lt.mpr (h k (List.mem_range.mp hk))

/-- The indices below the count: the elements, and the numbers from `2 ^ 31` on as negative
integers. -/
theorem indices_threadsOf (hint : count < twoPow 31) (hcover : count ≤ g.threads.toNat)
    (hlast : g.threads.toNat ≤ twoPow 32) :
    indices g count (threadsOf g) = (List.range count).map Int.ofNat ++
      (List.range (g.threads.toNat - twoPow 31)).map fun k : Nat => (k : Int) - twoPow 31 := by
  have hindices : (threadsOf g).map (·.index g) =
      (List.range g.threads.toNat).map fun n : Nat => IntKind.int.wrap n := by
    rw [← numbers_threadsOf, List.map_map]
    simp only [Thread.index, Function.comp_def]
  have hdouble : twoPow 32 = 2 * twoPow 31 := twoPow_succ 31
  -- The threads are those of the elements, those that the comparison keeps out, and those whose
  -- numbers an `int` cannot hold.
  obtain ⟨gap, beyond, hthreads, hbeyond, hgap, hstart⟩ : ∃ gap beyond,
      g.threads.toNat = count + (gap + beyond) ∧ beyond = g.threads.toNat - twoPow 31 ∧
        count + gap ≤ twoPow 31 ∧ (0 < beyond → count + gap = twoPow 31) :=
    ⟨min g.threads.toNat (twoPow 31) - count, g.threads.toNat - twoPow 31, by omega, rfl, by omega,
      by omega⟩
  have helements : ((List.range count).map fun n : Nat => IntKind.int.wrap n).filter
      (· < (count : Int)) = (List.range count).map Int.ofNat := by
    refine filter_range_eq fun n hn => ⟨?_, Int.ofNat_lt.mpr hn⟩
    rw [wrap_number (by omega), if_pos (by omega), Int.ofNat_eq_natCast]
  have hspare : ((List.range gap).map fun k : Nat => IntKind.int.wrap (count + k : Nat)).filter
      (· < (count : Int)) = [] := by
    refine filter_range_eq_nil fun k hk => ?_
    rw [wrap_number (by omega), if_pos (by omega)]
    omega
  have hnegative : ((List.range beyond).map fun k : Nat =>
      IntKind.int.wrap (count + (gap + k) : Nat)).filter (· < (count : Int)) =
        (List.range beyond).map fun k : Nat => (k : Int) - twoPow 31 := by
    refine filter_range_eq fun k hk => ?_
    have hfirst := hstart (by omega)
    rw [wrap_number (by omega), if_neg (by omega)]
    omega
  rw [indices, hindices, ← hbeyond, hthreads, List.range_add, List.range_add]
  simp only [List.map_append, List.map_map, Function.comp_def, List.filter_append]
  rw [helements, hspare, hnegative, List.nil_append]

/-- The kernel runs its body once for each element below the count, and besides for the negative
indices of the threads whose numbers an `int` cannot hold; there are none just when the grid has at
most `2 ^ 31` threads. The threads may run in any order. -/
theorem grid_runs_indices {count : UInt64} {block : UInt32} (hcount : 1 ≤ count.toNat)
    (hint : count.toNat < twoPow 31) (hblock : 1 ≤ block.toNat) (hblock' : block.toNat ≤ 1024) :
    ∃ g, LaunchGrid.forElements count block = .ok g ∧
      (∀ bodyLines, guarded 1 bodyLines = threadText bodyLines) ∧
      indices g count.toNat (threadsOf g) = (List.range count.toNat).map Int.ofNat ++
        ((List.range (g.threads.toNat - twoPow 31)).map fun k : Nat => (k : Int) - twoPow 31) ∧
      (indices g count.toNat (threadsOf g) = (List.range count.toNat).map Int.ofNat ↔
        g.threads.toNat ≤ twoPow 31) ∧
      ∀ (M : Machine) (ctx : Context M) (parameters : List (Local M)) (body : List Stmt)
        (inv : M.Memory → Prop) (step : Int → M.Memory → Option M.Memory) (threads : List Thread)
        (memory : M.Memory), M.wrap = IntKind.wrap →
        parameters.find? (·.name = "_nx") =
          some ⟨"_nx", .int .int, .int .int (count.toNat : Int)⟩ →
        threads.Perm (threadsOf g) →
        (∀ t ∈ threads, t.index g < count.toNat →
          (Stmt.block body).Performs { ctx with frame := 0 } (bodyLocals g parameters t) inv
            (step (t.index g))) → inv memory →
        (indices g count.toNat threads).Perm (indices g count.toNat (threadsOf g)) ∧
          ∃ memory', (indices g count.toNat threads).foldlM (fun memory x => step x memory) memory =
            some memory' ∧ runThreads ctx g parameters body threads memory = .ok memory' := by
  obtain ⟨g, hg, hsize, hcover, hlast⟩ := LaunchGrid.forElements_eq_ok hcount hint hblock
  have hinside : g.threads.toNat ≤ twoPow 32 := by
    rw [twoPow_31] at hint
    rw [twoPow_32]
    omega
  have hindices := indices_threadsOf hint hcover hinside
  refine ⟨g, hg, guarded_eq_threadText, hindices, ?_, ?_⟩
  · rw [hindices, List.append_right_eq_self, List.map_eq_nil_iff, List.range_eq_nil]
    exact Nat.sub_eq_zero_iff_le
  · intro M ctx parameters body inv step threads memory hwrap hparameter hthreads hbody hinv
    obtain ⟨memory', hfold, -, hrun⟩ := runThreads_eq hwrap hint hparameter hbody hinv
    exact ⟨(hthreads.map _).filter _, memory', hfold, hrun⟩

/-- Blocks whose size divides `2 ^ 31`, as that of every power of two up to 1024 does, leave no numbers
that an `int` cannot hold, so the kernel runs its body for the elements alone. -/
theorem grid_runs_elements {count : UInt64} {block : UInt32} (hcount : 1 ≤ count.toNat)
    (hint : count.toNat < twoPow 31) (hdvd : block.toNat ∣ twoPow 31) :
    ∃ g, LaunchGrid.forElements count block = .ok g ∧
      indices g count.toNat (threadsOf g) = (List.range count.toNat).map Int.ofNat := by
  have hblock : 1 ≤ block.toNat := Nat.pos_of_dvd_of_pos hdvd (by decide)
  obtain ⟨g, hg, hsize, hcover, hlast⟩ := LaunchGrid.forElements_eq_ok hcount hint hblock
  have hthreads : g.threads.toNat ≤ twoPow 31 := by
    by_contra hover
    have hmultiple : block.toNat ∣ g.threads.toNat - twoPow 31 := by
      refine Nat.dvd_sub ?_ hdvd
      rw [LaunchGrid.toNat_threads, hsize]
      exact Nat.dvd_mul_left _ _
    have hle : block.toNat ≤ g.threads.toNat - twoPow 31 := Nat.le_of_dvd (by omega) hmultiple
    omega
  have hinside : g.threads.toNat ≤ twoPow 32 := hthreads.trans (by decide)
  refine ⟨g, hg, ?_⟩
  rw [indices_threadsOf hint hcover hinside, Nat.sub_eq_zero_of_le hthreads, List.range_zero,
    List.map_nil, List.append_nil]

/-! ### Recorded indices -/

/-- A machine whose memory is the list of the integers that were stored. -/
def recorder : Machine where
  Real _ := Unit
  Memory := List Int
  wrap := IntKind.wrap
  ofInt _ _ := ()
  ofDecimal _ _ _ := ()
  toInt _ _ := 0
  convert _ x := x
  negate x := x
  add x _ := x
  sub x _ := x
  mul x _ := x
  div x _ := x
  eq _ _ := true
  lt _ _ := false
  le _ _ := true
  load _ _ _ := none
  store record _ value :=
    match value with
    | .int _ n => some (record ++ [n])
    | .float _ _ | .pointer _ _ | .void => none
  order := List.range
  team := 1
  library _ _ := none

/-- A body that stores the index. -/
def recordIndex : List Stmt := [.expr (.assign (.deref (.var "out")) (.var "_x"))]

/-- The parameters of a kernel with this body. -/
def recordParameters (count : Nat) : List (Local recorder) :=
  [⟨"_nx", .int .int, .int .int count⟩,
    ⟨"out", .pointer (.int .int) false, .pointer (.int .int) (.address 0)⟩]

/-- What surrounds the code of a thread. -/
def recordContext : Context recorder :=
  ⟨0, .alone, 0, fun _ => none, fun _ _ _ => throw .badOperand⟩

/-- What the body does to the record. -/
def recordStep (x : Int) (record : List Int) : Option recorder.Memory := some (record ++ [x] : List Int)

/-- The body stores the index of its thread. -/
theorem performs_recordIndex (g : LaunchGrid) (count : Nat) (t : Thread) :
    (Stmt.block recordIndex).Performs recordContext (bodyLocals g (recordParameters count) t)
      (fun _ => True) (recordStep (t.index g)) := by
  refine Stmt.Performs.block fun (record : List Int) _ =>
    ⟨(record ++ [t.index g] : List Int), rfl, trivial, ?_⟩
  set s : RunState recorder := ⟨record, bodyLocals g (recordParameters count) t⟩ with hs
  have hvisible : s.visible recordContext = bodyLocals g (recordParameters count) t :=
    visible_all rfl
  have hindex : (Expr.var "_x").eval recordContext s = .ok (.int .int (t.index g), s) :=
    eval_var (x := ⟨"_x", .int .int, .int .int (t.index g)⟩) (by rw [hvisible]; rfl) rfl
  have hout : (Expr.var "out").eval recordContext s = .ok (.pointer (.int .int) (.address 0), s) :=
    eval_var (x := ⟨"out", .pointer (.int .int) false, .pointer (.int .int) (.address 0)⟩)
      (by rw [hvisible]; rfl) rfl
  have hplace : (Expr.deref (.var "out")).place recordContext s =
      .ok ((.int .int, .address 0), s) := by
    rw [Expr.place, run_bind hout]
    rfl
  have hconvert : (Value.int .int (t.index g) : Value recorder.Real).convert (.int .int) =
      .ok (.int .int (t.index g)) := by
    have hwrap : recorder.wrap = IntKind.wrap := rfl
    simp only [Value.convert, hwrap, Thread.wrap_index]
  have hassign : (Expr.assign (.deref (.var "out")) (.var "_x")).eval recordContext s =
      .ok (.int .int (t.index g), ⟨(record ++ [t.index g] : List Int), s.locals⟩) := by
    rw [Expr.eval, run_bind hplace, run_bind hindex]
    exact writePlace_address hconvert rfl
  exact exec_expr hassign

/-- Three elements in blocks of two threads: the fourth thread does nothing. -/
theorem threeElements_recorded : LaunchGrid.forElements 3 2 = .ok ⟨2, 2⟩ ∧
    runThreads recordContext ⟨2, 2⟩ (recordParameters 3) recordIndex (threadsOf ⟨2, 2⟩) [] =
      .ok [0, 1, 2] := by
  have hcount : 1 ≤ (3 : UInt64).toNat := by decide
  have hblock : 1 ≤ (2 : UInt32).toNat := by decide
  obtain ⟨g, hg, -, hindices, -, hruns⟩ := grid_runs_indices hcount (by decide) hblock (by decide)
  have hgrid : LaunchGrid.forElements 3 2 = .ok ⟨2, 2⟩ := by decide
  obtain rfl : g = ⟨2, 2⟩ := Except.ok.inj (hg.symm.trans hgrid)
  obtain ⟨-, record, hfold, hrun⟩ := hruns recorder recordContext (recordParameters 3) recordIndex
    (fun _ => True) recordStep (threadsOf ⟨2, 2⟩) [] rfl rfl (.refl _)
    (fun t _ _ => performs_recordIndex _ 3 t) trivial
  rw [hindices] at hfold
  exact ⟨hgrid, hrun.trans (congrArg Except.ok (Option.some.inj hfold.symm))⟩

/-- Blocks of 1000 threads for `2 ^ 31 - 1` elements: a thread of the last block has the number
`2 ^ 31`, and runs the body for a negative index. -/
theorem negativeIndex_recorded : LaunchGrid.forElements 2147483647 1000 = .ok ⟨2147484, 1000⟩ ∧
    (⟨2147483, 648⟩ : Thread) ∈ threadsOf ⟨2147484, 1000⟩ ∧
    runThread recordContext ⟨2147484, 1000⟩ (recordParameters 2147483647) recordIndex
      ⟨2147483, 648⟩ [] = .ok [-2147483648] ∧
    ¬(indices ⟨2147484, 1000⟩ 2147483647 (threadsOf ⟨2147484, 1000⟩)).Perm
      ((List.range 2147483647).map Int.ofNat) := by
  have hindex : Thread.index ⟨2147484, 1000⟩ ⟨2147483, 648⟩ = -2147483648 := by decide
  have hthread : (⟨2147483, 648⟩ : Thread) ∈ threadsOf ⟨2147484, 1000⟩ := by
    refine List.mem_flatMap.mpr ⟨2147483, List.mem_range.mpr (by decide), ?_⟩
    exact List.mem_map.mpr ⟨648, List.mem_range.mpr (by decide), rfl⟩
  have hlt : Thread.index ⟨2147484, 1000⟩ ⟨2147483, 648⟩ < (2147483647 : Nat) := by
    rw [hindex]
    decide
  have hfound : (recordParameters 2147483647).find? (·.name = "_nx") =
      some ⟨"_nx", .int .int, .int .int (2147483647 : Nat)⟩ := rfl
  have hbody := performs_recordIndex ⟨2147484, 1000⟩ 2147483647 ⟨2147483, 648⟩
  have hruns : ∃ record, recordStep (Thread.index ⟨2147484, 1000⟩ ⟨2147483, 648⟩) [] = some record ∧
      True ∧ runThread recordContext ⟨2147484, 1000⟩ (recordParameters 2147483647) recordIndex
        ⟨2147483, 648⟩ [] = .ok record :=
    runThread_of_lt rfl (by decide) hfound hlt hbody trivial
  obtain ⟨record, hstep, -, hrun⟩ := hruns
  rw [hindex] at hstep
  refine ⟨by decide, hthread, hrun.trans (congrArg Except.ok (Option.some.inj hstep.symm)), ?_⟩
  intro hperm
  have hmem : (-2147483648 : Int) ∈ indices ⟨2147484, 1000⟩ 2147483647
      (threadsOf ⟨2147484, 1000⟩) := by
    refine List.mem_filter.mpr ⟨List.mem_map.mpr ⟨_, hthread, hindex⟩, by decide⟩
  obtain ⟨n, -, hn⟩ := List.mem_map.mp (hperm.mem_iff.mp hmem)
  have hnonneg : (0 : Int) ≤ Int.ofNat n := Int.natCast_nonneg n
  omega

end Cuda

end KernelForge
