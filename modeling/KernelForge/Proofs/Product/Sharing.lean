import KernelForge.Proofs.Code.Calling
import KernelForge.Proofs.Product.Blocks

/-!
# Sharing a product

Every thread of a team asks how many threads there are and which one it is, and puts where its
columns begin and end into two variables of the code that called it. If it has some columns, it calls
the product routine for them through the pointer that the kernel got. Sizes are read as integers of
any size, and the numbers are only passed on, so all of this is the same on every machine that does
not cut integers.
-/

namespace KernelForge

open Code

/-- A kernel over no dimension. -/
def Host.plainFunction (name : String) (args : List Argument) (body : List Stmt) : Function where
  name := name
  result := .void
  params := List.zipWith (fun p type => ⟨p.name, type, false⟩) (SourceParameter.ofKernel 0 args)
    (paramTypes 0 args)
  body := [.block body]
  isStatic := false

namespace Product

/-- The function that shares the columns. -/
def partitionFunction : Function where
  name := Builtin.Product.partitionName
  result := .void
  params := [⟨"n", .int .int, false⟩, ⟨"begin", .pointer (.int .int) false, false⟩,
    ⟨"end", .pointer (.int .int) false, false⟩]
  body := Builtin.Product.partitionBody
  isStatic := true

/-- The functions that code of the module knows by name. -/
def global (name : String) : Option (CType × Location) :=
  if name = Builtin.Product.partitionName then some (.function .void, .function name)
  else if name = "omp_get_num_threads" ∨ name = "omp_get_thread_num" then
    some (.function (.int .int), .function name)
  else none

section Calls

variable {M : Machine}

/-- What is called by name from a function of the module that calls no other one. -/
def callLibrary : Callee → Team → List (Value M.Real) → Run M (Value M.Real)
  | .named name, team, args => Program.callLibrary name team args
  | .at _, _, _ => throw .badAddress

/-- What surrounds the function that shares the columns. -/
def partitionContext (M : Machine) (team : Team) : Context M := ⟨0, team, 0, global, callLibrary⟩

/-- What code of the module calls: a function by its name, or the routine by its address. -/
def sharedCall (address : UInt64) (routine : List (Value M.Real) → Run M (Value M.Real)) :
    Callee → Team → List (Value M.Real) → Run M (Value M.Real)
  | .named name, team, args =>
      if name = Builtin.Product.partitionName then
        Program.enter partitionFunction (partitionContext _ team) args
      else Program.callLibrary name team args
  | .at a, _, args => if a = address.toNat then routine args else throw .badAddress

/-- What surrounds the product kernel. -/
def sharedContext (M : Machine) (address : UInt64)
    (routine : List (Value M.Real) → Run M (Value M.Real)) : Context M :=
  ⟨0, .alone, 0, global, sharedCall address routine⟩

end Calls

variable {M : Machine}

/-! ### The columns of a thread -/

section Partition

variable (columns threads rank : Nat) (memory : M.Memory) (first last : Value M.Real)
  (below : List (Local M))

/-- The local variables of the function that shares the columns, the newest one first. -/
def partitionLocals (M : Machine) (columns threads rank bottom : Nat) : List (Local M) :=
  [⟨"chunk", .int .int, .int .int (chunk columns threads)⟩, ⟨"tid", .int .int, .int .int rank⟩,
    ⟨"nth", .int .int, .int .int threads⟩,
    ⟨"end", .pointer (.int .int) false, .pointer (.int .int) (.slot (bottom + 1))⟩,
    ⟨"begin", .pointer (.int .int) false, .pointer (.int .int) (.slot bottom)⟩,
    ⟨"n", .int .int, .int .int columns⟩]

/-- The two local variables of a thread in which its columns begin and end. -/
def columnLocals (first last : Value M.Real) : List (Local M) :=
  [⟨"end", .int .int, last⟩, ⟨"begin", .int .int, first⟩]

/-- The state of a run of the function that shares the columns, before its newest local variables
are declared. -/
def partitionState (undeclared : Nat) : RunState M :=
  ⟨memory, (partitionLocals M columns threads rank below.length).drop undeclared ++
    (columnLocals first last ++ below)⟩

/-- What the function that shares the columns is run in. -/
def sharingContext : Context M :=
  { partitionContext _ ⟨threads, rank⟩ with frame := below.length + 2 }

/-- The function sees its variables that are declared so far, and none of its caller. -/
theorem visible_partitionState (undeclared : Nat) :
    (partitionState columns threads rank memory first last below undeclared).visible
        (sharingContext threads rank below) =
      (partitionLocals M columns threads rank below.length).drop undeclared :=
  visible_append rfl

/-- The integers that the function that shares the columns has declared. -/
theorem counts_partition :
    let ctx := sharingContext threads rank below
    let s := partitionState columns threads rank memory first last below
    (Expr.var "n").Counts ctx (s 1) columns ∧ (Expr.var "nth").Counts ctx (s 1) threads ∧
      (Expr.var "n").Counts ctx (s 0) columns ∧ (Expr.var "tid").Counts ctx (s 0) rank ∧
      (Expr.var "chunk").Counts ctx (s 0) (chunk columns threads) := by
  have hvisible := visible_partitionState columns threads rank memory first last below
  refine ⟨.var (x := ⟨"n", .int .int, .int .int columns⟩) ?_ rfl rfl,
    .var (x := ⟨"nth", .int .int, .int .int threads⟩) ?_ rfl rfl,
    .var (x := ⟨"n", .int .int, .int .int columns⟩) ?_ rfl rfl,
    .var (x := ⟨"tid", .int .int, .int .int rank⟩) ?_ rfl rfl,
    .var (x := ⟨"chunk", .int .int, .int .int (chunk columns threads)⟩) ?_ rfl rfl⟩
  all_goals
    rw [hvisible]
    rfl

/-- The pointers that the function that shares the columns gets. -/
theorem eval_partition_pointers :
    let ctx := sharingContext threads rank below
    let s := partitionState columns threads rank memory first last below 0
    (Expr.var "begin").eval ctx s = .ok (.pointer (.int .int) (.slot below.length), s) ∧
      (Expr.var "end").eval ctx s = .ok (.pointer (.int .int) (.slot (below.length + 1)), s) := by
  have hvisible := visible_partitionState columns threads rank memory first last below 0
  constructor
  · refine eval_var (x := ⟨"begin", .pointer (.int .int) false, _⟩) ?_ rfl
    rw [hvisible]
    rfl
  · refine eval_var (x := ⟨"end", .pointer (.int .int) false, _⟩) ?_ rfl
    rw [hvisible]
    rfl

variable {columns threads}

/-- The number of columns for each thread is a quotient that is rounded up. -/
theorem tdiv_eq_chunk (h : 0 < threads) :
    ((columns : Int) + threads - (1 : Nat)).tdiv threads = chunk columns threads := by
  have hnat : (columns : Int) + threads - (1 : Nat) = (columns + threads - 1 : Nat) := by omega
  rw [hnat, chunk]
  exact Int.tdiv_eq_ediv_of_nonneg (Int.natCast_nonneg _)

/-- A machine leaves the integers as they are that the function that shares the columns computes for
a thread. -/
structure HoldsShare (M : Machine) (columns threads rank : Nat) : Prop where
  holds_threads : M.Holds threads
  holds_rank : M.Holds rank
  holds_columns : M.Holds columns
  holds_sum : M.Holds (columns + threads)
  holds_one : M.Holds (1 : Nat)
  holds_difference : M.Holds (columns + threads - (1 : Nat))
  holds_chunk : M.Holds (chunk columns threads)
  holds_product : M.Holds (rank * chunk columns threads)
  holds_begins : M.Holds (begins columns threads rank)
  holds_next : M.Holds (begins columns threads rank + chunk columns threads)
  holds_ends : M.Holds (ends columns threads rank)

/-- An exact machine holds every share. -/
theorem HoldsShare.of_exact (hexact : M.IsExact) (columns threads rank : Nat) :
    HoldsShare M columns threads rank := by
  constructor <;> exact hexact.holds _

section Steps

/-! Each statement of the function is a step between the states of its run. -/

variable {rank}

/-- The function that shares the columns asks for the team. -/
theorem declare_nth (hthreads : M.Holds threads) :
    declareVariable (sharingContext threads rank below)
        ⟨"nth", .int .int, false, some (.call (.var "omp_get_num_threads") [])⟩
        (partitionState columns threads rank memory first last below 3) =
      .ok ((), partitionState columns threads rank memory first last below 2) := by
  have hvisible := visible_partitionState columns threads rank memory first last below 3
  refine declareVariable_int hthreads (.call ?_ rfl rfl)
  exact (congrArg _ hvisible).trans rfl

/-- It asks for the thread. -/
theorem declare_tid (hrank : M.Holds rank) :
    declareVariable (sharingContext threads rank below)
        ⟨"tid", .int .int, false, some (.call (.var "omp_get_thread_num") [])⟩
        (partitionState columns threads rank memory first last below 2) =
      .ok ((), partitionState columns threads rank memory first last below 1) := by
  have hvisible := visible_partitionState columns threads rank memory first last below 2
  refine declareVariable_int hrank (.call ?_ rfl rfl)
  exact (congrArg _ hvisible).trans rfl

/-- First the function asks for the team and its own number in it. -/
theorem exec_partition_team (hthreads : M.Holds threads) (hrank : M.Holds rank) :
    (Builtin.Product.partitionBody[0]).exec (sharingContext threads rank below)
        (partitionState columns threads rank memory first last below 3) =
      .ok (.next, partitionState columns threads rank memory first last below 1) :=
  (exec_declare_cons (declare_nth memory first last below hthreads)).trans <|
    (exec_declare_cons (declare_tid memory first last below hrank)).trans exec_declare_nil

variable (hshare : HoldsShare M columns threads rank)

include hshare

/-- It divides the columns. -/
theorem exec_partition_chunk (h : 0 < threads) :
    (Builtin.Product.partitionBody[1]).exec (sharingContext threads rank below)
        (partitionState columns threads rank memory first last below 1) =
      .ok (.next, partitionState columns threads rank memory first last below 0) := by
  obtain ⟨hn, hnth, -⟩ := counts_partition columns threads rank memory first last below
  have hdivisor : (threads : Int) ≠ 0 := by omega
  have hsum := hn.add_of_holds hshare.holds_columns hshare.holds_threads hnth hshare.holds_sum
  have hdifference := hsum.sub_of_holds hshare.holds_sum hshare.holds_one (.literal 1 .int)
    hshare.holds_difference
  have hquotient := hdifference.paren.div_of_holds hshare.holds_difference hshare.holds_threads hnth
    hdivisor (tdiv_eq_chunk h ▸ hshare.holds_chunk)
  rw [tdiv_eq_chunk h] at hquotient
  exact (exec_declare_cons (declareVariable_int hshare.holds_chunk hquotient)).trans exec_declare_nil

/-- It finds where the columns of the thread begin. -/
theorem exec_partition_begin :
    (Builtin.Product.partitionBody[2]).exec (sharingContext threads rank below)
        (partitionState columns threads rank memory first last below 0) =
      .ok (.next, partitionState columns threads rank memory
        (.int .int (begins columns threads rank)) last below 0) := by
  obtain ⟨-, -, hn, htid, hchunk⟩ := counts_partition columns threads rank memory first last below
  obtain ⟨hbegin, -⟩ := eval_partition_pointers columns threads rank memory first last below
  have hmin : min ((rank : Int) * chunk columns threads) columns = begins columns threads rank := by
    rw [begins, ← Int.natCast_mul]
    omega
  have hproduct := htid.mul_of_holds hshare.holds_rank hshare.holds_chunk hchunk hshare.holds_product
  have hvalue := hproduct.smaller hshare.holds_product hshare.holds_columns hn
  rw [hmin] at hvalue
  exact exec_expr (eval_assign_deref hshare.holds_begins
    (partitionLocals M columns threads rank below.length ++ [⟨"end", .int .int, last⟩]) hbegin
    hvalue)

/-- It finds where they end. -/
theorem exec_partition_end :
    let s := fun last => partitionState columns threads rank memory
      (.int .int (begins columns threads rank)) last below 0
    (Builtin.Product.partitionBody[3]).exec (sharingContext threads rank below) (s last) =
      .ok (.next, s (.int .int (ends columns threads rank))) := by
  obtain ⟨-, -, hn, -, hchunk⟩ := counts_partition columns threads rank memory
    (.int .int (begins columns threads rank)) last below
  obtain ⟨hbegin, hend⟩ := eval_partition_pointers columns threads rank memory
    (.int .int (begins columns threads rank)) last below
  have hmin : min ((begins columns threads rank : Int) + chunk columns threads) columns =
      ends columns threads rank := by
    rw [ends]
    omega
  have hderef := Expr.Counts.deref (partitionLocals M columns threads rank below.length ++
    [⟨"end", .int .int, last⟩]) hbegin
  have hnext := hderef.add_of_holds hshare.holds_begins hshare.holds_chunk hchunk hshare.holds_next
  have hvalue := hnext.smaller hshare.holds_next hshare.holds_columns hn
  rw [hmin] at hvalue
  exact exec_expr (eval_assign_deref hshare.holds_ends
    (partitionLocals M columns threads rank below.length) hend hvalue)

/-- The function that shares the columns puts where the columns of a thread begin and end into the
two variables that it gets. -/
theorem enter_partition (h : 0 < threads) :
    Program.enter partitionFunction (partitionContext M ⟨threads, rank⟩)
        [.int .int columns, .pointer (.int .int) (.slot below.length),
          .pointer (.int .int) (.slot (below.length + 1))]
        ⟨memory, columnLocals first last ++ below⟩ =
      .ok (.void, ⟨memory, columnLocals (.int .int (begins columns threads rank))
        (.int .int (ends columns threads rank)) ++ below⟩) := by
  have hbody : Stmt.execAll Builtin.Product.partitionBody (sharingContext threads rank below)
      (partitionState columns threads rank memory first last below 3) = .ok (.next, _) :=
    (execAll_cons (exec_partition_team memory first last below hshare.holds_threads
      hshare.holds_rank)).trans <|
      (execAll_cons (exec_partition_chunk memory first last below hshare h)).trans <|
        (execAll_cons (exec_partition_begin memory first last below hshare)).trans <|
          (execAll_cons (exec_partition_end memory last below hshare)).trans execAll_nil
  exact enter_eq_ok (partitionLocals M columns threads rank below.length)
    (.cons (convert_int_of_holds hshare.holds_columns .int) (.cons rfl (.cons rfl .nil))) hbody rfl

end Steps

end Partition

/-! ### Threads -/

section Threads

variable (M) (kind : FloatKind) (address : UInt64) (c : ProductCall) (alpha beta : M.Real kind)

/-- The arguments of the product kernel. -/
def sharedValues {Real : FloatKind → Type} (kind : FloatKind) (address : UInt64) (c : ProductCall)
    (alpha beta : Real kind) : List (Value Real) :=
  [.pointer .void (.address address.toNat), .int .int c.rows, .int .int c.columns,
    .int .int c.inner, .float kind alpha, .pointer (.float kind) (.address c.a),
    .int .int c.leadingA, .pointer (.float kind) (.address c.b), .int .int c.leadingB,
    .float kind beta, .pointer (.float kind) (.address c.out), .int .int c.leadingOut]

/-- The local variables of the product kernel, that of the last parameter first. -/
def sharedLocals : List (Local M) :=
  [⟨"ldc", .int .int, .int .int c.leadingOut⟩,
    ⟨"c", .pointer (.float kind) false, .pointer (.float kind) (.address c.out)⟩,
    ⟨"beta", .float kind, .float kind beta⟩, ⟨"ldb", .int .int, .int .int c.leadingB⟩,
    ⟨"b", .pointer (.float kind) true, .pointer (.float kind) (.address c.b)⟩,
    ⟨"lda", .int .int, .int .int c.leadingA⟩,
    ⟨"a", .pointer (.float kind) true, .pointer (.float kind) (.address c.a)⟩,
    ⟨"alpha", .float kind, .float kind alpha⟩, ⟨"K", .int .int, .int .int c.inner⟩,
    ⟨"N", .int .int, .int .int c.columns⟩, ⟨"M", .int .int, .int .int c.rows⟩,
    ⟨"gemm", .pointer .void false, .pointer .void (.address address.toNat)⟩]

/-- The local variables of the product kernel where threads run. -/
def teamLocals : List (Local M) :=
  ⟨"fn", Builtin.Product.routine, .pointer (.function .void) (.address address.toNat)⟩ ::
    sharedLocals M kind address c alpha beta

/-- What a thread passes to the routine for its columns. -/
def blockValues {Real : FloatKind → Type} (kind : FloatKind) (c : ProductCall)
    (alpha beta : Real kind) (first last : Nat) : List (Value Real) :=
  [.int .int Builtin.Product.rowMajor, .int .int Builtin.Product.noTranspose,
    .int .int Builtin.Product.noTranspose, .int .int c.rows, .int .int (last - first),
    .int .int c.inner, .float kind alpha, .pointer (.float kind) (.address c.a),
    .int .int c.leadingA, .pointer (.float kind) (.address (c.b + first * kind.bytes)),
    .int .int c.leadingB, .float kind beta,
    .pointer (.float kind) (.address (c.out + first * kind.bytes)), .int .int c.leadingOut]

variable {M kind address c alpha beta} {rank : Nat} {memory : M.Memory} {first last : Nat}
  {routine : List (Value M.Real) → Run M (Value M.Real)}

/-- What a thread of a team is run in. -/
abbrev threadContext (address : UInt64) (routine : List (Value M.Real) → Run M (Value M.Real))
    (rank : Nat) : Context M :=
  { sharedContext M address routine with team := ⟨M.team, rank⟩ }

/-- The state of a thread that knows where its columns begin and end. -/
def threadState (kind : FloatKind) (address : UInt64) (c : ProductCall) (alpha beta : M.Real kind)
    (memory : M.Memory) (first last : Nat) : RunState M :=
  ⟨memory, columnLocals (.int .int first) (.int .int last) ++
    teamLocals M kind address c alpha beta⟩

/-- A local variable of a thread has its value. -/
theorem eval_threadState {x : Local M}
    (h : (threadState kind address c alpha beta memory first last).locals.find?
      (·.name = x.name) = some x)
    (hscalar : x.type.isScalar = true) :
    (Expr.var x.name).eval (threadContext address routine rank)
        (threadState kind address c alpha beta memory first last) =
      .ok (x.value, threadState kind address c alpha beta memory first last) := by
  refine eval_var ?_ hscalar
  rwa [visible_all rfl]

/-- A thread passes its columns to the routine, on a machine that leaves the integers as they are. -/
theorem eval_blockCall_of_holds (hfirst : M.Holds first) (hlast : M.Holds last)
    (hcolumns : M.Holds (last - first)) :
    let s := threadState kind address c alpha beta memory first last
    Builtin.Product.blockCall.eval (threadContext address routine rank) s =
      routine (blockValues kind c alpha beta first last) s := by
  intro s
  let ctx : Context M := threadContext address routine rank
  have hvar : ∀ {x : Local M}, s.locals.find? (·.name = x.name) = some x →
      x.type.isScalar = true → (Expr.var x.name).eval ctx s = .ok (x.value, s) := eval_threadState
  have hfn := hvar (x := ⟨"fn", Builtin.Product.routine, _⟩) rfl rfl
  have hend := hvar (x := ⟨"end", .int .int, _⟩) rfl rfl
  have hbegin := hvar (x := ⟨"begin", .int .int, _⟩) rfl rfl
  have hb := hvar (x := ⟨"b", .pointer (.float kind) true, _⟩) rfl rfl
  have hc := hvar (x := ⟨"c", .pointer (.float kind) false, _⟩) rfl rfl
  have hrowMajor : (Builtin.intLit Builtin.Product.rowMajor).eval ctx s =
      .ok (.int .int Builtin.Product.rowMajor, s) := by
    rw [Builtin.intLit, Expr.eval]
    rfl
  have hnoTranspose : (Builtin.intLit Builtin.Product.noTranspose).eval ctx s =
      .ok (.int .int Builtin.Product.noTranspose, s) := by
    rw [Builtin.intLit, Expr.eval]
    rfl
  have hdifference : intOperation M .sub .int last .int first = .ok (.int .int (last - first)) := by
    have hkind : IntKind.int.rank ≤ (IntKind.int.common .int).rank := IntKind.rank_common .int .int
    simp only [intOperation, hfirst _ hkind, hlast _ hkind]
    change Except.ok (Value.int _ (M.wrap _ (last - first))) = _
    rw [hcolumns _ hkind]
    rfl
  have hcount : (Expr.binary .sub (.var "end") (.var "begin")).eval ctx s =
      .ok (.int .int (last - first), s) := by
    rw [Expr.eval, run_bind hend, run_bind hbegin]
    exact run_liftM hdifference
  have hright : (Expr.binary .add (.var "b") (.var "begin")).eval ctx s =
      .ok (.pointer (.float kind) (.address (c.b + first * kind.bytes)), s) := by
    rw [Expr.eval, run_bind hb, run_bind hbegin]
    rfl
  have hresult : (Expr.binary .add (.var "c") (.var "begin")).eval ctx s =
      .ok (.pointer (.float kind) (.address (c.out + first * kind.bytes)), s) := by
    rw [Expr.eval, run_bind hc, run_bind hbegin]
    rfl
  have hargs : List.Forall₂ (fun (e : Expr) v => e.eval ctx s = .ok (v, s)) _
      (blockValues kind c alpha beta first last) :=
    .cons hrowMajor <| .cons hnoTranspose <| .cons hnoTranspose <|
    .cons (hvar (x := ⟨"M", .int .int, _⟩) rfl rfl) <| .cons hcount <|
    .cons (hvar (x := ⟨"K", .int .int, _⟩) rfl rfl) <|
    .cons (hvar (x := ⟨"alpha", .float kind, _⟩) rfl rfl) <|
    .cons (hvar (x := ⟨"a", .pointer (.float kind) true, _⟩) rfl rfl) <|
    .cons (hvar (x := ⟨"lda", .int .int, _⟩) rfl rfl) <| .cons hright <|
    .cons (hvar (x := ⟨"ldb", .int .int, _⟩) rfl rfl) <|
    .cons (hvar (x := ⟨"beta", .float kind, _⟩) rfl rfl) <| .cons hresult <|
    .cons (hvar (x := ⟨"ldc", .int .int, _⟩) rfl rfl) .nil
  have hcall : ctx.call (.at address.toNat) ctx.team (blockValues kind c alpha beta first last) =
      routine (blockValues kind c alpha beta first last) := if_pos rfl
  exact (eval_call hfn rfl (evalAll_eq hargs)).trans (congrFun hcall s)

variable (hexact : M.IsExact)

include hexact

/-- The call runs the routine on the values of the block. -/
theorem eval_blockCall :
    let s := threadState kind address c alpha beta memory first last
    Builtin.Product.blockCall.eval (threadContext address routine rank) s =
      routine (blockValues kind c alpha beta first last) s :=
  eval_blockCall_of_holds (hexact.holds _) (hexact.holds _) (hexact.holds _)

/-- A thread asks for its columns. -/
theorem exec_partitionCall (hteam : 0 < M.team) :
    (Stmt.expr (.call (.var Builtin.Product.partitionName)
      [.var "N", .addressOf (.var "begin"), .addressOf (.var "end")])).exec
        (threadContext address routine rank) (threadState kind address c alpha beta memory 0 0) =
      .ok (.next, threadState kind address c alpha beta memory (begins c.columns M.team rank)
        (ends c.columns M.team rank)) := by
  let ctx : Context M := threadContext address routine rank
  let s : RunState M := threadState kind address c alpha beta memory 0 0
  have hcolumns : (Expr.var "N").eval ctx s = .ok (.int .int c.columns, s) :=
    eval_threadState (x := ⟨"N", .int .int, .int .int c.columns⟩) rfl rfl
  have hbegin : (Expr.addressOf (.var "begin")).eval ctx s =
      .ok (.pointer (.int .int) (.slot 13), s) := by
    rw [Expr.eval, Expr.place]
    exact (run_bind (lookup_local [⟨"end", .int .int, .int .int 0⟩]
      (x := ⟨"begin", .int .int, .int .int 0⟩) (Nat.zero_le _) (by simp))).trans rfl
  have hend : (Expr.addressOf (.var "end")).eval ctx s =
      .ok (.pointer (.int .int) (.slot 14), s) := by
    rw [Expr.eval, Expr.place]
    exact (run_bind (lookup_local [] (x := ⟨"end", .int .int, .int .int 0⟩) (Nat.zero_le _)
      (by simp))).trans rfl
  have hargs : Expr.evalAll [.var "N", .addressOf (.var "begin"), .addressOf (.var "end")] ctx s =
      .ok (_, s) := evalAll_eq (.cons hcolumns (.cons hbegin (.cons hend .nil)))
  have hlocal : (s.visible ctx).findIdx? (·.name = Builtin.Product.partitionName) = none := by
    rw [visible_all rfl]
    rfl
  have hname : (Expr.var Builtin.Product.partitionName).eval ctx s =
      .ok (.pointer (.function .void) (.function Builtin.Product.partitionName), s) :=
    eval_global hlocal rfl
  have hcall := (eval_call hname rfl hargs).trans (enter_partition memory (.int .int 0)
    (.int .int 0) (teamLocals M kind address c alpha beta) (.of_exact hexact _ _ _) hteam)
  exact exec_expr hcall

/-- A thread that has columns does what the routine does for them; one that has none does
nothing. -/
theorem performs_thread {inv : M.Memory → Prop} {step : M.Memory → Option M.Memory}
    (hteam : 0 < M.team)
    (hcalls : begins c.columns M.team rank < ends c.columns M.team rank → ∀ memory, inv memory →
      ∃ memory', step memory = some memory' ∧ inv memory' ∧ ∀ locals,
        routine (blockValues kind c alpha beta (begins c.columns M.team rank)
          (ends c.columns M.team rank)) ⟨memory, locals⟩ = .ok (.void, ⟨memory', locals⟩))
    (hnothing : ¬begins c.columns M.team rank < ends c.columns M.team rank → ∀ memory,
      step memory = some memory) :
    (Stmt.block Builtin.Product.threadBody).Performs (threadContext address routine rank)
      (teamLocals M kind address c alpha beta) inv step := by
  intro memory hinv
  let ctx : Context M := threadContext address routine rank
  let s (memory : M.Memory) : RunState M :=
    threadState kind address c alpha beta memory (begins c.columns M.team rank)
      (ends c.columns M.team rank)
  have hdeclare : (Stmt.declare [⟨"begin", .int .int, false, none⟩,
      ⟨"end", .int .int, false, none⟩]).exec ctx ⟨memory, teamLocals M kind address c alpha beta⟩ =
        .ok (.next, threadState kind address c alpha beta memory 0 0) := rfl
  have htest : (Expr.binary .lt (.var "begin") (.var "end")).Counts ctx (s memory)
      (if begins c.columns M.team rank < ends c.columns M.team rank then 1 else 0) := by
    have hbegin : (Expr.var "begin").Counts ctx (s memory) (begins c.columns M.team rank) :=
      ⟨.int, eval_threadState (x := ⟨"begin", .int .int, _⟩) rfl rfl⟩
    have hend : (Expr.var "end").Counts ctx (s memory) (ends c.columns M.team rank) :=
      ⟨.int, eval_threadState (x := ⟨"end", .int .int, _⟩) rfl rfl⟩
    have hlt := hbegin.lt hexact hend
    simpa only [Int.ofNat_lt] using hlt
  obtain ⟨memory', hstep, hinv', hblock⟩ : ∃ memory', step memory = some memory' ∧ inv memory' ∧
      (Stmt.ifElse (.binary .lt (.var "begin") (.var "end")) (.expr Builtin.Product.blockCall)
        .empty).exec ctx (s memory) = .ok (.next, s memory') := by
    rw [exec_ifElse htest]
    by_cases hlt : begins c.columns M.team rank < ends c.columns M.team rank
    · obtain ⟨memory', hstep, hinv', hcall⟩ := hcalls hlt memory hinv
      refine ⟨memory', hstep, hinv', ?_⟩
      have heval : Builtin.Product.blockCall.eval ctx (s memory) = .ok (.void, s memory') :=
        (eval_blockCall hexact).trans (hcall _)
      rw [if_pos hlt]
      exact inScope_of_ok (exec_expr heval) (List.suffix_refl _)
    · refine ⟨memory, hnothing hlt memory, hinv, ?_⟩
      rw [if_neg hlt]
      exact inScope_of_ok rfl (List.suffix_refl _)
  refine ⟨memory', hstep, hinv', ?_⟩
  have hbody : Stmt.execAll Builtin.Product.threadBody ctx
      ⟨memory, teamLocals M kind address c alpha beta⟩ = .ok (.next, s memory') :=
    (execAll_cons hdeclare).trans <| (execAll_cons (exec_partitionCall hexact hteam)).trans <|
      (execAll_cons hblock).trans execAll_nil
  rw [Stmt.exec]
  exact inScope_of_ok hbody (List.suffix_append _ _)

omit hexact

/-- The product kernel runs its threads one after the other. -/
theorem performs_kernel {inv : M.Memory → Prop} {step : Nat → M.Memory → Option M.Memory}
    (hthreads : ∀ rank ∈ M.order M.team, (Stmt.block Builtin.Product.threadBody).Performs
      (threadContext address routine rank) (teamLocals M kind address c alpha beta) inv
      (step rank)) :
    (Stmt.block Builtin.Product.body).Performs (sharedContext M address routine)
      (sharedLocals M kind address c alpha beta) inv
      (fun memory => (M.order M.team).foldlM (fun memory rank => step rank memory) memory) :=
  .block_declare
    [⟨"fn", Builtin.Product.routine, .pointer (.function .void) (.address address.toNat)⟩]
    (fun _ => rfl) (.parallel hthreads)

end Threads

/-! ### Calls of the kernel -/

section Kernel

variable {kind : FloatKind} {address : UInt64} {c : ProductCall} {alpha beta : M.Real kind}
  {routine : List (Value M.Real) → Run M (Value M.Real)} {type : ElementType}

/-- The product kernel for an element type. -/
def kernelFunction (type : ElementType) : Function :=
  Host.plainFunction Builtin.Product.kernelName (Builtin.Product.arguments type)
    Builtin.Product.body

/-- The arguments of the product kernel are its local variables. -/
theorem boundLocals_sharedValues (hexact : M.IsExact) (hconvert : ∀ x : M.Real kind, M.convert kind x = x)
    (address : UInt64) (c : ProductCall) (alpha beta : M.Real kind) (htype : type.cType = .float kind) :
    List.Forall₂ (fun p v => Value.convert (M := M) p.type v = .ok v) (kernelFunction type).params
        (sharedValues kind address c alpha beta) ∧
      boundLocals (M := M) (kernelFunction type).params (sharedValues kind address c alpha beta) =
        sharedLocals M kind address c alpha beta := by
  have hint := convert_int hexact .int
  have hnumber (x : M.Real kind) :
      Value.convert (M := M) (.float kind) (.float kind x) = .ok (.float kind x) := by
    rw [Value.convert, hconvert]
  cases type with
  | int32 | int64 => cases htype
  | float32 | float64 =>
    cases htype
    exact ⟨.cons rfl <| .cons (hint _) <| .cons (hint _) <| .cons (hint _) <|
      .cons (hnumber alpha) <| .cons rfl <| .cons (hint _) <| .cons rfl <| .cons (hint _) <|
      .cons (hnumber beta) <| .cons rfl <| .cons (hint _) .nil, rfl⟩

/-- A call of the product kernel does the steps of its threads one after the other. -/
theorem enter_kernel {inv : M.Memory → Prop} {step : Nat → M.Memory → Option M.Memory}
    {memory : M.Memory} (hexact : M.IsExact) (hconvert : ∀ x : M.Real kind, M.convert kind x = x)
    (htype : type.cType = .float kind)
    (hthreads : ∀ rank ∈ M.order M.team, (Stmt.block Builtin.Product.threadBody).Performs
      (threadContext address routine rank) (teamLocals M kind address c alpha beta) inv (step rank))
    (hinv : inv memory) :
    ∃ memory', (M.order M.team).foldlM (fun memory rank => step rank memory) memory = some memory' ∧
      inv memory' ∧
      Program.enter (kernelFunction type) (sharedContext M address routine)
        (sharedValues kind address c alpha beta) ⟨memory, []⟩ = .ok (.void, ⟨memory', []⟩) := by
  obtain ⟨hvalues, hlocals⟩ :=
    boundLocals_sharedValues hexact hconvert address c alpha beta htype
  have hbody : (kernelFunction type).body = [.block Builtin.Product.body] := rfl
  exact @enter_of_performs M memory (sharedLocals M kind address c alpha beta) _ _
    (sharedContext M address routine) _ inv _ hbody hvalues hlocals (performs_kernel hthreads) hinv

end Kernel

end Product

end KernelForge
