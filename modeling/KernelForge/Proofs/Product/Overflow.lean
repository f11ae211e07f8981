import KernelForge.Proofs.Code.Integers
import KernelForge.Proofs.Product.Partition

/-!
# Sharing columns in 32-bit integers

Source computes the columns of a thread in values of type `int`. The greatest number that it computes
is the sum of the columns and the threads, from which the rounded-up quotient is formed. So nothing
overflows exactly if this sum is a value of the type. It is not for every number of columns that is
one, and then the ranges that are computed need not have any column.
-/

namespace KernelForge

open Code

/-! ### Integers of type `int` -/

/-- A natural number that is a value of type `int` is one of every type that arithmetic is done
in. -/
theorem Code.IntKind.wrap_of_lt {k : Nat} (h : k < twoPow 31) {kind : IntKind}
    (hkind : IntKind.int.rank ≤ kind.rank) : kind.wrap k = k := by
  have hbits : twoPow 31 = 2147483648 := rfl
  have hword : twoPow 32 = 4294967296 := rfl
  have hlong : twoPow 64 = 18446744073709551616 := rfl
  have hwide : twoPow 128 = 340282366920938463463374607431768211456 := rfl
  cases kind
  case bool | char | naturalChar | signedChar | unsignedChar | short | unsignedShort =>
    exact absurd hkind (by decide)
  all_goals
    simp [wrap, isSigned, bits, Int.bmod, hword, hlong, hwide]
    omega

namespace Product

/-- A machine on which the integers of all types have their widths, for code that calls a
library. -/
def wordMachine (team : Nat) : Machine :=
  { teamMachine List.range team with wrap := IntKind.wrap }

/-- The machine holds the natural numbers that an `int` has. -/
theorem wordMachine_holds {team k : Nat} (h : k < twoPow 31) : (wordMachine team).Holds (k : Int) :=
  fun _ hkind => IntKind.wrap_of_lt h hkind

/-! ### The greatest number -/

section Bounds

variable {columns threads rank : Nat}

/-- The chunks of all threads take less than one column more for each thread. -/
theorem mul_chunk_le : threads * chunk columns threads ≤ columns + threads - 1 := Nat.mul_div_le ..

/-- What the chunks of a thread and of those before it take. -/
theorem mul_chunk_add_le (hrank : rank < threads) :
    rank * chunk columns threads + chunk columns threads ≤ columns + threads - 1 := by
  rw [← Nat.succ_mul]
  exact Nat.le_trans (Nat.mul_le_mul_right _ hrank) mul_chunk_le

/-- A machine that leaves all numbers as they are up to the sum of columns and threads can share the
columns. -/
theorem HoldsShare.of_le {M : Machine} (hrank : rank < threads)
    (hholds : ∀ k : Nat, k ≤ columns + threads → M.Holds k) : HoldsShare M columns threads rank := by
  have hchunk : _ ≤ columns + threads - 1 := mul_chunk_add_le hrank
  have hbegins : begins columns threads rank ≤ rank * chunk columns threads := Nat.min_le_left ..
  have hends := ends_le columns threads rank
  have hdifference : (columns : Int) + threads - (1 : Nat) = (columns + threads - 1 : Nat) := by omega
  refine ⟨hholds _ (by omega), hholds _ (by omega), hholds _ (by omega), ?_, hholds _ (by omega), ?_,
    hholds _ (by omega), ?_, hholds _ (by omega), ?_, hholds _ (by omega)⟩
  · exact hholds (columns + threads) (Nat.le_refl _)
  · rw [hdifference]
    exact hholds _ (by omega)
  · exact Int.natCast_mul .. ▸ hholds (rank * chunk columns threads) (by omega)
  · exact Int.natCast_add .. ▸
      hholds (begins columns threads rank + chunk columns threads) (by omega)

/-! ### What is computed -/

variable (columns threads rank) in
/-- The integers that the function that shares the columns computes for a thread. -/
def shareIntegers : List Nat :=
  [threads, rank] ++
    [columns, threads, columns + threads, 1, columns + threads - 1, threads,
      chunk columns threads] ++
    [rank, chunk columns threads, rank * chunk columns threads, columns,
      if rank * chunk columns threads < columns then 1 else 0] ++
    [begins columns threads rank, chunk columns threads,
      begins columns threads rank + chunk columns threads, columns,
      if begins columns threads rank + chunk columns threads < columns then 1 else 0]

/-- The sum of columns and threads is the greatest of them. -/
theorem le_of_mem_shareIntegers (hrank : rank < threads) :
    ∀ k ∈ shareIntegers columns threads rank, k ≤ columns + threads := by
  have hchunk : _ ≤ columns + threads - 1 := mul_chunk_add_le hrank
  have hbegins : begins columns threads rank ≤ rank * chunk columns threads := Nat.min_le_left ..
  simp only [shareIntegers, List.forall_mem_append, List.forall_mem_cons, List.not_mem_nil,
    false_imp_iff, implies_true, and_true]
  split <;> split <;> omega

/-- The number of columns and threads together is computed. -/
theorem sum_mem_shareIntegers : columns + threads ∈ shareIntegers columns threads rank := by
  simp [shareIntegers]

section Statements

variable {M : Machine} (hexact : M.IsExact) (memory : M.Memory) (first last : Value M.Real)
  (below : List (Local M)) {n : Int}

include hexact

/-- The numbers of the threads and of the thread. -/
theorem computes_partition_team :
    (Builtin.Product.partitionBody[0]).Computes (sharingContext threads rank below) n
        (partitionState columns threads rank memory first last below 3) ↔
      Listed [threads, rank] n := by
  have hshare : HoldsShare M columns threads rank := .of_exact hexact ..
  have hvisible := visible_partitionState columns threads rank memory first last below
  have hnth : (Expr.call (.var "omp_get_num_threads") []).Tallies (sharingContext threads rank below)
      (partitionState columns threads rank memory first last below 3) threads [threads] :=
    .call ((congrArg _ (hvisible 3)).trans rfl) rfl rfl
  have htid : (Expr.call (.var "omp_get_thread_num") []).Tallies (sharingContext threads rank below)
      (partitionState columns threads rank memory first last below 2) rank [rank] :=
    .call ((congrArg _ (hvisible 2)).trans rfl) rfl rfl
  refine (Stmt.computes_declare_cons
    (declare_nth memory first last below hshare.holds_threads)).trans ?_
  rw [Stmt.computes_declare_cons (declare_tid memory first last below hshare.holds_rank),
    Variable.computes_iff rfl rfl hnth hshare.holds_threads,
    Variable.computes_iff rfl rfl htid hshare.holds_rank, ← List.singleton_append (l := [rank]),
    listed_append]
  simp only [Stmt.not_computes_declare_nil, or_false]

/-- The quotient. -/
theorem computes_partition_chunk (h : 0 < threads) :
    (Builtin.Product.partitionBody[1]).Computes (sharingContext threads rank below) n
        (partitionState columns threads rank memory first last below 1) ↔
      Listed [columns, threads, columns + threads, 1, columns + threads - 1, threads,
        chunk columns threads] n := by
  have hshare : HoldsShare M columns threads rank := .of_exact hexact ..
  obtain ⟨hn, hnth, -⟩ := counts_partition columns threads rank memory first last below
  have hsum := (Expr.Tallies.var hn).add hexact (.var hnth)
  have hdifference := hsum.sub hexact (.literal 1 .int) (Nat.le_add_left_of_le h)
  have hchunk := hdifference.paren.div hexact (.var hnth) h
  refine (Stmt.computes_declare_cons (declareVariable_int hshare.holds_chunk hchunk.counts)).trans ?_
  exact (or_iff_left Stmt.not_computes_declare_nil).trans
    (Variable.computes_iff rfl rfl hchunk hshare.holds_chunk)

/-- Where the columns begin. -/
theorem computes_partition_begin :
    (Builtin.Product.partitionBody[2]).Computes (sharingContext threads rank below) n
        (partitionState columns threads rank memory first last below 0) ↔
      Listed [rank, chunk columns threads, rank * chunk columns threads, columns,
        if rank * chunk columns threads < columns then 1 else 0] n := by
  obtain ⟨-, -, hn, htid, hchunk⟩ := counts_partition columns threads rank memory first last below
  obtain ⟨hbegin, -⟩ := eval_partition_pointers columns threads rank memory first last below
  have hvalue := ((Expr.Tallies.var htid).mul hexact (.var hchunk)).smaller hexact (.var hn)
  have hpointer := Expr.Yields.var hbegin fun _ => Value.not_isInt_pointer
  refine Expr.computes_assign_deref hpointer ⟨_, (run_bind hbegin).trans rfl⟩ hvalue
    (eval_assign_deref (hexact.holds _)
      (partitionLocals M columns threads rank below.length ++ [⟨"end", .int .int, last⟩]) hbegin
      hvalue.counts) (Value.isInt_int.mpr rfl)

/-- Where they end. -/
theorem computes_partition_end :
    (Builtin.Product.partitionBody[3]).Computes (sharingContext threads rank below) n
        (partitionState columns threads rank memory (.int .int (begins columns threads rank)) last
          below 0) ↔
      Listed [begins columns threads rank, chunk columns threads,
        begins columns threads rank + chunk columns threads, columns,
        if begins columns threads rank + chunk columns threads < columns then 1 else 0] n := by
  obtain ⟨-, -, hn, -, hchunk⟩ := counts_partition columns threads rank memory
    (.int .int (begins columns threads rank)) last below
  obtain ⟨hbegin, hend⟩ := eval_partition_pointers columns threads rank memory
    (.int .int (begins columns threads rank)) last below
  have hfirst := Expr.Tallies.deref (.var hbegin fun _ => Value.not_isInt_pointer)
    (.deref (partitionLocals M columns threads rank below.length ++ [⟨"end", .int .int, last⟩]) hbegin)
  have hvalue := (hfirst.add hexact (.var hchunk)).smaller hexact (.var hn)
  exact Expr.computes_assign_deref (.var hend fun _ => Value.not_isInt_pointer)
    ⟨_, (run_bind hend).trans rfl⟩ hvalue
    (eval_assign_deref (hexact.holds _) (partitionLocals M columns threads rank below.length) hend
      hvalue.counts) (Value.isInt_int.mpr rfl)

/-- The integers that a thread computes to find its columns. -/
theorem partition_computes_iff (h : 0 < threads) :
    partitionFunction.Computes (partitionContext M ⟨threads, rank⟩)
        [.int .int columns, .pointer (.int .int) (.slot below.length),
          .pointer (.int .int) (.slot (below.length + 1))]
        ⟨memory, columnLocals first last ++ below⟩ n ↔
      Listed (shareIntegers columns threads rank) n := by
  have hshare : HoldsShare M columns threads rank := .of_exact hexact ..
  have hvalues : List.Forall₂ (fun p v => Value.convert p.type v = .ok v) partitionFunction.params
      [.int .int columns, .pointer (.int .int) (.slot below.length),
        .pointer (.int .int) (.slot (below.length + 1))] :=
    .cons (convert_int_of_holds hshare.holds_columns .int) (.cons rfl (.cons rfl .nil))
  have hstatements : Builtin.Product.partitionBody = [Builtin.Product.partitionBody[0],
      Builtin.Product.partitionBody[1], Builtin.Product.partitionBody[2],
      Builtin.Product.partitionBody[3]] := rfl
  have hbody : Stmt.SomeComputes (sharingContext threads rank below) n Builtin.Product.partitionBody
      (partitionState columns threads rank memory first last below 3) ↔
        Listed (shareIntegers columns threads rank) n := by
    rw [hstatements,
      Stmt.someComputes_cons (exec_partition_team memory first last below hshare.holds_threads
        hshare.holds_rank),
      Stmt.someComputes_cons (exec_partition_chunk memory first last below hshare h),
      Stmt.someComputes_cons (exec_partition_begin memory first last below hshare),
      Stmt.someComputes_cons (exec_partition_end memory last below hshare),
      computes_partition_team hexact, computes_partition_chunk hexact _ _ _ _ h,
      computes_partition_begin hexact, computes_partition_end hexact, shareIntegers]
    simp only [Stmt.not_someComputes_nil, or_false, listed_append, or_assoc]
  exact (after_iff (bindParams_eq_ok hvalues)).trans hbody

end Statements

end Bounds

/-! ### Ranges in words -/

/-- What a thread computes to find its columns is a value of type `int` throughout. -/
def KeepsInts (columns threads : Nat) : Prop :=
  ∀ rank < threads, ∀ memory first last n,
    partitionFunction.Computes (partitionContext (teamMachine List.range threads) ⟨threads, rank⟩)
        [.int .int columns, .pointer (.int .int) (.slot 0), .pointer (.int .int) (.slot 1)]
        ⟨memory, columnLocals first last⟩ n →
      IntKind.int.Has n

/-- Runs the function that shares the columns for one thread of a team, with integers that have their
widths, and gives the values that its two variables get. -/
def runWords (columns threads rank : Nat) (memory : Memory) :
    Except Fault (List (Value fun _ => List UInt8)) :=
  (Program.enter partitionFunction (partitionContext (wordMachine threads) ⟨threads, rank⟩)
      [.int .int columns, .pointer (.int .int) (.slot 0), .pointer (.int .int) (.slot 1)]
      ⟨memory, columnLocals (.int .int 0) (.int .int 0)⟩).map
    fun result => result.2.locals.reverse.map (·.value)

/-- A column is in the range that a thread gets. -/
def Takes (columns threads rank : Nat) (memory : Memory) (j : Nat) : Prop :=
  ∃ first last : Int, runWords columns threads rank memory =
    .ok [.int .int first, .int .int last] ∧ first ≤ j ∧ j < last

variable {columns threads : Nat}

/-- The sum of columns and threads decides if the integers are values of type `int`. -/
theorem keepsInts_iff (h : 0 < threads) :
    KeepsInts columns threads ↔ columns + threads < twoPow 31 := by
  have hcomputes {rank n first last} (memory : Memory) :=
    @partition_computes_iff columns threads rank (teamMachine List.range threads) teamMachine_isExact
      memory first last [] n h
  constructor
  · intro hkeeps
    exact IntKind.int_has_iff.mp (hkeeps 0 h Memory.empty .void .void _
      ((hcomputes _).mpr (.of_mem sum_mem_shareIntegers)))
  · rintro hlt rank hrank memory first last n hn
    obtain ⟨k, hk, rfl⟩ := (hcomputes memory).mp hn
    exact IntKind.int_has_iff.mpr (Nat.lt_of_le_of_lt (le_of_mem_shareIntegers hrank k hk) hlt)

/-- If the sum is a value of the type, threads get the ranges that mathematics gives. -/
theorem runWords_eq (hlt : columns + threads < twoPow 31) {rank : Nat} (hrank : rank < threads)
    (memory : Memory) : runWords columns threads rank memory =
      .ok [.int .int (begins columns threads rank), .int .int (ends columns threads rank)] := by
  have hshare : HoldsShare (wordMachine threads) columns threads rank :=
    .of_le hrank fun k hk => wordMachine_holds (Nat.lt_of_le_of_lt hk hlt)
  exact congrArg (Except.map _) (@enter_partition (wordMachine threads) columns threads rank memory
    (.int .int 0) (.int .int 0) [] hshare (Nat.zero_lt_of_lt hrank))

/-- Below the bound a thread takes the columns of its share. -/
theorem takes_iff (hlt : columns + threads < twoPow 31) {rank : Nat} (hrank : rank < threads)
    {memory : Memory} {j : Nat} : Takes columns threads rank memory j ↔
      begins columns threads rank ≤ j ∧ j < ends columns threads rank := by
  simp [Takes, runWords_eq hlt hrank, ← and_assoc]

/-- What threads compute in 32-bit integers to share columns overflows unless the sum of columns and
threads is one of these integers. If it is, every column is in the range of exactly one thread. -/
theorem partition_overflow_iff (h : 0 < threads) :
    (KeepsInts columns threads ↔ columns + threads < twoPow 31) ∧
      (columns + threads < twoPow 31 → ∀ memory,
        (∀ rank < threads, ∃ first last : Nat, first ≤ last ∧ last ≤ columns ∧
          runWords columns threads rank memory = .ok [.int .int first, .int .int last]) ∧
        ∀ j < columns, ∃! rank, rank < threads ∧ Takes columns threads rank memory j) := by
  refine ⟨keepsInts_iff h, fun hlt memory => ⟨fun rank hrank => ?_, fun j hj => ?_⟩⟩
  · exact ⟨_, _, begins_le_ends columns threads rank, ends_le columns threads rank,
      runWords_eq hlt hrank memory⟩
  · have hpartitions := partitions columns h
    obtain ⟨rank, hrank, hbegin, hend⟩ := (hpartitions.covered j).mp hj
    refine ⟨rank, ⟨hrank, (takes_iff hlt hrank).mpr ⟨hbegin, hend⟩⟩, ?_⟩
    rintro rank' ⟨hrank', htakes⟩
    obtain ⟨hbegin', hend'⟩ := (takes_iff hlt hrank').mp htakes
    rcases Nat.lt_trichotomy rank' rank with hlt | heq | hlt
    · exact absurd (hpartitions.disjoint rank' rank hlt hrank) (by omega)
    · exact heq
    · exact absurd (hpartitions.disjoint rank rank' hlt hrank') (by omega)

/-- Seven threads share as many columns as they can. -/
theorem sevenThreads_share :
    KeepsInts 2147483640 7 ∧ ∀ memory, ∀ j < 2147483640,
      ∃! rank, rank < 7 ∧ Takes 2147483640 7 rank memory j := by
  obtain ⟨hkeeps, hranges⟩ := @partition_overflow_iff 2147483640 7 (by decide)
  exact ⟨hkeeps.mpr (by decide), fun memory => (hranges (by decide) memory).2⟩

/-- What two threads get when the sum of columns and threads overflows. -/
theorem runWords_greatest {rank : Nat} {first last : Int}
    (h : rank = 0 ∧ first = 0 ∧ last = -1073741824 ∨
      rank = 1 ∧ first = -1073741824 ∧ last = -2147483648) (memory : Memory) :
    runWords 2147483647 2 rank memory = .ok [.int .int first, .int .int last] := by
  let M : Machine := wordMachine 2
  let ctx : Context M := sharingContext 2 rank []
  let s (undeclared : Nat) (first last : Int) : RunState M := ⟨memory,
    [⟨"chunk", .int .int, .int .int (-1073741824)⟩, ⟨"tid", .int .int, .int .int rank⟩,
      ⟨"nth", .int .int, .int .int (2 : Nat)⟩,
      ⟨"end", .pointer (.int .int) false, .pointer (.int .int) (.slot 1)⟩,
      ⟨"begin", .pointer (.int .int) false, .pointer (.int .int) (.slot 0)⟩,
      ⟨"n", .int .int, .int .int (2147483647 : Nat)⟩].drop undeclared ++
        columnLocals (.int .int first) (.int .int last)⟩
  have hrank : rank < twoPow 31 := Nat.lt_of_lt_of_le (by omega : rank < 2) (by decide)
  have hteam : (Builtin.Product.partitionBody[0]).exec ctx (s 3 0 0) = .ok (.next, s 1 0 0) :=
    @exec_partition_team M 2147483647 2 rank memory (.int .int 0) (.int .int 0) []
      (wordMachine_holds (by decide)) (wordMachine_holds hrank)
  have hchunk : (Builtin.Product.partitionBody[1]).exec ctx (s 1 0 0) = .ok (.next, s 0 0 0) := by
    obtain ⟨rfl, -⟩ | ⟨rfl, -⟩ := h <;> rfl
  have hbegin : (Builtin.Product.partitionBody[2]).exec ctx (s 0 0 0) =
      .ok (.next, s 0 first 0) := by
    obtain ⟨rfl, rfl, rfl⟩ | ⟨rfl, rfl, rfl⟩ := h <;> rfl
  have hend : (Builtin.Product.partitionBody[3]).exec ctx (s 0 first 0) =
      .ok (.next, s 0 first last) := by
    obtain ⟨rfl, rfl, rfl⟩ | ⟨rfl, rfl, rfl⟩ := h <;> rfl
  have hbody : Stmt.execAll Builtin.Product.partitionBody ctx (s 3 0 0) = .ok (.next, _) :=
    (execAll_cons hteam).trans <| (execAll_cons hchunk).trans <| (execAll_cons hbegin).trans <|
      (execAll_cons hend).trans execAll_nil
  have hvalues : List.Forall₂ (fun p v => Value.convert (M := M) p.type v = .ok v)
      partitionFunction.params [.int .int (2147483647 : Nat), .pointer (.int .int) (.slot 0),
        .pointer (.int .int) (.slot 1)] :=
    .cons (convert_int_of_holds (wordMachine_holds (by decide)) .int) (.cons rfl (.cons rfl .nil))
  exact congrArg (Except.map _) (@enter_eq_ok M memory
    (columnLocals (.int .int 0) (.int .int 0)) partitionFunction (partitionContext M ⟨2, rank⟩) _ _
    _ _ hvalues hbody rfl)

/-- Two threads overflow for the greatest number of columns, and neither of them gets any. -/
theorem twoThreads_overflow : ¬KeepsInts 2147483647 2 ∧
    ∀ rank < 2, ∀ memory j, ¬Takes 2147483647 2 rank memory j := by
  refine ⟨fun hkeeps => absurd ((keepsInts_iff (by decide)).mp hkeeps) (by decide), ?_⟩
  rintro rank hrank memory j ⟨first, last, hruns, hfirst, hlast⟩
  rcases (by omega : rank = 0 ∨ rank = 1) with rfl | rfl
  · cases (runWords_greatest (.inl ⟨rfl, rfl, rfl⟩) memory).symm.trans hruns
    omega
  · cases (runWords_greatest (.inr ⟨rfl, rfl, rfl⟩) memory).symm.trans hruns
    omega

end Product

end KernelForge
