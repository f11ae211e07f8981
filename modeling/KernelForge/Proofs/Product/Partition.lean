import KernelForge.Proofs.Product.Sharing

/-!
# Columns for all threads

On a machine with bytes, the ranges that the threads of a team get follow each other and together are
all columns, whatever the sizes are.
-/

namespace KernelForge

open Code

namespace Product

/-- A machine with exact integers for code that calls a library. -/
def teamMachine (order : Nat → List Nat) (team : Nat) : Machine :=
  { movingMachine order with
    Memory := Memory
    load := fun memory type address =>
      if 0 ≤ address then
        (memory.peek address.toNat type.bytes).bind fun bytes => type.ofBytes (fun _ b => b) bytes
      else none
    store := fun memory address value =>
      if 0 ≤ address then value.bytes?.bind (memory.poke address.toNat) else none
    team := team }

variable {order : Nat → List Nat} {team : Nat}

/-- The machine does not cut integers. -/
theorem teamMachine_isExact : (teamMachine order team).IsExact := fun _ _ => rfl

/-- The two local variables of a thread in which its columns begin and end. -/
def threadLocals (first last : Value fun _ => List UInt8) : List (Local (teamMachine order team)) :=
  [⟨"end", .int .int, last⟩, ⟨"begin", .int .int, first⟩]

/-! ### Ranges -/

/-- Runs the function that shares the columns for one thread of a team, and gives the values that
its two variables get. -/
def runPartition (columns threads rank : Nat) (memory : Memory) :
    Except Fault (List (Value fun _ => List UInt8)) :=
  (Program.enter partitionFunction
      (partitionContext (teamMachine List.range threads) ⟨threads, rank⟩)
      [.int .int columns, .pointer (.int .int) (.slot 0), .pointer (.int .int) (.slot 1)]
      ⟨memory, threadLocals (.int .int 0) (.int .int 0)⟩).map
    fun result => result.2.locals.reverse.map (·.value)

/-- The columns are shared out: the function gives every thread a range, the ranges follow each
other in the order of the threads, and together they are all columns. -/
structure Partitions (columns threads : Nat) (first last : Nat → Nat) : Prop where
  given : ∀ rank < threads, ∀ memory, runPartition columns threads rank memory =
    .ok [.int .int (first rank), .int .int (last rank)]
  ordered : ∀ rank < threads, first rank ≤ last rank
  disjoint : ∀ rank rank', rank < rank' → rank' < threads → last rank ≤ first rank'
  covered : ∀ j, j < columns ↔ ∃ rank < threads, first rank ≤ j ∧ j < last rank

/-- The columns are shared out, for any number of columns and threads. -/
theorem partitions {threads : Nat} (columns : Nat) (h : 0 < threads) :
    Partitions columns threads (begins columns threads) (ends columns threads) where
  given rank _ memory :=
    congrArg (Except.map _) (@enter_partition (teamMachine List.range threads) columns threads rank
      memory (.int .int 0) (.int .int 0) [] (.of_exact teamMachine_isExact _ _ _) h)
  ordered rank _ := begins_le_ends columns threads rank
  disjoint rank rank' hlt _ := by
    rw [← begins_succ]
    exact begins_le_begins hlt
  covered j := by
    rw [← List.mem_range, ← flatMap_share_all h, List.mem_flatMap]
    simp only [List.mem_range, share, List.mem_range'_1]
    have hle := begins_le_ends columns threads
    constructor
    · rintro ⟨rank, hrank, hbegin, hend⟩
      exact ⟨rank, hrank, hbegin, by omega⟩
    · rintro ⟨rank, hrank, hbegin, hend⟩
      exact ⟨rank, hrank, hbegin, by omega⟩

end Product

end KernelForge
