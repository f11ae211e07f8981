import KernelForge.Proofs.Packing.Elements
import KernelForge.Proofs.Storage.Addresses
import KernelForge.Template.Builtin

/-!
# Products of blocks of columns

A product routine replaces every element of the result by a value that depends on the factors, a row
of the left operand, a column of the right one and the element itself, and writes nothing else. A
call for a block of columns leaves alone what a call for other columns reads and writes. So blocks
that are computed one after the other, in any order, leave the memory that one call for all columns
leaves.
-/

namespace KernelForge

/-! ### Columns for threads -/

namespace Product

/-- The columns that a thread gets: equal shares, rounded up. -/
def chunk (columns threads : Nat) : Nat := (columns + threads - 1) / threads

/-- The first column of a thread. -/
def begins (columns threads rank : Nat) : Nat := min (rank * chunk columns threads) columns

/-- The column after the last one of a thread. -/
def ends (columns threads rank : Nat) : Nat :=
  min (begins columns threads rank + chunk columns threads) columns

/-- The columns of a thread. -/
def share (columns threads rank : Nat) : List Nat :=
  List.range' (begins columns threads rank)
    (ends columns threads rank - begins columns threads rank)

variable (columns threads rank : Nat)

/-- No thread ends before it begins. -/
theorem begins_le_ends : begins columns threads rank ≤ ends columns threads rank := by
  unfold ends begins
  omega

/-- No thread goes beyond the last column. -/
theorem ends_le : ends columns threads rank ≤ columns := Nat.min_le_right _ _

/-- A thread begins where the thread before it ends. -/
theorem begins_succ : begins columns threads (rank + 1) = ends columns threads rank := by
  rw [ends, begins, begins, Nat.succ_mul]
  omega

variable {columns threads}

/-- Later threads begin later. -/
theorem begins_le_begins {rank rank' : Nat} (h : rank ≤ rank') :
    begins columns threads rank ≤ begins columns threads rank' := by
  have hle := Nat.mul_le_mul_right (chunk columns threads) h
  unfold begins
  omega

/-- The chunks of all threads are enough for all columns. -/
theorem le_mul_chunk (h : 0 < threads) : columns ≤ threads * chunk columns threads := by
  have hdivision := Nat.div_add_mod (columns + threads - 1) threads
  have hlt := Nat.mod_lt (columns + threads - 1) h
  unfold chunk
  omega

/-- The columns of the first threads, one thread after the other, are the first columns. -/
theorem flatMap_share (count : Nat) :
    (List.range count).flatMap (share columns threads) =
      List.range (begins columns threads count) := by
  induction count with
  | zero =>
    rw [begins, Nat.zero_mul, Nat.zero_min]
    rfl
  | succ count ih =>
    have hle : begins columns threads count ≤ ends columns threads count := begins_le_ends ..
    have hranges : List.range' 0 (begins columns threads count) ++
        List.range' (0 + begins columns threads count)
          (ends columns threads count - begins columns threads count) =
        List.range' 0 (begins columns threads count +
          (ends columns threads count - begins columns threads count)) := List.range'_append_1
    rw [Nat.zero_add, Nat.add_sub_cancel' hle] at hranges
    rw [List.range_succ, List.flatMap_append, ih, List.flatMap_singleton, begins_succ, share,
      List.range_eq_range', List.range_eq_range', hranges]

/-- The columns of all threads, one thread after the other, are all columns. -/
theorem flatMap_share_all (h : 0 < threads) :
    (List.range threads).flatMap (share columns threads) = List.range columns := by
  rw [flatMap_share, begins, Nat.min_eq_right (le_mul_chunk h)]

end Product

/-! ### Calls of a product routine -/

/-- The bytes of an element. -/
def Memory.entry (memory : Memory) (address width : Nat) : List UInt8 :=
  (memory.peek address width).getD []

/-- What a product routine is called on: the sizes, the factors as words, and for every operand its
address and the elements between the beginnings of its rows. -/
structure ProductCall where
  rows : Nat
  columns : Nat
  inner : Nat
  alpha : Nat
  a : Nat
  leadingA : Nat
  b : Nat
  leadingB : Nat
  beta : Nat
  out : Nat
  leadingOut : Nat

/-- The value of an element of a product, of the two factors, a row of the left operand, a column of
the right one, and the element before. -/
abbrev ElementRule := Nat → Nat → List (List UInt8) → List (List UInt8) → List UInt8 → List UInt8

namespace ProductCall

variable (call : ProductCall) (width : Nat)

/-- The argument list of the routine. -/
def words : List Nat :=
  [Builtin.Product.rowMajor, Builtin.Product.noTranspose, Builtin.Product.noTranspose, call.rows,
    call.columns, call.inner, call.alpha, call.a, call.leadingA, call.b, call.leadingB, call.beta,
    call.out, call.leadingOut]

/-- The address of an element of the left operand. -/
def inA (i k : Nat) : Nat := call.a + (i * call.leadingA + k) * width

/-- The address of an element of the right operand. -/
def inB (k j : Nat) : Nat := call.b + (k * call.leadingB + j) * width

/-- The address of an element of the result. -/
def inOut (i j : Nat) : Nat := call.out + (i * call.leadingOut + j) * width

/-- What an element of the result is replaced by. -/
def element (rule : ElementRule) (memory : Memory) (i j : Nat) : List UInt8 :=
  rule call.alpha call.beta
    ((List.range call.inner).map fun k => memory.entry (call.inA width i k) width)
    ((List.range call.inner).map fun k => memory.entry (call.inB width k j) width)
    (memory.entry (call.inOut width i j) width)

/-- The operands of a call lie in allocations that are held, and that of the result is no other's.
No size is zero or too large for the routine, and rows do not run into each other. -/
structure Placed (x y z : Allocation) (memory : Memory) : Prop where
  wellFormed : memory.WellFormed
  held : memory.Holds x ∧ memory.Holds y ∧ memory.Holds z
  apart : z.index ≠ x.index ∧ z.index ≠ y.index
  inside_a : ∀ i < call.rows, ∀ k < call.inner, x.Covers (call.inA width i k) width
  inside_b : ∀ k < call.inner, ∀ j < call.columns, y.Covers (call.inB width k j) width
  inside_out : ∀ i < call.rows, ∀ j < call.columns, z.Covers (call.inOut width i j) width
  positive : 0 < call.rows ∧ 0 < call.columns ∧ 0 < call.inner
  leading : call.inner ≤ call.leadingA ∧ call.columns ≤ call.leadingB ∧
    call.columns ≤ call.leadingOut
  small : call.rows < twoPow 31 ∧ call.leadingA < twoPow 31 ∧ call.leadingB < twoPow 31 ∧
    call.leadingOut < twoPow 31

/-- The sizes of a call are positive and values of type `int`, and rows do not run into each other. -/
structure Sized : Prop where
  positive : 0 < call.rows ∧ 0 < call.columns ∧ 0 < call.inner ∧ 0 < call.leadingA ∧
    0 < call.leadingB ∧ 0 < call.leadingOut
  small : call.rows < twoPow 31 ∧ call.columns < twoPow 31 ∧ call.inner < twoPow 31 ∧
    call.leadingA < twoPow 31 ∧ call.leadingB < twoPow 31 ∧ call.leadingOut < twoPow 31
  leading : call.inner ≤ call.leadingA ∧ call.columns ≤ call.leadingB ∧
    call.columns ≤ call.leadingOut

/-- Every element that a call touches lies in the allocation of its operand. -/
structure Inside (x y z : Allocation) : Prop where
  inside_a : ∀ i < call.rows, ∀ k < call.inner, x.Covers (call.inA width i k) width
  inside_b : ∀ k < call.inner, ∀ j < call.columns, y.Covers (call.inB width k j) width
  inside_out : ∀ i < call.rows, ∀ j < call.columns, z.Covers (call.inOut width i j) width

/-- A memory in which the elements of some columns of the result have been replaced, by values of an
earlier memory, and nothing else has changed. -/
structure Computes (rule : ElementRule) (columns : List Nat) (memory memory' : Memory) : Prop where
  wellFormed : memory'.WellFormed
  older : memory'.Extends memory
  replaced : ∀ i < call.rows, ∀ j ∈ columns,
    memory'.peek (call.inOut width i j) width = some (call.element width rule memory i j)
  rest : ∀ address length,
    (∀ i < call.rows, ∀ j ∈ columns, Apart address length (call.inOut width i j) width) →
      memory'.peek address length = memory.peek address length

/-- The call for a block of columns. -/
def block (start count : Nat) : ProductCall :=
  { call with columns := count, b := call.b + start * width, out := call.out + start * width }

end ProductCall

/-- A routine that computes products: whenever the operands of a call are in place, it replaces
every element of the result by what a rule gives for it, and writes nothing else. -/
def IsProduct (routine : List Nat → Memory → Option Memory) (width : Nat) (rule : ElementRule) :
    Prop :=
  ∀ (call : ProductCall) (x y z : Allocation) (memory : Memory), call.Placed width x y z memory →
    ∃ memory', routine call.words memory = some memory' ∧
      call.Computes width rule (List.range call.columns) memory memory'

namespace ProductCall

variable {call : ProductCall} {width : Nat} {x y z : Allocation} {memory memory' memory'' : Memory}
  {rule : ElementRule} {columns columns' : List Nat} {start count : Nat}

/-! ### Blocks of columns -/

/-- A column of a block is one of the right factor, as many columns further on. -/
theorem inB_block (k j : Nat) :
    (call.block width start count).inB width k j = call.inB width k (start + j) := by
  simp only [inB, block]
  rw [Nat.add_assoc, ← Nat.add_mul, Nat.add_left_comm]

/-- So it is in the result. -/
theorem inOut_block (i j : Nat) :
    (call.block width start count).inOut width i j = call.inOut width i (start + j) := by
  simp only [inOut, block]
  rw [Nat.add_assoc, ← Nat.add_mul, Nat.add_left_comm]

/-- A block has as good sizes as the whole call. -/
theorem Sized.block (h : call.Sized) (hpos : 0 < count) (hle : start + count ≤ call.columns) :
    (call.block width start count).Sized := by
  obtain ⟨hrows, -, hinner, hleads⟩ := h.positive
  obtain ⟨hrowsSmall, hcolumnsSmall, hinnerSmall, hleadsSmall⟩ := h.small
  obtain ⟨hA, hB, hout⟩ := h.leading
  have hcount : count ≤ call.columns := by omega
  exact ⟨⟨hrows, hpos, hinner, hleads⟩,
    ⟨hrowsSmall, Nat.lt_of_le_of_lt hcount hcolumnsSmall, hinnerSmall, hleadsSmall⟩,
    ⟨hA, Nat.le_trans hcount hB, Nat.le_trans hcount hout⟩⟩

/-- A block stays in the allocations, although it begins in the middle of a row. -/
theorem Inside.block (h : call.Inside width x y z) (hle : start + count ≤ call.columns) :
    (call.block width start count).Inside width x y z where
  inside_a := h.inside_a
  inside_b k hk j hj := by
    have hlt : start + j < call.columns := Nat.lt_of_lt_of_le (Nat.add_lt_add_left hj start) hle
    rw [inB_block]
    exact h.inside_b k hk _ hlt
  inside_out i hi j hj := by
    have hlt : start + j < call.columns := Nat.lt_of_lt_of_le (Nat.add_lt_add_left hj start) hle
    rw [inOut_block]
    exact h.inside_out i hi _ hlt

/-- Operands that are in place lie in their allocations. -/
theorem Placed.inside (h : call.Placed width x y z memory) : call.Inside width x y z :=
  ⟨h.inside_a, h.inside_b, h.inside_out⟩

/-- Their sizes are positive and small, and fit the leading dimensions. -/
theorem Placed.sized (h : call.Placed width x y z memory) : call.Sized := by
  obtain ⟨hrows, hcolumns, hinner⟩ := h.positive
  obtain ⟨hA, hB, hout⟩ := h.leading
  obtain ⟨hrowsSmall, hsmallA, hsmallB, hsmallOut⟩ := h.small
  refine ⟨?_, ?_, h.leading⟩ <;> omega

/-- The operands of a block are in place. -/
theorem Placed.block (h : call.Placed width x y z memory) (hpos : 0 < count)
    (hle : start + count ≤ call.columns) :
    (call.block width start count).Placed width x y z memory where
  wellFormed := h.wellFormed
  held := h.held
  apart := h.apart
  inside_a := h.inside_a
  inside_b := (h.inside.block hle).inside_b
  inside_out := (h.inside.block hle).inside_out
  positive := ⟨h.positive.1, hpos, h.positive.2.2⟩
  leading := (h.sized.block hpos hle).leading
  small := h.small

/-- What a block replaces its elements by is what the whole call does. -/
theorem element_block (i j : Nat) :
    (call.block width start count).element width rule memory i j =
      call.element width rule memory i (start + j) := by
  simp only [element, inB_block, inOut_block]
  rfl

/-- A call for a block computes the columns of the block. -/
theorem Computes.of_block
    (h : (call.block width start count).Computes width rule (List.range count) memory memory') :
    call.Computes width rule (List.range' start count) memory memory' where
  wellFormed := h.wellFormed
  older := h.older
  replaced i hi j hj := by
    obtain ⟨hle, hlt⟩ := List.mem_range'_1.mp hj
    obtain ⟨j, rfl⟩ := Nat.exists_eq_add_of_le hle
    have hmem : j ∈ List.range count := List.mem_range.mpr (Nat.lt_of_add_lt_add_left hlt)
    have hreplaced := h.replaced i hi j hmem
    rwa [inOut_block, element_block] at hreplaced
  rest address length hapart := by
    refine h.rest address length fun i hi j hj => ?_
    rw [inOut_block]
    have hlt : start + j < start + count := Nat.add_lt_add_left (List.mem_range.mp hj) start
    exact hapart i hi _ (List.mem_range'_1.mpr ⟨Nat.le_add_right _ _, hlt⟩)

/-! ### One block after the other -/

/-- Different elements of the result are apart. -/
theorem Placed.inOut_apart (h : call.Placed width x y z memory) {i i' j j' : Nat}
    (hj : j < call.columns) (hj' : j' < call.columns) (hne : ¬(i = i' ∧ j = j')) :
    Apart (call.inOut width i j) width (call.inOut width i' j') width := by
  have hlt : j < call.leadingOut := Nat.lt_of_lt_of_le hj h.leading.2.2
  have hlt' : j' < call.leadingOut := Nat.lt_of_lt_of_le hj' h.leading.2.2
  obtain ⟨hdiv, hmod⟩ := ViewElement.div_mod_mul_add (a := i) hlt
  obtain ⟨hdiv', hmod'⟩ := ViewElement.div_mod_mul_add (a := i') hlt'
  refine apart_elements fun heq => hne ?_
  rw [heq] at hdiv hmod
  exact ⟨hdiv.symm.trans hdiv', hmod.symm.trans hmod'⟩

/-- The operands are in place in every later memory. -/
theorem Placed.later (h : call.Placed width x y z memory) (hwellFormed : memory'.WellFormed)
    (holder : memory'.Extends memory) : call.Placed width x y z memory' where
  wellFormed := hwellFormed
  held := ⟨h.held.1.extend holder, h.held.2.1.extend holder, h.held.2.2.extend holder⟩
  apart := h.apart
  inside_a := h.inside_a
  inside_b := h.inside_b
  inside_out := h.inside_out
  positive := h.positive
  leading := h.leading
  small := h.small

/-- Replacing some columns changes nothing that another column is computed from. -/
theorem Computes.element_eq (h : call.Computes width rule columns memory memory')
    (hplaced : call.Placed width x y z memory) (hcolumns : ∀ j ∈ columns, j < call.columns)
    {i j : Nat} (hi : i < call.rows) (hj : j < call.columns) (hother : j ∉ columns) :
    call.element width rule memory' i j = call.element width rule memory i j := by
  obtain ⟨hx, hy, hz⟩ := hplaced.held
  have hA : ∀ k < call.inner,
      memory'.entry (call.inA width i k) width = memory.entry (call.inA width i k) width := by
    intro k hk
    rw [Memory.entry, Memory.entry, h.rest]
    intro i' hi' j' hj'
    exact hplaced.wellFormed.apart_of_covers hx hz hplaced.apart.1.symm (hplaced.inside_a i hi k hk)
      (hplaced.inside_out i' hi' j' (hcolumns j' hj'))
  have hB : ∀ k < call.inner,
      memory'.entry (call.inB width k j) width = memory.entry (call.inB width k j) width := by
    intro k hk
    rw [Memory.entry, Memory.entry, h.rest]
    intro i' hi' j' hj'
    exact hplaced.wellFormed.apart_of_covers hy hz hplaced.apart.2.symm (hplaced.inside_b k hk j hj)
      (hplaced.inside_out i' hi' j' (hcolumns j' hj'))
  have hout : memory'.entry (call.inOut width i j) width =
      memory.entry (call.inOut width i j) width := by
    rw [Memory.entry, Memory.entry, h.rest]
    intro i' _ j' hj'
    exact hplaced.inOut_apart hj (hcolumns j' hj') fun heq => hother (heq.2 ▸ hj')
  rw [element, element, hout, List.map_congr_left fun k hk => hA k (List.mem_range.mp hk),
    List.map_congr_left fun k hk => hB k (List.mem_range.mp hk)]

/-- No columns are computed by doing nothing. -/
theorem Computes.nothing (h : memory.WellFormed) :
    call.Computes width rule [] memory memory where
  wellFormed := h
  older := .refl memory
  replaced _ _ _ hj := absurd hj List.not_mem_nil
  rest _ _ _ := rfl

/-- Columns that are replaced after other ones are replaced by what they are without those. -/
theorem Computes.append (h : call.Computes width rule columns memory memory')
    (h' : call.Computes width rule columns' memory' memory'')
    (hplaced : call.Placed width x y z memory) (hcolumns : ∀ j ∈ columns, j < call.columns)
    (hcolumns' : ∀ j ∈ columns', j < call.columns) (hdisjoint : ∀ j ∈ columns, j ∉ columns') :
    call.Computes width rule (columns ++ columns') memory memory'' where
  wellFormed := h'.wellFormed
  older := h'.older.trans h.older
  replaced i hi j hj := by
    rcases List.mem_append.mp hj with hj | hj
    · rw [h'.rest, h.replaced i hi j hj]
      intro i' _ j' hj'
      exact hplaced.inOut_apart (hcolumns j hj) (hcolumns' j' hj')
        fun heq => hdisjoint j hj (heq.2 ▸ hj')
    · have hother : j ∉ columns := fun hmem => hdisjoint j hmem hj
      rw [h'.replaced i hi j hj, h.element_eq hplaced hcolumns hi (hcolumns' j hj) hother]
  rest address length hapart := by
    rw [h'.rest address length fun i hi j hj => hapart i hi j (List.mem_append_right _ hj),
      h.rest address length fun i hi j hj => hapart i hi j (List.mem_append_left _ hj)]

/-- Only which columns are replaced matters. -/
theorem Computes.congr (h : call.Computes width rule columns memory memory')
    (hcolumns : ∀ j, j ∈ columns' ↔ j ∈ columns) :
    call.Computes width rule columns' memory memory' where
  wellFormed := h.wellFormed
  older := h.older
  replaced i hi j hj := h.replaced i hi j ((hcolumns j).mp hj)
  rest address length hapart :=
    h.rest address length fun i hi j hj => hapart i hi j ((hcolumns j).mpr hj)

/-! ### The memory that is left -/

/-- Two memories in which the same columns have been replaced are equal byte for byte. -/
theorem Computes.peek_eq {first second : Memory}
    (h : call.Computes width rule columns memory first)
    (h' : call.Computes width rule columns memory second)
    (hplaced : call.Placed width x y z memory) (hcolumns : ∀ j ∈ columns, j < call.columns)
    (address : Nat) : first.peek address 1 = second.peek address 1 := by
  by_cases hinside : ∃ i < call.rows, ∃ j ∈ columns,
      call.inOut width i j ≤ address ∧ address < call.inOut width i j + width
  · obtain ⟨i, hi, j, hj, hbyte⟩ := hinside
    have hz := hplaced.held.2.2
    have hsame : first.peek (call.inOut width i j) width =
        second.peek (call.inOut width i j) width :=
      (h.replaced i hi j hj).trans (h'.replaced i hi j hj).symm
    exact h.wellFormed.peek_byte_eq h'.wellFormed (hz.extend h.older)
      (hplaced.inside_out i hi j (hcolumns j hj)) hsame hbyte
  · have hapart : ∀ i < call.rows, ∀ j ∈ columns,
        Apart address 1 (call.inOut width i j) width :=
      fun i hi j hj => apart_byte fun hbyte => hinside ⟨i, hi, j, hj, hbyte⟩
    rw [h.rest address 1 hapart, h'.rest address 1 hapart]

/-! ### Shares of threads -/

/-- What a thread does: it calls the routine for its columns, unless it has none. -/
def shareStep (call : ProductCall) (width : Nat) (routine : List Nat → Memory → Option Memory)
    (threads rank : Nat) (memory : Memory) : Option Memory :=
  let first := Product.begins call.columns threads rank
  let last := Product.ends call.columns threads rank
  if first < last then routine (call.block width first (last - first)).words memory else some memory

/-- A thread computes its columns. -/
theorem Placed.shareStep (h : call.Placed width x y z memory)
    {routine : List Nat → Memory → Option Memory} (hroutine : IsProduct routine width rule)
    (threads rank : Nat) :
    ∃ memory', call.shareStep width routine threads rank memory = some memory' ∧
      call.Computes width rule (Product.share call.columns threads rank) memory memory' := by
  have hle := Product.ends_le call.columns threads rank
  unfold ProductCall.shareStep Product.share
  generalize Product.begins call.columns threads rank = first
  generalize Product.ends call.columns threads rank = last at hle ⊢
  by_cases hlt : first < last
  · have hinside : first + (last - first) ≤ call.columns := by omega
    have hblock := h.block (Nat.sub_pos_of_lt hlt) hinside
    obtain ⟨memory', hcall, hcomputes⟩ := hroutine _ _ _ _ _ hblock
    exact ⟨memory', (if_pos hlt).trans hcall, hcomputes.of_block⟩
  · refine ⟨memory, if_neg hlt, ?_⟩
    rw [Nat.sub_eq_zero_of_le (Nat.le_of_not_lt hlt)]
    exact .nothing h.wellFormed

/-- The columns of a thread are columns of the product. -/
theorem mem_share_lt {threads rank j : Nat} (h : j ∈ Product.share call.columns threads rank) :
    j < call.columns := by
  have hle := Product.ends_le call.columns threads rank
  have hbegins := Product.begins_le_ends call.columns threads rank
  obtain ⟨-, hlt⟩ := List.mem_range'_1.mp h
  omega

/-- Threads that run one after the other compute the columns of all of them. -/
theorem Placed.shareSteps (h : call.Placed width x y z memory)
    {routine : List Nat → Memory → Option Memory} (hroutine : IsProduct routine width rule)
    (threads : Nat) {ranks : List Nat}
    (hnodup : (ranks.flatMap (Product.share call.columns threads)).Nodup) :
    ∃ memory', ranks.foldlM (fun memory rank => call.shareStep width routine threads rank memory)
        memory = some memory' ∧
      call.Computes width rule (ranks.flatMap (Product.share call.columns threads)) memory
        memory' := by
  induction ranks generalizing memory with
  | nil => exact ⟨memory, rfl, .nothing h.wellFormed⟩
  | cons rank ranks ih =>
    rw [List.flatMap_cons, List.nodup_append'] at hnodup
    obtain ⟨-, hrest, hdisjoint⟩ := hnodup
    obtain ⟨middle, hstep, hfirst⟩ := h.shareStep hroutine threads rank
    obtain ⟨memory', hsteps, hothers⟩ := ih (h.later hfirst.wellFormed hfirst.older) hrest
    refine ⟨memory', ?_, ?_⟩
    · rw [List.foldlM_cons, hstep]
      exact hsteps
    · refine hfirst.append hothers h (fun j hj => mem_share_lt hj) (fun j hj => ?_) hdisjoint
      obtain ⟨rank', -, hj⟩ := List.mem_flatMap.mp hj
      exact mem_share_lt hj

/-- A team of threads computes all columns, in whatever order the threads run. -/
theorem Placed.team (h : call.Placed width x y z memory)
    {routine : List Nat → Memory → Option Memory} (hroutine : IsProduct routine width rule)
    {threads : Nat} (hthreads : 0 < threads) {ranks : List Nat}
    (hranks : ranks.Perm (List.range threads)) :
    ∃ memory', ranks.foldlM (fun memory rank => call.shareStep width routine threads rank memory)
        memory = some memory' ∧
      call.Computes width rule (List.range call.columns) memory memory' := by
  have hperm : (ranks.flatMap (Product.share call.columns threads)).Perm
      (List.range call.columns) := by
    rw [← Product.flatMap_share_all hthreads]
    exact hranks.flatMap_right _
  obtain ⟨memory', hsteps, hcomputes⟩ :=
    h.shareSteps hroutine threads (hperm.nodup_iff.mpr List.nodup_range)
  exact ⟨memory', hsteps, hcomputes.congr fun j => hperm.mem_iff.symm⟩

end ProductCall

end KernelForge
