import Mathlib.Data.List.Nodup

/-!
# The elements of the blocks of a view

An element of a view is known by its block and its row and column there. Numbered with the block as
the last digit, then the column, then the row, the elements fill the places of an exchange matrix
exactly, in whatever order the blocks come.
-/

namespace KernelForge

/-- An element of a view: the number of its block, and its row and column there. -/
structure ViewElement where
  block : Nat
  row : Nat
  column : Nat

namespace ViewElement

variable {blocks : List Nat} {count rows columns : Nat} {e e' : ViewElement}

/-- An element of one of so many blocks with so many rows and columns. -/
structure Within (e : ViewElement) (count rows columns : Nat) : Prop where
  block_lt : e.block < count
  row_lt : e.row < rows
  column_lt : e.column < columns

/-- The number of an element in the exchange matrix: the block is a column, flattened row by row. -/
def slot (e : ViewElement) (count columns : Nat) : Nat := (e.row * columns + e.column) * count + e.block

/-- The elements of blocks, each block by its rows. -/
def ofBlocks (blocks : List Nat) (rows columns : Nat) : List ViewElement :=
  blocks.flatMap fun i => (List.range rows).flatMap fun r => (List.range columns).map fun c =>
    ⟨i, r, c⟩

/-- The elements of blocks are those within their rows and columns. -/
theorem mem_ofBlocks :
    e ∈ ofBlocks blocks rows columns ↔ e.block ∈ blocks ∧ e.row < rows ∧ e.column < columns := by
  simp only [ofBlocks, List.mem_flatMap, List.mem_map, List.mem_range]
  constructor
  · rintro ⟨i, hi, r, hr, c, hc, rfl⟩
    exact ⟨hi, hr, hc⟩
  · rintro ⟨hi, hr, hc⟩
    exact ⟨_, hi, _, hr, _, hc, rfl⟩

/-- No element comes twice if no block does. -/
theorem nodup_ofBlocks (h : blocks.Nodup) : (ofBlocks blocks rows columns).Nodup := by
  refine List.pairwise_flatMap.mpr ⟨fun i _ => List.pairwise_flatMap.mpr ⟨fun r _ => ?_, ?_⟩, ?_⟩
  · refine List.Nodup.map (fun c c' heq => ?_) List.nodup_range
    exact congrArg column heq
  · refine List.nodup_range.imp fun hne e he e' he' heq => hne ?_
    obtain ⟨c, -, rfl⟩ := List.mem_map.mp he
    obtain ⟨c', -, rfl⟩ := List.mem_map.mp he'
    exact congrArg row heq
  · refine h.imp fun hne e he e' he' heq => hne ?_
    obtain ⟨r, -, he⟩ := List.mem_flatMap.mp he
    obtain ⟨r', -, he'⟩ := List.mem_flatMap.mp he'
    obtain ⟨c, -, rfl⟩ := List.mem_map.mp he
    obtain ⟨c', -, rfl⟩ := List.mem_map.mp he'
    exact congrArg block heq

/-- The blocks in an order, then the rows and the columns: three loops, one in the other. -/
theorem foldlM_ofBlocks {S : Type} (f : S → ViewElement → Option S) (s : S) :
    (ofBlocks blocks rows columns).foldlM f s =
      blocks.foldlM (fun s i => (List.range rows).foldlM (fun s r =>
        (List.range columns).foldlM (fun s c => f s ⟨i, r, c⟩) s) s) s := by
  have hflatMap : ∀ (is : List Nat) (g : Nat → List ViewElement) (s : S),
      (is.flatMap g).foldlM f s = is.foldlM (fun s i => (g i).foldlM f s) s := by
    intro is g
    induction is with
    | nil => exact fun s => rfl
    | cons i rest ih =>
      intro s
      rw [List.flatMap_cons, List.foldlM_append, List.foldlM_cons]
      exact congrArg _ (funext ih)
  simp only [ofBlocks, hflatMap, List.foldlM_map]

/-! ### Places in the exchange matrix -/

/-- Digits that are in range give a number in range. -/
theorem mul_add_lt {a b m n : Nat} (ha : a < m) (hb : b < n) : a * n + b < m * n := by
  have hle : (a + 1) * n ≤ m * n := Nat.mul_le_mul_right n ha
  rw [Nat.succ_mul] at hle
  omega

/-- Digits that are in range are found again. -/
theorem div_mod_mul_add {a b n : Nat} (hb : b < n) : (a * n + b) / n = a ∧ (a * n + b) % n = b := by
  constructor
  · rw [Nat.add_comm, Nat.add_mul_div_right _ _ (Nat.zero_lt_of_lt hb), Nat.div_eq_of_lt hb,
      Nat.zero_add]
  · rw [Nat.mul_comm, Nat.mul_add_mod, Nat.mod_eq_of_lt hb]

/-- An element of a view has a slot among as many as there are elements. -/
theorem Within.slot_lt (h : e.Within count rows columns) :
    e.slot count columns < rows * columns * count :=
  mul_add_lt (mul_add_lt h.row_lt h.column_lt) h.block_lt

/-- Different elements have different places. -/
theorem Within.slot_injective (h : e.Within count rows columns) (h' : e'.Within count rows columns)
    (heq : e.slot count columns = e'.slot count columns) : e = e' := by
  obtain ⟨i, r, c⟩ := e
  obtain ⟨i', r', c'⟩ := e'
  obtain ⟨hdiv, hmod⟩ := div_mod_mul_add (a := r * columns + c) h.block_lt
  obtain ⟨hdiv', hmod'⟩ := div_mod_mul_add (a := r' * columns + c') h'.block_lt
  obtain ⟨hrow, hcolumn⟩ := div_mod_mul_add (a := r) h.column_lt
  obtain ⟨hrow', hcolumn'⟩ := div_mod_mul_add (a := r') h'.column_lt
  change (r * columns + c) * count + i = (r' * columns + c') * count + i' at heq
  simp only [] at hdiv hmod hdiv' hmod' hrow hcolumn hrow' hcolumn'
  have hblock : i = i' := by rw [← hmod, heq, hmod']
  have hplace : r * columns + c = r' * columns + c' := by rw [← hdiv, heq, hdiv']
  have hr : r = r' := by rw [← hrow, hplace, hrow']
  have hc : c = c' := by rw [← hcolumn, hplace, hcolumn']
  rw [hblock, hr, hc]

/-- Every place belongs to an element. -/
theorem exists_slot_eq {k : Nat} (hk : k < rows * columns * count) :
    ∃ e : ViewElement, e.Within count rows columns ∧ e.slot count columns = k := by
  have hcount : 0 < count := Nat.pos_of_mul_pos_left (Nat.zero_lt_of_lt hk)
  have hplace : k / count < rows * columns := (Nat.div_lt_iff_lt_mul hcount).mpr hk
  have hcolumns : 0 < columns := Nat.pos_of_mul_pos_left (Nat.zero_lt_of_lt hplace)
  refine ⟨⟨k % count, k / count / columns, k / count % columns⟩,
    ⟨Nat.mod_lt _ hcount, (Nat.div_lt_iff_lt_mul hcolumns).mpr hplace, Nat.mod_lt _ hcolumns⟩, ?_⟩
  change (k / count / columns * columns + k / count % columns) * count + k % count = k
  rw [Nat.div_add_mod', Nat.div_add_mod']

/-- The elements of all blocks, in any order of the blocks, fill the places of the exchange
matrix. -/
theorem perm_slots (h : blocks.Perm (List.range count)) :
    ((ofBlocks blocks rows columns).map (·.slot count columns)).Perm
      (List.range (rows * columns * count)) := by
  have hwithin : ∀ e ∈ ofBlocks blocks rows columns, e.Within count rows columns := by
    intro e he
    obtain ⟨hblock, hrow, hcolumn⟩ := mem_ofBlocks.mp he
    exact ⟨List.mem_range.mp (h.mem_iff.mp hblock), hrow, hcolumn⟩
  have hnodup : (ofBlocks blocks rows columns).Nodup :=
    nodup_ofBlocks (h.nodup_iff.mpr List.nodup_range)
  refine (List.perm_ext_iff_of_nodup ?_ List.nodup_range).mpr fun k => ?_
  · exact hnodup.map_on fun e he e' he' heq => (hwithin e he).slot_injective (hwithin e' he') heq
  · rw [List.mem_map, List.mem_range]
    constructor
    · rintro ⟨e, he, rfl⟩
      exact (hwithin e he).slot_lt
    · intro hk
      obtain ⟨e, he, rfl⟩ := exists_slot_eq hk
      have hblock : e.block ∈ blocks := h.mem_iff.mpr (List.mem_range.mpr he.block_lt)
      exact ⟨e, mem_ofBlocks.mpr ⟨hblock, he.row_lt, he.column_lt⟩, rfl⟩

end ViewElement

end KernelForge
