import KernelForge.Proofs.Padding.Invariant

/-!
# Views of sessions

The rows of a block are as far apart as those of its matrix unless strides are given. A block that fits
then has its elements in columns of the matrix, so a view never reaches padding. Its exchange matrix
has as many rows as a block has elements, and no padding of its own.
-/

namespace KernelForge

/-! ### Blocks -/

/-- The rows of a block are as far apart as those of its matrix. -/
theorem View.stride_of_mem_blocks {matrices : List Matrix} {rowMap columnMap : List UInt64}
    {b : Block} (hb : b ∈ blocks matrices rowMap columnMap none) :
    b.stride = b.matrix.layout.leading := by
  obtain ⟨i, hi⟩ := List.mem_iff_getElem?.mp hb
  rw [getElem?_blocks, blockAt?] at hi
  obtain ⟨matrix, -, hi⟩ := Option.bind_eq_some_iff.mp hi
  obtain ⟨row, -, hi⟩ := Option.bind_eq_some_iff.mp hi
  obtain ⟨column, -, hi⟩ := Option.bind_eq_some_iff.mp hi
  cases hi
  rfl

namespace Block.Fits

variable {b : Block} {rows columns : UInt64} {memory : Memory}

/-- An element of a block with the stride of its matrix is an element of the matrix. -/
theorem element_entry (hfits : b.Fits rows columns) (hm : b.matrix.Owned memory)
    (h : memory.WellFormed) (hstride : b.stride = b.matrix.layout.leading) {r c : Nat}
    (hr : r < rows.toNat) (hc : c < columns.toNat) :
    b.matrix.ElementAt (elementAddress b.kept b.matrix.elementType.bytes r c) := by
  have hcolumns := hfits.columns_le
  have hend := hfits.end_le
  rw [hstride] at hend
  have hrows : (b.row.toNat + r) * b.matrix.layout.leading.toNat <
      b.matrix.layout.rows.toNat * b.matrix.layout.leading.toNat := by
    have hle : r * b.matrix.layout.leading.toNat ≤ (rows.toNat - 1) * b.matrix.layout.leading.toNat :=
      Nat.mul_le_mul_right _ (by omega)
    rw [Nat.mul_comm b.matrix.layout.rows.toNat, Nat.add_mul]
    omega
  refine ⟨b.row.toNat + r, b.column.toNat + c, Nat.lt_of_mul_lt_mul_right hrows, by omega, ?_⟩
  have hnumber : b.first + (r * b.matrix.layout.leading.toNat + c) =
      (b.row.toNat + r) * b.matrix.layout.leading.toNat + (b.column.toNat + c) := by
    rw [first, Nat.add_mul]
    omega
  rw [hfits.elementAddress_kept hm h, hstride, hnumber]
  rfl

end Block.Fits

/-! ### Exchange views -/

namespace ExchangeView

variable {allocator : Allocator} {matrices : List Matrix} {rowMap columnMap : List UInt64}
  {rows columns : UInt64} {memory made : Memory} {v : ExchangeView}

/-- What is known of a new exchange view of matrices that own their elements. -/
structure Fresh (v : ExchangeView) (matrices : List Matrix) (before after : Memory) : Prop where
  owned : v.exchange.Owned after
  shaped : v.Shaped
  cleared : v.exchange.Cleared before after
  exchange_new : before.buffers.size ≤ v.exchange.storage.index
  mapping_new : before.buffers.size ≤ v.view.mapping.index
  strides_new : before.buffers.size ≤ v.view.strides.index
  stands : ∃ placed, v.Stands after placed ∧
    ∀ e, v.Has e → ∃ m ∈ matrices, m.ElementAt (v.inView placed e)

/-- A new exchange view of blocks whose rows are as far apart as those of their matrices. -/
theorem fresh_of_create (hexact : allocator.Exact) (h : memory.WellFormed)
    (hm : ∀ m ∈ matrices, m.Owned memory)
    (hcreate :
      create allocator matrices rowMap columnMap none rows columns memory = .ok (v, made)) :
    v.Fresh matrices memory made := by
  obtain ⟨middle, hview, -, hmatrix⟩ := create_eq_ok_iff.mp hcreate
  obtain ⟨hrecords, hmiddle, hextends, -⟩ := View.create_records h hm hview
  have hallocate := (Matrix.create_eq_ok_iff.mp hmatrix).2
  have hnew := View.create_new h hview
  have hadded := hmiddle.added hallocate
  have howned := (create_made hexact h hcreate).owned
  have hexchange := Matrix.cleared_of_allocate hmiddle hallocate howned
  have hsize : memory.buffers.size ≤ middle.buffers.size := by
    have hlt := hrecords.mapping_held.index_lt
    have hmapping := hnew.mapping_new
    omega
  refine ⟨howned, create_shaped h hcreate,
    ⟨hexchange.wellFormed, hexchange.older.trans hextends, fun a ha hne => ?_, hexchange.padding⟩,
    hsize.trans (Nat.le_of_eq hadded.index_eq.symm), hnew.mapping_new, hnew.strides_new, _,
    create_stands hexact h hm hcreate, fun e he => ?_⟩
  · rw [hexchange.buffer_eq a (ha.extend hextends) hne, View.create_buffer_eq h hview ha]
  · obtain ⟨b, hb, -, hfit, hr, hc, hplace⟩ := create_block h hm hcreate he
    have hmem := View.matrix_mem_of_mem_blocks hb
    rw [hplace]
    exact ⟨_, hmem, hfit.element_entry (hm _ hmem) h (View.stride_of_mem_blocks hb) hr hc⟩

end ExchangeView

namespace Padding.State.Sound

variable {R : Type} [Ring R] {s : State R} {v : ExchangeView} {matrices : List Matrix}
  {memory : Memory}

/-- A session stays sound with a new exchange view of its matrices. -/
theorem insertExchange (h : s.Sound) (reading : Reading R) (hmatrices : ∀ m ∈ matrices, m ∈ s.matrices)
    (hfresh : v.Fresh matrices s.exact.memory memory) :
    (⟨s.exact.reread reading v.exchange memory, v.exchange :: s.matrices, v :: s.views⟩ :
      State R).Sound := by
  obtain ⟨placed, hstands, helement⟩ := hfresh.stands
  refine (h.insert reading hfresh.cleared hfresh.owned hfresh.exchange_new).insertView
    ⟨List.mem_cons_self, hfresh.shaped, hstands, fun m hm => ?_, fun e he => ?_⟩
  · rcases List.mem_cons.mp hm with rfl | hm
    · exact ⟨hstands.mapping_ne, hstands.strides_ne⟩
    · have hlt := (h.owned m hm).held.index_lt
      have hmapping := hfresh.mapping_new
      have hstrides := hfresh.strides_new
      exact ⟨by omega, by omega⟩
  · obtain ⟨m, hm, hentry⟩ := helement e he
    exact ⟨m, List.mem_cons_of_mem _ (hmatrices m hm), hentry⟩

end Padding.State.Sound

end KernelForge
