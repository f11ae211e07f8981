import KernelForge.Proofs.Packing.Elements
import KernelForge.Proofs.Storage.Exchange

/-!
# Slots of an exchange matrix

An exchange matrix has a slot for every element of a view: a row for each element of a block and a
column for each block. The product that counts its rows is not checked. It does not overflow for blocks
whose rows lie apart, since the end of their last row was found to be a 64-bit number, but it can for
blocks whose rows lie on each other. Where it overflows, or the product for the bytes, no view is made
and the program ends. A view that was made has all its slots.
-/

namespace KernelForge

/-- The number of elements of a block that is placed is a 64-bit number, unless its rows overlap. -/
theorem Block.Checked.elements_lt {b : Block} {rows columns : UInt64} (h : b.Checked rows columns)
    (hstride : columns.toNat ≤ b.stride.toNat) : rows.toNat * columns.toNat < twoPow 64 := by
  have hend := h.end_lt
  have hrows : (rows.toNat - 1) * columns.toNat ≤ (rows.toNat - 1) * b.stride.toNat :=
    Nat.mul_le_mul_left _ hstride
  rcases Nat.eq_zero_or_pos rows.toNat with hzero | hpos
  · rw [hzero, Nat.zero_mul]
    exact twoPow_pos 64
  · have hlast : rows.toNat * columns.toNat = (rows.toNat - 1) * columns.toNat + columns.toNat := by
      rw [← Nat.succ_mul, Nat.succ_eq_add_one, Nat.sub_add_cancel hpos]
    omega

/-! ### New exchange views -/

namespace ExchangeView

variable {allocator : Allocator} {matrices : List Matrix} {rowMap columnMap : List UInt64}
  {strides? : Option (List UInt64)} {rows columns : UInt64} {memory memory' : Memory}
  {v : ExchangeView}

/-- The bytes of the slots of a view. -/
def slotBytes (count : Nat) (rows columns : UInt64) (type : ElementType) : Nat :=
  rows.toNat * columns.toNat * count * type.bytes

/-- A new view has as many blocks as matrices were given. -/
theorem count_of_create (h : memory.WellFormed) {view : View}
    (hview : View.create allocator matrices rowMap columnMap strides? rows columns memory =
      .ok (view, memory')) :
    view.count = matrices.length ∧ (UInt64.ofNat view.count).toNat = matrices.length := by
  obtain ⟨hrecords, hmemory, -, -, hdescribed, -⟩ := View.create_places h hview
  have hcount : view.count = matrices.length := by
    rw [hrecords.count_eq, List.length_map, View.length_blocks hdescribed.rowMap_length
      hdescribed.columnMap_length hdescribed.strides_length]
  exact ⟨hcount, (hrecords.toNat_count hmemory).trans hcount⟩

/-- The product for the rows of an exchange matrix does not overflow if the rows of some block lie
apart. -/
theorem blockElements_of_stride (h : memory.WellFormed) {view : View}
    (hview : View.create allocator matrices rowMap columnMap strides? rows columns memory =
      .ok (view, memory'))
    (hstride : ∃ b ∈ View.blocks matrices rowMap columnMap strides?, columns.toNat ≤ b.stride.toNat) :
    blockElements rows columns = .ok (rows * columns) := by
  obtain ⟨-, -, -, -, -, hchecked⟩ := View.create_places h hview
  obtain ⟨b, hb, hapart⟩ := hstride
  exact blockElements_eq_ok.mpr ⟨(hchecked b hb).elements_lt hapart, rfl⟩

/-- Where the bytes of the slots are not a 64-bit number, the program ends once the view is there. -/
theorem create_overflows (h : memory.WellFormed) {view : View}
    (hview : View.create allocator matrices rowMap columnMap strides? rows columns memory =
      .ok (view, memory'))
    (hoverflow : twoPow 64 ≤ slotBytes matrices.length rows columns view.elementType) :
    create allocator matrices rowMap columnMap strides? rows columns memory =
      .error (.overflow "multiply") := by
  obtain ⟨-, hcount⟩ := count_of_create h hview
  obtain ⟨-, -, -, -, hdescribed, -⟩ := View.create_places h hview
  refine (request_bind hview).trans ?_
  by_cases hlt : rows.toNat * columns.toNat < twoPow 64
  · have helements : (rows * columns).toNat = rows.toNat * columns.toNat :=
      (UInt64.toNat_mul ..).trans (Nat.mod_eq_of_lt hlt)
    have hpos := hdescribed.matrices_pos
    have haccepted : Layout.Accepted (rows * columns) (UInt64.ofNat view.count)
        (UInt64.ofNat view.count) (UInt64.ofNat view.count) := by
      refine ⟨?_, by omega, Nat.le_refl _, by omega, Nat.le_refl _⟩
      rw [helements]
      exact Nat.mul_pos hdescribed.rows_pos hdescribed.columns_pos
    have hmake : Layout.make view.elementType (rows * columns) (UInt64.ofNat view.count) none none
        .dense = .error (.overflow "multiply") := by
      refine Layout.make_overflows haccepted ?_
      simp only [Option.getD_none]
      rw [helements, hcount, Nat.mul_comm matrices.length]
      exact hoverflow
    have helementsOk : (liftM (blockElements rows columns) : MemoryM UInt64) memory' =
        .ok (rows * columns, memory') := by
      rw [blockElements_eq_ok.mpr ⟨hlt, rfl⟩]
      rfl
    refine (request_bind helementsOk).trans ?_
    exact request_bind_error (Matrix.create_of_make_error hmake)
  · rw [blockElements, if_neg hlt]
    rfl

/-- The exchange matrix of a view that was made has a row for each element of a block and a column for
each block, and its leading dimension and its stride are as many as its columns. Its allocation has
the bytes of all slots, so every slot lies in it. Where these bytes are not a 64-bit number no view is
made and the program ends. The product for the rows alone does not overflow if the rows of some block
lie apart. -/
theorem created_slots (hexact : allocator.Exact) (h : memory.WellFormed) :
    (∀ v memory',
      create allocator matrices rowMap columnMap strides? rows columns memory = .ok (v, memory') →
      v.exchange.layout.rows.toNat = rows.toNat * columns.toNat ∧
      v.exchange.layout.columns.toNat = matrices.length ∧
      v.exchange.layout.leading.toNat = matrices.length ∧
      v.exchange.layout.subLeading.toNat = matrices.length ∧
      v.exchange.storage.size = slotBytes matrices.length rows columns v.view.elementType ∧
      ∀ e : ViewElement, e.Within matrices.length rows.toNat columns.toNat →
        (e.slot matrices.length columns.toNat + 1) * v.view.elementType.bytes ≤
          v.exchange.storage.size) ∧
    ∀ view memory',
      View.create allocator matrices rowMap columnMap strides? rows columns memory =
        .ok (view, memory') →
      (twoPow 64 ≤ slotBytes matrices.length rows columns view.elementType →
        create allocator matrices rowMap columnMap strides? rows columns memory =
          .error (.overflow "multiply")) ∧
      ((∃ b ∈ View.blocks matrices rowMap columnMap strides?, columns.toNat ≤ b.stride.toNat) →
        blockElements rows columns = .ok (rows * columns)) := by
  refine ⟨fun v memory' hcreate => ?_, fun view memory' hview =>
    ⟨create_overflows h hview, blockElements_of_stride h hview⟩⟩
  obtain ⟨middle, hview, -⟩ := create_eq_ok_iff.mp hcreate
  obtain ⟨hcount, hword⟩ := count_of_create h hview
  have hnew := View.create_new h hview
  have hshape := create_shaped h hcreate
  have howned := (create_made hexact h hcreate).owned
  have hrows := hshape.rows_eq
  rw [hnew.rows_eq, hnew.columns_eq] at hrows
  have hleading := hshape.leading_eq.trans hcount
  have hsize : v.exchange.storage.size =
      slotBytes matrices.length rows columns v.view.elementType := by
    rw [howned.size_eq, hleading, hrows, hshape.type_eq, Nat.mul_comm matrices.length]
    rfl
  refine ⟨hrows, (congrArg UInt64.toNat hshape.columns_eq).trans hleading, hleading,
    (congrArg UInt64.toNat hshape.subLeading_eq).trans hword, hsize, fun e he => ?_⟩
  rw [hsize]
  exact Nat.mul_le_mul_right _ he.slot_lt

/-- The slots of two overlapping blocks of two rows and columns, the rows of one of which lie on each
other. -/
theorem overlappingBlocks_slots :
    Allocator.host.Exact ∧ View.tiledMemory.WellFormed ∧ ∃ v memory',
      create .host [View.tiledMatrix, View.tiledMatrix] [0, 1] [1, 2] (some [4, 0]) 2 2
        View.tiledMemory = .ok (v, memory') ∧
      v.exchange.layout.rows.toNat = 4 ∧ v.exchange.layout.columns.toNat = 2 ∧
      ∀ e : ViewElement, e.Within 2 2 2 → (e.slot 2 2 + 1) * 8 ≤ v.exchange.storage.size := by
  have hcreate : create .host [View.tiledMatrix, View.tiledMatrix] [0, 1] [1, 2] (some [4, 0]) 2 2
      View.tiledMemory = .ok (_, _) := rfl
  obtain ⟨hmade, -⟩ := created_slots Allocator.host_exact View.wellFormed_tiledMemory
  obtain ⟨hrows, hcolumns, -, -, -, hslots⟩ := hmade _ _ hcreate
  exact ⟨Allocator.host_exact, View.wellFormed_tiledMemory, _, _, hcreate, hrows, hcolumns, hslots⟩

-- A block whose rows lie on each other can have more elements than a 64-bit number counts.
example : create .host [View.tiledMatrix] [0] [0] (some [0]) 9223372036854775809 2 View.tiledMemory =
    .error (.overflow "multiply") := rfl

end ExchangeView

end KernelForge
