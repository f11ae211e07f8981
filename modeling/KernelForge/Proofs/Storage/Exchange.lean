import KernelForge.Proofs.Storage.Addresses
import KernelForge.Proofs.Storage.Sizes
import KernelForge.Proofs.Storage.Views

/-!
# Exchange views in memory

An exchange view is made of three new buffers: the mapping and the strides of its view, and the
exchange matrix. Its blocks lie in buffers that were there before. So whatever is written to its
elements or to the exchange matrix, the view still stands: its buffers lead to the same elements.
-/

namespace KernelForge

/-! ### Views -/

namespace View

/-- The matrix of three rows of four elements was made in its memory. -/
theorem made_tiledMatrix : tiledMatrix.Made tiledMemory := by
  have hcreate : Matrix.create .host .float64 3 4 none none .dense .empty =
      .ok (tiledMatrix, tiledMemory) := rfl
  exact .create Allocator.host_exact Memory.wellFormed_empty hcreate

variable {allocator : Allocator} {matrices : List Matrix} {rowMap columnMap : List UInt64}
  {strides? : Option (List UInt64)} {rows columns : UInt64} {memory memory' : Memory} {view : View}
  {placed : List (UInt64 × Int32)}

/-- A new view has the shape that was asked for, and both of its buffers are new. -/
structure New (view : View) (earlier : Memory) (matrices : List Matrix) (rows columns : UInt64) :
    Prop where
  rows_eq : view.rows = rows
  columns_eq : view.columns = columns
  type_eq : ∀ m ∈ matrices, m.elementType = view.elementType
  mapping_new : earlier.buffers.size ≤ view.mapping.index
  strides_new : earlier.buffers.size ≤ view.strides.index

/-- A view that was made is new. -/
theorem create_new (h : memory.WellFormed)
    (hcreate : create allocator matrices rowMap columnMap strides? rows columns memory =
      .ok (view, memory')) : view.New memory matrices rows columns := by
  obtain ⟨hdescribed, first, placed, hfirst, -, hstore⟩ := create_eq_ok.mp hcreate
  obtain ⟨mapping, strides, middle, hadded, hadded', rfl⟩ := store_added h hstore
  have hindex := hadded'.index_eq
  have hsize := hadded.size_eq
  refine ⟨rfl, rfl, fun m hm => ?_, Nat.le_of_eq hadded.index_eq.symm, ?_⟩
  · exact hdescribed.types_eq m hm first (List.mem_of_mem_head? hfirst)
  · change memory.buffers.size ≤ strides.index
    omega

/-- No buffer changes when a view is made. -/
theorem create_buffer_eq (h : memory.WellFormed)
    (hcreate : create allocator matrices rowMap columnMap strides? rows columns memory =
      .ok (view, memory')) {a : Allocation} (ha : memory.Holds a) :
    memory'.buffer a = memory.buffer a := by
  obtain ⟨-, first, placed, -, -, hstore⟩ := create_eq_ok.mp hcreate
  obtain ⟨mapping, strides, middle, hfirst, hsecond, rfl⟩ := store_added h hstore
  rw [hsecond.buffer_eq a (ha.extend hfirst.older), hfirst.buffer_eq a ha]

/-- A view records the same places as long as its buffers stay as they are. -/
theorem Records.extend (h : view.Records memory placed) (hextends : memory'.Extends memory)
    (hmapping : memory'.buffer view.mapping = memory.buffer view.mapping)
    (hstrides : memory'.buffer view.strides = memory.buffer view.strides) :
    view.Records memory' placed where
  count_eq := h.count_eq
  mapping_held := h.mapping_held.extend hextends
  mapping_le := h.mapping_le
  mapping_read := hmapping ▸ h.mapping_read
  strides_held := h.strides_held.extend hextends
  strides_le := h.strides_le
  strides_read := hstrides ▸ h.strides_read

/-- The number of blocks of a view is a 64-bit number. -/
theorem Records.toNat_count (h : view.Records memory placed) (hmemory : memory.WellFormed) :
    (UInt64.ofNat view.count).toNat = view.count := by
  have hlimit := hmemory.end_le_limit h.mapping_held
  have hle := h.mapping_le
  have hcount := h.count_eq
  have hlt : Memory.limit < UInt64.size := by decide
  exact UInt64.toNat_ofNat_of_lt' (by omega)

/-- The address of a block is read from its place in the mapping. -/
theorem Records.peek_mapping (h : view.Records memory placed) (hmemory : memory.WellFormed) {i : Nat}
    (hi : i < placed.length) :
    memory.peek (view.mapping.address.toNat + 8 * i) 8 =
      some (littleEndian 8 placed[i].1.toNat) := by
  have hle := h.mapping_le
  rw [hmemory.peek h.mapping_held (by omega) (by omega)]
  have hread : (((memory.buffer view.mapping).read 0 (placed.length * 8)).drop (8 * i)).take 8 = _ :=
    Buffer.take_drop_read _ (by omega)
  have hentry := take_drop_flatMap (fun p : UInt64 × Int32 => length_littleEndian 8 p.1.toNat)
    placed hi
  rw [h.mapping_read, Nat.zero_add] at hread
  exact congrArg some (hread.symm.trans hentry)

/-- The stride of a block is read from its place in the strides. -/
theorem Records.peek_strides (h : view.Records memory placed) (hmemory : memory.WellFormed) {i : Nat}
    (hi : i < placed.length) :
    memory.peek (view.strides.address.toNat + 4 * i) 4 =
      some (ElementType.int32.encode placed[i].2) := by
  have hle := h.strides_le
  rw [hmemory.peek h.strides_held (by omega) (by omega)]
  have hread : (((memory.buffer view.strides).read 0 (placed.length * 4)).drop (4 * i)).take 4 = _ :=
    Buffer.take_drop_read _ (by omega)
  have hentry := take_drop_flatMap (fun p : UInt64 × Int32 => ElementType.int32.length_encode p.2)
    placed hi
  rw [h.strides_read, Nat.zero_add] at hread
  exact congrArg some (hread.symm.trans hentry)

end View

/-! ### Elements of blocks -/

/-- The address of an element of a block that begins at an address and whose rows are a stride
apart, for elements of a size. -/
def elementAddress (place : UInt64 × Int32) (size r c : Nat) : Nat :=
  (place.1.toNat + (r * place.2.toInt + c) * size : Int).toNat

/-- The address is the sum if rows go upwards. -/
theorem elementAddress_eq {place : UInt64 × Int32} (h : 0 ≤ place.2.toInt) (size r c : Nat) :
    (elementAddress place size r c : Int) =
      place.1.toNat + (r * place.2.toInt + c) * size := by
  have hrow : 0 ≤ (r : Int) * place.2.toInt := Int.mul_nonneg (Int.natCast_nonneg r) h
  have helement : 0 ≤ (r * place.2.toInt + c) * (size : Int) :=
    Int.mul_nonneg (by omega) (Int.natCast_nonneg size)
  exact Int.toNat_of_nonneg (by omega)

/-- An element of a block that fits is as many elements after the beginning of the allocation of its
matrix as the block says. -/
theorem Block.Fits.elementAddress_kept {b : Block} {rows columns : UInt64} {memory : Memory}
    (hfits : b.Fits rows columns) (hm : b.matrix.Owned memory) (h : memory.WellFormed) (r c : Nat) :
    elementAddress b.kept b.matrix.elementType.bytes r c = b.matrix.storage.address.toNat +
      (b.first + (r * b.stride.toNat + c)) * b.matrix.elementType.bytes := by
  obtain ⟨haddress, hstride⟩ := hfits.kept_eq hm h
  have hplace : ((b.kept.1.toNat : Int) +
      (r * b.kept.2.toInt + c) * b.matrix.elementType.bytes) =
        (b.kept.1.toNat + (r * b.stride.toNat + c) * b.matrix.elementType.bytes : Nat) := by
    rw [hstride]
    push_cast
    rfl
  rw [elementAddress, hplace, Int.toNat_natCast, haddress, Nat.add_mul b.first, Nat.add_assoc]
  rfl

/-- An element of a block that fits lies in the allocation of its matrix. -/
theorem Block.Fits.covers {b : Block} {rows columns : UInt64} {memory : Memory} {r c : Nat}
    (hfits : b.Fits rows columns) (hm : b.matrix.Owned memory) (h : memory.WellFormed)
    (hr : r < rows.toNat) (hc : c < columns.toNat) :
    b.matrix.storage.Covers (elementAddress b.kept b.matrix.elementType.bytes r c)
      b.matrix.elementType.bytes := by
  have hinside := hfits.element_inside hm hr hc
  rw [hfits.elementAddress_kept hm h]
  exact ⟨Nat.le_add_right _ _, by omega⟩

namespace ExchangeView

variable {allocator : Allocator} {matrices : List Matrix} {rowMap columnMap : List UInt64}
  {strides? : Option (List UInt64)} {rows columns : UInt64} {memory made later : Memory}
  {v : ExchangeView} {placed : List (UInt64 × Int32)}

/-- An allocation that is none of the three of an exchange view. -/
structure Foreign (v : ExchangeView) (a : Allocation) : Prop where
  mapping_ne : a.index ≠ v.view.mapping.index
  strides_ne : a.index ≠ v.view.strides.index
  exchange_ne : a.index ≠ v.exchange.storage.index

/-- In a memory, the buffers of a view record the places of its blocks, all elements of the blocks
lie in other allocations, and the exchange matrix has room for each of them. -/
structure Stands (v : ExchangeView) (memory : Memory) (placed : List (UInt64 × Int32)) : Prop where
  wellFormed : memory.WellFormed
  records : v.view.Records memory placed
  held : memory.Holds v.exchange.storage
  mapping_ne : v.exchange.storage.index ≠ v.view.mapping.index
  strides_ne : v.exchange.storage.index ≠ v.view.strides.index
  size_eq : v.exchange.storage.size =
    v.view.rows.toNat * v.view.columns.toNat * placed.length * v.view.elementType.bytes
  stride_nonneg : ∀ p ∈ placed, 0 ≤ p.2.toInt
  element : ∀ p ∈ placed, ∀ r < v.view.rows.toNat, ∀ c < v.view.columns.toNat,
    ∃ a, memory.Holds a ∧ v.Foreign a ∧
      a.Covers (elementAddress p v.view.elementType.bytes r c) v.view.elementType.bytes

/-- A view stands as long as its own buffers stay as they are. -/
theorem Stands.extend (h : v.Stands memory placed) (hlater : later.WellFormed)
    (hextends : later.Extends memory)
    (hmapping : later.buffer v.view.mapping = memory.buffer v.view.mapping)
    (hstrides : later.buffer v.view.strides = memory.buffer v.view.strides) :
    v.Stands later placed where
  wellFormed := hlater
  records := h.records.extend hextends hmapping hstrides
  held := h.held.extend hextends
  mapping_ne := h.mapping_ne
  strides_ne := h.strides_ne
  size_eq := h.size_eq
  stride_nonneg := h.stride_nonneg
  element p hp r hr c hc := by
    obtain ⟨a, ha, hforeign, hcovers⟩ := h.element p hp r hr c hc
    exact ⟨a, ha.extend hextends, hforeign, hcovers⟩

/-- Writing to an allocation that is not one of the buffers of the view leaves the view standing. -/
theorem Stands.exists_poke (h : v.Stands memory placed) {a : Allocation} (ha : memory.Holds a)
    (hmapping : a.index ≠ v.view.mapping.index) (hstrides : a.index ≠ v.view.strides.index)
    {address : Nat} {bytes : List UInt8} (hcovers : a.Covers address bytes.length)
    (hpos : 0 < bytes.length) :
    ∃ memory', memory.poke address bytes = some memory' ∧ v.Stands memory' placed := by
  obtain ⟨memory', hpoke, hbuffer⟩ := h.wellFormed.poke_of_covers ha hcovers hpos
  refine ⟨memory', hpoke, h.extend (h.wellFormed.of_poke hpoke) (Memory.extends_of_poke hpoke) ?_ ?_⟩
  · exact hbuffer _ h.records.mapping_held (Ne.symm hmapping)
  · exact hbuffer _ h.records.strides_held (Ne.symm hstrides)

/-! ### New exchange views -/

/-- The elements of a block are counted exactly if their number is a 64-bit number. -/
theorem blockElements_eq_ok {elements : UInt64} :
    blockElements rows columns = .ok elements ↔
      rows.toNat * columns.toNat < twoPow 64 ∧ elements = rows * columns := by
  unfold blockElements
  constructor
  · intro h
    split at h
    · next hlt =>
      cases h
      exact ⟨hlt, rfl⟩
    · cases h
  · rintro ⟨hlt, rfl⟩
    rw [if_pos hlt]

/-- A new exchange view is a new view with a new matrix, which has a row for each element of a block
and a column for each block. -/
theorem create_eq_ok_iff :
    create allocator matrices rowMap columnMap strides? rows columns memory = .ok (v, made) ↔
      ∃ middle, View.create allocator matrices rowMap columnMap strides? rows columns memory =
          .ok (v.view, middle) ∧
        rows.toNat * columns.toNat < twoPow 64 ∧
        Matrix.create allocator v.view.elementType (rows * columns) (UInt64.ofNat v.view.count)
          none none .dense middle = .ok (v.exchange, made) := by
  constructor
  · intro hcreate
    obtain ⟨view, middle, hview, hrest⟩ := request_ok_of_bind hcreate
    obtain ⟨elements, helements, hrest⟩ := request_ofExcept_bind.mp hrest
    obtain ⟨hlt, rfl⟩ := blockElements_eq_ok.mp helements
    obtain ⟨exchange, memory', hmatrix, hrest⟩ := request_ok_of_bind hrest
    cases hrest
    exact ⟨middle, hview, hlt, hmatrix⟩
  · rintro ⟨middle, hview, hlt, hmatrix⟩
    refine (request_bind hview).trans (request_ofExcept_bind.mpr ⟨_, ?_, request_bind hmatrix⟩)
    exact blockElements_eq_ok.mpr ⟨hlt, rfl⟩

/-- The exchange matrix has the elements of the view, a row for each element of a block, a column for
each block, and no padding. -/
structure Shaped (v : ExchangeView) : Prop where
  type_eq : v.exchange.elementType = v.view.elementType
  rows_eq : v.exchange.layout.rows.toNat = v.view.rows.toNat * v.view.columns.toNat
  columns_eq : v.exchange.layout.columns = v.exchange.layout.leading
  leading_eq : v.exchange.layout.leading.toNat = v.view.count
  subLeading_eq : v.exchange.layout.subLeading = UInt64.ofNat v.view.count

/-- The exchange matrix of a new view has its shape. -/
theorem create_shaped (h : memory.WellFormed)
    (hcreate : create allocator matrices rowMap columnMap strides? rows columns memory =
      .ok (v, made)) : v.Shaped := by
  obtain ⟨middle, hview, hlt, hmatrix⟩ := create_eq_ok_iff.mp hcreate
  obtain ⟨hrecords, hmiddle, -⟩ := View.create_places h hview
  obtain ⟨htype, hrows, hcolumns, hleading, hsub, -⟩ := (Matrix.create_eq_ok_iff.mp hmatrix).1
  have hnew := View.create_new h hview
  refine ⟨htype, ?_, hcolumns.trans hleading.symm, ?_, hsub⟩
  · rw [hrows, hnew.rows_eq, hnew.columns_eq]
    exact (UInt64.toNat_mul ..).trans (Nat.mod_eq_of_lt hlt)
  · rw [hleading]
    exact hrecords.toNat_count hmiddle

/-- The exchange matrix of a new view was made like any other matrix. -/
theorem create_made (hexact : allocator.Exact) (h : memory.WellFormed)
    (hcreate : create allocator matrices rowMap columnMap strides? rows columns memory =
      .ok (v, made)) : v.exchange.Made made := by
  obtain ⟨middle, hview, -, hmatrix⟩ := create_eq_ok_iff.mp hcreate
  obtain ⟨-, hmiddle, -⟩ := View.create_places h hview
  exact .create hexact hmiddle hmatrix

/-- The view of a new exchange view records the places of its blocks, whoever their matrices belong
to. -/
theorem create_places (h : memory.WellFormed)
    (hcreate : create allocator matrices rowMap columnMap strides? rows columns memory =
      .ok (v, made)) :
    v.view.Records made ((View.blocks matrices rowMap columnMap strides?).map Block.kept) ∧
      made.WellFormed ∧ v.view.New memory matrices rows columns ∧
      View.Described matrices rowMap columnMap strides? rows columns ∧
      ∀ b ∈ View.blocks matrices rowMap columnMap strides?, b.Checked rows columns := by
  obtain ⟨middle, hview, -, hmatrix⟩ := create_eq_ok_iff.mp hcreate
  obtain ⟨hrecords, hmiddle, -, -, hdescribed, hchecked⟩ := View.create_places h hview
  have hadded := hmiddle.added (Matrix.create_eq_ok_iff.mp hmatrix).2
  exact ⟨hrecords.extend hadded.older (hadded.buffer_eq _ hrecords.mapping_held)
    (hadded.buffer_eq _ hrecords.strides_held), hadded.wellFormed, View.create_new h hview,
    hdescribed, hchecked⟩

/-- A new exchange view stands. -/
theorem create_stands (hexact : allocator.Exact) (h : memory.WellFormed)
    (hm : ∀ m ∈ matrices, m.Owned memory)
    (hcreate : create allocator matrices rowMap columnMap strides? rows columns memory =
      .ok (v, made)) :
    v.Stands made ((View.blocks matrices rowMap columnMap strides?).map Block.kept) := by
  obtain ⟨hmadeRecords, hmade, hnew, -⟩ := create_places h hcreate
  obtain ⟨middle, hview, -, hmatrix⟩ := create_eq_ok_iff.mp hcreate
  obtain ⟨hrecords, hmiddle, hextends, -, -, hfits⟩ := View.create_records h hm hview
  have hshape := create_shaped h hcreate
  have howned := (create_made hexact h hcreate).owned
  have hadded := hmiddle.added (Matrix.create_eq_ok_iff.mp hmatrix).2
  have hindex := hadded.index_eq
  have hmapping := hrecords.mapping_held.index_lt
  have hstrides := hrecords.strides_held.index_lt
  refine ⟨hmade, hmadeRecords, hadded.held, by omega, by omega, ?_, ?_, ?_⟩
  · rw [howned.size_eq, hshape.rows_eq, hshape.leading_eq, hshape.type_eq, hrecords.count_eq,
      Nat.mul_comm _ (_ * _)]
  · intro p hp
    obtain ⟨b, hb, rfl⟩ := List.mem_map.mp hp
    rw [((hfits b hb).kept_eq (View.owned_of_mem_blocks hm b hb) h).2]
    exact Int.natCast_nonneg _
  · intro p hp r hr c hc
    obtain ⟨b, hb, rfl⟩ := List.mem_map.mp hp
    have howned := View.owned_of_mem_blocks hm b hb
    have hold := howned.held.index_lt
    have hmappingNew := hnew.mapping_new
    have hstridesNew := hnew.strides_new
    refine ⟨b.matrix.storage, (howned.held.extend hextends).extend hadded.older,
      ⟨by omega, by omega, by omega⟩, ?_⟩
    rw [← hnew.type_eq _ (View.matrix_mem_of_mem_blocks hb)]
    exact (hfits b hb).covers howned h (hnew.rows_eq ▸ hr) (hnew.columns_eq ▸ hc)

end ExchangeView

end KernelForge
