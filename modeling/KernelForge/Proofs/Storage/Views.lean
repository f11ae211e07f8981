import KernelForge.Proofs.Bytes
import KernelForge.Proofs.Storage.Placing

/-!
# Views that are made

A view is made exactly if its maps describe blocks that fit into their matrices. Its buffers are
added to memory and record where the blocks lie, so reading them gives the addresses and strides
without anything lost, and what is reached through them are elements of the matrices.
-/

namespace KernelForge

namespace View

variable {allocator : Allocator} {matrices : List Matrix} {rowMap columnMap : List UInt64}
  {strides? : Option (List UInt64)} {rows columns : UInt64} {memory memory' : Memory}

/-! ### The conditions of a view -/

/-- What a new view is refused for before its blocks are looked at. -/
structure Described (matrices : List Matrix) (rowMap columnMap : List UInt64)
    (strides? : Option (List UInt64)) (rows columns : UInt64) : Prop where
  matrices_pos : 0 < matrices.length
  rows_pos : 0 < rows.toNat
  columns_pos : 0 < columns.toNat
  rowMap_length : rowMap.length = matrices.length
  columnMap_length : columnMap.length = matrices.length
  strides_length : ∀ strides ∈ strides?, strides.length = matrices.length
  types_eq : ∀ m ∈ matrices, ∀ m' ∈ matrices, m.elementType = m'.elementType

/-! ### The buffers of a view -/

/-- Stores the places of blocks in two new buffers. -/
def store (allocator : Allocator) (matrices : List Matrix) (rows columns : UInt64)
    (type : ElementType) (placed : List (UInt64 × Int32)) : MemoryM View := do
  let mapping ← Memory.allocate allocator (UInt64.ofNat (matrices.length * 8))
  Memory.copyIn mapping 0 (placed.flatMap fun p => littleEndian 8 p.1.toNat)
  let strides ← Memory.allocate allocator (UInt64.ofNat (matrices.length * 4))
  Memory.copyIn strides 0 (placed.flatMap fun p => ElementType.int32.encode p.2)
  return ⟨mapping, strides, distinctStorages matrices, matrices.length, rows, columns, type⟩

/-- The conditions on a first matrix and the others. -/
theorem described_cons {first : Matrix} {rest : List Matrix} :
    Described (first :: rest) rowMap columnMap strides? rows columns ↔
      ¬(rows = 0 ∨ columns = 0) ∧
        (rowMap.length = (first :: rest).length ∧ columnMap.length = (first :: rest).length ∧
          (strides?.all fun s => s.length = (first :: rest).length)) ∧
        ((first :: rest).all (·.elementType = first.elementType)) := by
  have hzero : ∀ n : UInt64, n ≠ 0 ↔ 0 < n.toNat := fun n => by
    rw [Nat.pos_iff_ne_zero, ne_eq, ne_eq, ← UInt64.toNat_inj, UInt64.toNat_zero]
  simp only [List.all_eq_true, decide_eq_true_eq, Option.all_eq_true]
  constructor
  · intro h
    refine ⟨?_, ⟨h.rowMap_length, h.columnMap_length, fun s hs => ?_⟩, fun m hm => ?_⟩
    · rw [not_or]
      exact ⟨(hzero rows).mpr h.rows_pos, (hzero columns).mpr h.columns_pos⟩
    · exact h.strides_length s hs
    · exact h.types_eq m hm first List.mem_cons_self
  · rintro ⟨hshape, ⟨hrows, hcolumns, hstrides⟩, htypes⟩
    obtain ⟨hne, hne'⟩ := not_or.mp hshape
    exact ⟨Nat.succ_pos _, (hzero rows).mp hne, (hzero columns).mp hne', hrows, hcolumns, hstrides,
      fun m hm m' hm' => (htypes m hm).trans (htypes m' hm').symm⟩

/-- A view is made if it is described well, its blocks can be placed and its buffers filled. -/
theorem create_eq_ok {result : View × Memory} :
    create allocator matrices rowMap columnMap strides? rows columns memory = .ok result ↔
      Described matrices rowMap columnMap strides? rows columns ∧
        ∃ first placed, matrices.head? = some first ∧
          places rows columns 0 (blocks matrices rowMap columnMap strides?) = .ok placed ∧
          store allocator matrices rows columns first.elementType placed memory = .ok result := by
  cases matrices with
  | nil => exact ⟨nofun, fun h => nomatch h.1.matrices_pos⟩
  | cons first rest =>
    rw [described_cons]
    unfold create
    simp only [List.head?_cons]
    split
    · next hshape => exact ⟨nofun, fun h => absurd hshape h.1.1⟩
    · next hshape =>
      split
      · next hlengths =>
        split
        · next htypes =>
          refine request_ofExcept_bind.trans ⟨?_, ?_⟩
          · rintro ⟨placed, hplaces, hstore⟩
            exact ⟨⟨hshape, hlengths, htypes⟩, first, placed, rfl, hplaces, hstore⟩
          · rintro ⟨-, _, placed, ⟨⟩, hplaces, hstore⟩
            exact ⟨placed, hplaces, hstore⟩
        · next htypes => exact ⟨nofun, fun h => absurd h.1.2.2 htypes⟩
      · next hlengths => exact ⟨nofun, fun h => absurd h.1.2.1 hlengths⟩

/-- The two buffers of a view record the places of its blocks. -/
structure Records (view : View) (memory : Memory) (placed : List (UInt64 × Int32)) : Prop where
  count_eq : view.count = placed.length
  mapping_held : memory.Holds view.mapping
  mapping_le : placed.length * 8 ≤ view.mapping.size
  mapping_read : (memory.buffer view.mapping).read 0 (placed.length * 8) =
    placed.flatMap fun p => littleEndian 8 p.1.toNat
  strides_held : memory.Holds view.strides
  strides_le : placed.length * 4 ≤ view.strides.size
  strides_read : (memory.buffer view.strides).read 0 (placed.length * 4) =
    placed.flatMap fun p => ElementType.int32.encode p.2

/-- Addresses take eight bytes each. -/
theorem length_addressBytes (placed : List (UInt64 × Int32)) :
    (placed.flatMap fun p => littleEndian 8 p.1.toNat).length = placed.length * 8 := by
  exact (length_flatMap_blocks (fun _ => length_littleEndian 8 _) placed).trans (Nat.mul_comm ..)

/-- Strides take four bytes each. -/
theorem length_strideBytes (placed : List (UInt64 × Int32)) :
    (placed.flatMap fun p => ElementType.int32.encode p.2).length = placed.length * 4 := by
  exact (length_flatMap_blocks (fun _ => ElementType.int32.length_encode _) placed).trans
    (Nat.mul_comm ..)

/-- The two buffers of a view are added one after the other, each with its bytes. -/
theorem store_added (h : memory.WellFormed) {type : ElementType}
    {placed : List (UInt64 × Int32)} {view : View}
    (hstore : store allocator matrices rows columns type placed memory = .ok (view, memory')) :
    ∃ mapping strides middle,
      Memory.Added memory mapping (placed.flatMap fun p => littleEndian 8 p.1.toNat) middle ∧
      Memory.Added middle strides (placed.flatMap fun p => ElementType.int32.encode p.2) memory' ∧
      view = ⟨mapping, strides, distinctStorages matrices, matrices.length, rows, columns, type⟩ := by
  unfold store at hstore
  obtain ⟨mapping, memory₁, hmapping, hrest⟩ := request_ok_of_bind hstore
  obtain ⟨_, memory₂, hmappingCopy, hrest⟩ := request_ok_of_bind hrest
  obtain ⟨strides, memory₃, hstrides, hrest⟩ := request_ok_of_bind hrest
  obtain ⟨_, memory₄, hstridesCopy, hrest⟩ := request_ok_of_bind hrest
  cases hrest
  have hfirst := (h.added hmapping).copyIn hmappingCopy
  exact ⟨mapping, strides, memory₂, hfirst,
    (hfirst.wellFormed.added hstrides).copyIn hstridesCopy, rfl⟩

/-- A view whose buffers were filled records the places that they were filled with. -/
theorem store_records (h : memory.WellFormed) {type : ElementType}
    {placed : List (UInt64 × Int32)} (hlength : placed.length = matrices.length) {view : View}
    (hstore : store allocator matrices rows columns type placed memory = .ok (view, memory')) :
    view.Records memory' placed ∧ memory'.WellFormed ∧ memory'.Extends memory ∧
      view.backing = distinctStorages matrices := by
  obtain ⟨mapping, strides, middle, hfirst, hsecond, rfl⟩ := store_added h hstore
  have hmappingRead := hfirst.read_eq
  have hstridesRead := hsecond.read_eq
  have hmappingLe := hfirst.length_le
  have hstridesLe := hsecond.length_le
  rw [length_addressBytes] at hmappingRead hmappingLe
  rw [length_strideBytes] at hstridesRead hstridesLe
  refine ⟨⟨hlength.symm, hfirst.held.extend hsecond.older, hmappingLe, ?_, hsecond.held,
    hstridesLe, hstridesRead⟩, hsecond.wellFormed, hsecond.older.trans hfirst.older, rfl⟩
  rw [hsecond.buffer_eq _ hfirst.held]
  exact hmappingRead

/-- The buffers of a view are filled if they are granted and there is room for them. -/
theorem exists_store (h : memory.WellFormed)
    (hgrant : ∀ size, size ≠ 0 → allocator.grant size = .ok size) (type : ElementType)
    {placed : List (UInt64 × Int32)} (hlength : placed.length = matrices.length)
    (hpos : 0 < matrices.length)
    (hroom : memory.HasRoom [matrices.length * 8, matrices.length * 4]) :
    ∃ result, store allocator matrices rows columns type placed memory = .ok result := by
  have haddress := length_addressBytes placed
  have hstride := length_strideBytes placed
  rw [hlength] at haddress hstride
  rw [← haddress, ← hstride] at hroom
  obtain ⟨mapping, memory₁, memory₂, hmapping, hmappingCopy, hroom⟩ :=
    h.allocate_copyIn hgrant (by omega) hroom
  have hfirst := (h.added hmapping).copyIn hmappingCopy
  obtain ⟨strides, memory₃, memory₄, hstrides, hstridesCopy, -⟩ :=
    hfirst.wellFormed.allocate_copyIn hgrant (by omega) hroom
  rw [haddress] at hmapping
  rw [hstride] at hstrides
  have hstore : store allocator matrices rows columns type placed memory = _ :=
    (request_bind hmapping).trans ((request_bind hmappingCopy).trans
      ((request_bind hstrides).trans (request_bind hstridesCopy)))
  exact ⟨_, hstore⟩

/-- Making a view of matrices that own their elements never overflows. -/
theorem create_ne_overflow (h : memory.WellFormed) (hm : ∀ m ∈ matrices, m.Owned memory)
    (hgrant : ∀ size, size ≠ 0 → allocator.grant size = .ok size)
    (hroom : memory.HasRoom [matrices.length * 8, matrices.length * 4]) (operation : String) :
    create allocator matrices rowMap columnMap strides? rows columns memory ≠
      .error (.overflow operation) := by
  cases matrices with
  | nil => nofun
  | cons first rest =>
    unfold create
    simp only [List.head?_cons]
    split
    · nofun
    · next hshape =>
      split
      · next hlengths =>
        split
        · next htypes =>
          have hdescribed : Described (first :: rest) rowMap columnMap strides? rows columns :=
            described_cons.mpr ⟨hshape, hlengths, htypes⟩
          have hlength := length_blocks hdescribed.rowMap_length hdescribed.columnMap_length
            hdescribed.strides_length
          cases hplaces : places rows columns 0
              (blocks (first :: rest) rowMap columnMap strides?) with
          | error error =>
            intro heq
            cases heq
            exact places_ne_overflow h (owned_of_mem_blocks hm) 0 operation hplaces
          | ok placed =>
            obtain ⟨-, rfl⟩ := places_iff_checked.mp hplaces
            obtain ⟨result, hstore⟩ := exists_store h hgrant first.elementType
              ((List.length_map _).trans hlength) hdescribed.matrices_pos hroom
            have hok := request_ofExcept_bind.mpr ⟨_, hplaces, hstore⟩
            intro heq
            cases hok.symm.trans (hplaces ▸ heq)
        · nofun
      · nofun

/-- The addresses that a view records are read back. -/
theorem Records.addresses {view : View} {placed : List (UInt64 × Int32)}
    (h : view.Records memory placed) :
    view.addresses memory = .ok (placed.map (·.1), memory) := by
  have hcopy : Memory.copyOut view.mapping 0 (view.count * 8) memory = _ :=
    Memory.copyOut_eq_ok.mpr ⟨by rw [h.count_eq, Nat.zero_add]; exact h.mapping_le, rfl⟩
  have hchunks : Matrix.chunks 8 placed.length (placed.flatMap fun p => littleEndian 8 p.1.toNat) =
      placed.map fun p => littleEndian 8 p.1.toNat :=
    Matrix.chunks_flatMap (fun _ => length_littleEndian 8 _) placed
  refine (request_bind hcopy).trans ?_
  rw [h.count_eq, h.mapping_read, hchunks, List.map_map]
  refine congrArg (fun list => Except.ok (list, memory)) (List.map_congr_left fun p _ => ?_)
  change UInt64.ofNat (ofLittleEndian (littleEndian 8 p.1.toNat)) = p.1
  rw [ofLittleEndian_address, UInt64.ofNat_toNat]

/-- The strides that a view records are read back. -/
theorem Records.strideValues {view : View} {placed : List (UInt64 × Int32)}
    (h : view.Records memory placed) :
    view.strideValues memory = .ok (placed.map (·.2), memory) := by
  have hcopy : Memory.copyOut view.strides 0 (view.count * 4) memory = _ :=
    Memory.copyOut_eq_ok.mpr ⟨by rw [h.count_eq, Nat.zero_add]; exact h.strides_le, rfl⟩
  have hdecode := Matrix.decodeAll_flatMap .int32 (fun p : UInt64 × Int32 => p.2) placed
  refine (request_bind hcopy).trans ?_
  rw [h.count_eq, h.strides_read]
  exact congrArg (fun list => Except.ok (list, memory)) hdecode

/-! ### Views and their blocks -/

/-- A view that was made records the places of its blocks, whoever their matrices belong to. -/
theorem create_places (h : memory.WellFormed) {view : View}
    (hcreate : create allocator matrices rowMap columnMap strides? rows columns memory =
      .ok (view, memory')) :
    view.Records memory' ((blocks matrices rowMap columnMap strides?).map Block.kept) ∧
      memory'.WellFormed ∧ memory'.Extends memory ∧
      view.backing = distinctStorages matrices ∧
      Described matrices rowMap columnMap strides? rows columns ∧
      ∀ b ∈ blocks matrices rowMap columnMap strides?, b.Checked rows columns := by
  obtain ⟨hdescribed, first, placed, -, hplaces, hstore⟩ := create_eq_ok.mp hcreate
  obtain ⟨hchecked, rfl⟩ := places_iff_checked.mp hplaces
  have hlength := length_blocks hdescribed.rowMap_length hdescribed.columnMap_length
    hdescribed.strides_length
  obtain ⟨hrecords, hwellFormed, hextends, hbacking⟩ :=
    store_records h (by rw [List.length_map, hlength]) hstore
  exact ⟨hrecords, hwellFormed, hextends, hbacking, hdescribed, hchecked⟩

/-- A view that was made records the places of its blocks, which all fit. -/
theorem create_records (h : memory.WellFormed) (hm : ∀ m ∈ matrices, m.Owned memory) {view : View}
    (hcreate : create allocator matrices rowMap columnMap strides? rows columns memory =
      .ok (view, memory')) :
    view.Records memory' ((blocks matrices rowMap columnMap strides?).map Block.kept) ∧
      memory'.WellFormed ∧ memory'.Extends memory ∧
      view.backing = distinctStorages matrices ∧
      Described matrices rowMap columnMap strides? rows columns ∧
      ∀ b ∈ blocks matrices rowMap columnMap strides?, b.Fits rows columns := by
  obtain ⟨-, first, placed, -, hplaces, -⟩ := create_eq_ok.mp hcreate
  obtain ⟨hfits, -⟩ := (places_eq_ok h (owned_of_mem_blocks hm)).mp hplaces
  obtain ⟨hrecords, hwellFormed, hextends, hbacking, hdescribed, -⟩ := create_places h hcreate
  exact ⟨hrecords, hwellFormed, hextends, hbacking, hdescribed, hfits⟩

/-- A view is made from described blocks that all fit, if its buffers are granted. -/
theorem exists_create_iff (h : memory.WellFormed) (hm : ∀ m ∈ matrices, m.Owned memory)
    (hgrant : ∀ size, size ≠ 0 → allocator.grant size = .ok size)
    (hroom : memory.HasRoom [matrices.length * 8, matrices.length * 4]) :
    (∃ view memory', create allocator matrices rowMap columnMap strides? rows columns memory =
        .ok (view, memory')) ↔
      Described matrices rowMap columnMap strides? rows columns ∧
        ∀ b ∈ blocks matrices rowMap columnMap strides?, b.Fits rows columns := by
  constructor
  · rintro ⟨view, memory', hcreate⟩
    obtain ⟨-, -, -, -, hdescribed, hfits⟩ := create_records h hm hcreate
    exact ⟨hdescribed, hfits⟩
  · rintro ⟨hdescribed, hfits⟩
    have hplaces := (places_eq_ok (i := 0) h (owned_of_mem_blocks hm)).mpr ⟨hfits, rfl⟩
    have hlength := length_blocks hdescribed.rowMap_length hdescribed.columnMap_length
      hdescribed.strides_length
    have hpos := hdescribed.matrices_pos
    have hfirst : matrices.head? = some matrices[0] :=
      List.head?_eq_getElem?.trans (List.getElem?_eq_getElem hpos)
    obtain ⟨⟨view, memory'⟩, hstore⟩ := exists_store h hgrant matrices[0].elementType
      ((List.length_map _).trans hlength) hpos hroom
    exact ⟨view, memory', create_eq_ok.mpr ⟨hdescribed, _, _, hfirst, hplaces, hstore⟩⟩

end View

/-- What a view holds for a block: the address of its first element and its stride, from which every
element of the block is reached inside the allocation of the matrix. -/
structure Block.Reached (b : Block) (rows columns address : UInt64) (stride : Int32) : Prop where
  address_eq : address.toNat =
    b.matrix.address.toNat + b.first * b.matrix.elementType.bytes
  stride_eq : stride.toInt = b.stride.toNat
  element_inside : ∀ r c : Nat, r < rows.toNat → c < columns.toNat →
    (b.matrix.storage.address.toNat : Int) ≤
        address.toNat + (r * stride.toInt + c) * b.matrix.elementType.bytes ∧
      address.toNat + (r * stride.toInt + c) * b.matrix.elementType.bytes +
          b.matrix.elementType.bytes ≤
        b.matrix.storage.address.toNat + b.matrix.storage.size

/-- What a view holds for a block that fits reaches its elements. -/
theorem Block.Fits.reached {b : Block} {rows columns : UInt64} {memory : Memory}
    (hfits : b.Fits rows columns) (hm : b.matrix.Owned memory) (h : memory.WellFormed) :
    b.Reached rows columns b.kept.1 b.kept.2 := by
  obtain ⟨haddress, hstride⟩ := hfits.kept_eq hm h
  refine ⟨haddress, hstride, fun r c hr hc => ?_⟩
  have hinside := hfits.element_inside hm hr hc
  have hsplit : b.matrix.storage.address.toNat +
      (b.first + (r * b.stride.toNat + c)) * b.matrix.elementType.bytes =
        b.kept.1.toNat + (r * b.stride.toNat + c) * b.matrix.elementType.bytes := by
    rw [haddress, Nat.add_mul, ← Nat.add_assoc]
    rfl
  have hle : b.matrix.storage.address.toNat ≤
        b.kept.1.toNat + (r * b.stride.toNat + c) * b.matrix.elementType.bytes ∧
      b.kept.1.toNat + (r * b.stride.toNat + c) * b.matrix.elementType.bytes +
          b.matrix.elementType.bytes ≤
        b.matrix.storage.address.toNat + b.matrix.storage.size := by
    omega
  rw [hstride]
  exact_mod_cast hle

namespace View

/-- Views are made exactly of blocks that fit, and nothing overflows on the way: neither the numbers of
the elements of the matrices nor the addresses of the blocks. A view that was made gives back where
its blocks lie, reaches no element outside their matrices, and keeps each allocation once. -/
theorem created_iff_blocks_fit {allocator : Allocator} {matrices : List Matrix}
    {rowMap columnMap : List UInt64} {strides? : Option (List UInt64)} {rows columns : UInt64}
    {memory : Memory} (h : memory.WellFormed) (hm : ∀ m ∈ matrices, m.Owned memory)
    (hgrant : ∀ size, size ≠ 0 → allocator.grant size = .ok size)
    (hroom : memory.HasRoom [matrices.length * 8, matrices.length * 4]) :
    ((∃ view memory', create allocator matrices rowMap columnMap strides? rows columns memory =
          .ok (view, memory')) ↔
        Described matrices rowMap columnMap strides? rows columns ∧
          ∀ i b, blockAt? matrices rowMap columnMap strides? i = some b → b.Fits rows columns) ∧
      (∀ operation, create allocator matrices rowMap columnMap strides? rows columns memory ≠
        .error (.overflow operation)) ∧
      (∀ m ∈ matrices, m.layout.elements.toNat = m.layout.leading.toNat * m.layout.rows.toNat) ∧
      (∀ i b j p, blockAt? matrices rowMap columnMap strides? i = some b →
        b.place j rows columns = .ok p →
          p.1.toNat = b.matrix.address.toNat + b.first * b.matrix.elementType.bytes) ∧
      ∀ view memory', create allocator matrices rowMap columnMap strides? rows columns memory =
          .ok (view, memory') →
        (∃ addresses strides, view.addresses memory' = .ok (addresses, memory') ∧
          view.strideValues memory' = .ok (strides, memory') ∧
          addresses.length = matrices.length ∧ strides.length = matrices.length ∧
          ∀ i < matrices.length, ∃ b address stride,
            blockAt? matrices rowMap columnMap strides? i = some b ∧
            addresses[i]? = some address ∧ strides[i]? = some stride ∧
            b.Reached rows columns address stride) ∧
        (∀ m ∈ matrices, view.backing.countP (·.sharesStorage m) = 1) ∧
        ∀ m ∈ view.backing, m ∈ matrices := by
  have hblocks : ∀ i b, blockAt? matrices rowMap columnMap strides? i = some b →
      b ∈ blocks matrices rowMap columnMap strides? := fun i b hb =>
    List.mem_of_getElem? ((getElem?_blocks i).trans hb)
  have hfits : (∀ b ∈ blocks matrices rowMap columnMap strides?, b.Fits rows columns) ↔
      ∀ i b, blockAt? matrices rowMap columnMap strides? i = some b → b.Fits rows columns := by
    refine ⟨fun hall i b hb => hall b (hblocks i b hb), fun hall b hb => ?_⟩
    obtain ⟨i, hi⟩ := List.mem_iff_getElem?.mp hb
    exact hall i b ((getElem?_blocks i).symm.trans hi)
  refine ⟨?_, create_ne_overflow h hm hgrant hroom, fun m _ => m.layout.toNat_elements,
    fun i b j p hb hplace => ?_,
    fun view memory' hcreate => ?_⟩
  · rw [exists_create_iff h hm hgrant hroom, hfits]
  · have howned := owned_of_mem_blocks hm b (hblocks i b hb)
    obtain ⟨hfit, rfl⟩ := (Block.place_eq_ok howned h).mp hplace
    exact (hfit.kept_eq howned h).1
  · obtain ⟨hrecords, -, -, hbacking, hdescribed, hall⟩ := create_records h hm hcreate
    have hlength := length_blocks hdescribed.rowMap_length hdescribed.columnMap_length
      hdescribed.strides_length
    refine ⟨⟨_, _, hrecords.addresses, hrecords.strideValues, by simp [hlength],
      by simp [hlength], fun i hi => ?_⟩, fun m hmem => ?_, fun m hmem => ?_⟩
    · have hb := List.getElem?_eq_getElem (hlength.symm ▸ hi)
      have hmem := List.mem_of_getElem? hb
      refine ⟨_, _, _, (getElem?_blocks i).symm.trans hb, ?_, ?_,
        (hall _ hmem).reached (owned_of_mem_blocks hm _ hmem) h⟩
      · simp only [List.getElem?_map, hb, Option.map_some]
      · simp only [List.getElem?_map, hb, Option.map_some]
    · rw [hbacking]
      exact countP_distinctStorages hmem
    · rw [hbacking] at hmem
      exact mem_of_mem_distinctStorages hmem

/-- A matrix of three rows of four elements. -/
def tiledMatrix : Matrix := ⟨⟨0, 0x55813e400000, 96⟩, ⟨.float64, 3, 4, 4, 4, .dense, by decide, by decide⟩⟩

/-- Memory that holds it and nothing else. -/
def tiledMemory : Memory := ⟨#[⟨0x55813e400000, 96, #[]⟩], 0x55813e400060⟩

/-- It is well-formed. -/
theorem wellFormed_tiledMemory : tiledMemory.WellFormed :=
  (Memory.wellFormed_empty.reserve
    (show Memory.reserve 96 .empty = .ok (tiledMatrix.storage, tiledMemory) from rfl)).1

/-- Blocks may overlap, and all rows of a block may be the same one. -/
theorem overlappingBlocks_created :
    ∃ view memory' addresses strides,
      create .host [tiledMatrix, tiledMatrix] [0, 1] [1, 2] (some [4, 0]) 2 2 tiledMemory =
        .ok (view, memory') ∧
      view.addresses memory' = .ok (addresses, memory') ∧
      view.strideValues memory' = .ok (strides, memory') ∧
      addresses.length = 2 ∧ strides.length = 2 ∧
      view.backing.countP (·.sharesStorage tiledMatrix) = 1 := by
  have howned : tiledMatrix.Owned tiledMemory := ⟨⟨_, rfl, rfl, rfl⟩, by decide⟩
  have hgrant : ∀ size, size ≠ 0 → Allocator.host.grant size = .ok size := fun _ h => if_neg h
  have hroom : tiledMemory.HasRoom [2 * 8, 2 * 4] :=
    ⟨by decide, by decide, by decide, by decide, trivial⟩
  obtain ⟨hiff, -, -, -, hall⟩ :=
    @created_iff_blocks_fit .host [tiledMatrix, tiledMatrix] [0, 1] [1, 2] (some [4, 0]) 2 2
      tiledMemory wellFormed_tiledMemory (by simp [howned]) hgrant hroom
  have hdescribed : Described [tiledMatrix, tiledMatrix] [0, 1] [1, 2] (some [4, 0]) 2 2 :=
    ⟨by decide, by decide, by decide, rfl, rfl, by simp, by simp⟩
  have hfits : ∀ b ∈ blocks [tiledMatrix, tiledMatrix] [0, 1] [1, 2] (some [4, 0]),
      b.Fits 2 2 := by
    intro b hb
    have hcases : b = ⟨tiledMatrix, 0, 1, 4⟩ ∨ b = ⟨tiledMatrix, 1, 2, 0⟩ := by
      simpa [blocks] using hb
    rcases hcases with rfl | rfl
    · exact ⟨by decide, by decide, by decide⟩
    · exact ⟨by decide, by decide, by decide⟩
  obtain ⟨view, memory', hcreate⟩ := hiff.mpr ⟨hdescribed, fun i b hb =>
    hfits b (List.mem_of_getElem? ((getElem?_blocks i).trans hb))⟩
  obtain ⟨⟨addresses, strides, haddresses, hstrides, hlength, hlength', -⟩, hbacking, -⟩ :=
    hall view memory' hcreate
  exact ⟨view, memory', addresses, strides, hcreate, haddresses, hstrides, hlength, hlength',
    hbacking _ List.mem_cons_self⟩

end View

end KernelForge
