import KernelForge.Proofs.Storage.Buffers
import KernelForge.Storage.View

/-!
# Where the blocks of a view lie

A view refuses a block whose index arithmetic leaves the 64-bit range, or whose last row ends beyond
its matrix. This is one comparison of natural numbers: rows only go upwards, so the end of the last
row bounds every element of the block. The address of its first element is not checked, but that of a
matrix that owns its elements does not overflow.
-/

namespace KernelForge

/-! ### One block -/

namespace Block

variable {b : Block} {rows columns : UInt64} {memory : Memory} {i : Nat}

/-- The number of the first element of a block in its matrix. -/
def first (b : Block) : Nat := b.row.toNat * b.matrix.layout.leading.toNat + b.column.toNat

/-- A block of so many rows and columns fits: its columns are columns of the matrix, its last row
ends within the elements of the matrix, and its stride is a 32-bit integer. -/
structure Fits (b : Block) (rows columns : UInt64) : Prop where
  columns_le : b.column.toNat + columns.toNat ≤ b.matrix.layout.columns.toNat
  end_le : b.row.toNat * b.matrix.layout.leading.toNat + b.column.toNat +
      (rows.toNat - 1) * b.stride.toNat + columns.toNat ≤
    b.matrix.layout.leading.toNat * b.matrix.layout.rows.toNat
  stride_le : (b.stride.toNat : Int) ≤ Int32.maxValue.toInt

/-- The address and the stride that a view keeps for a block. -/
def kept (b : Block) : UInt64 × Int32 :=
  (UInt64.ofNat (b.matrix.address.toNat + b.first * b.matrix.elementType.bytes),
    Int32.ofNat b.stride.toNat)

/-- The first element of a block is found if its number is a 64-bit number. -/
theorem start?_eq_some {start : Nat} :
    b.start? = some start ↔ b.first = start ∧ b.first < twoPow 64 := by
  change (if b.first < twoPow 64 then some b.first else none) = some start ↔ _
  split
  · next hlt =>
    rw [Option.some.injEq]
    exact ⟨fun h => ⟨h, hlt⟩, fun h => h.1⟩
  · next hlt =>
    exact ⟨nofun, fun h => absurd h.2 hlt⟩

/-- The end of a block is found if it is a 64-bit number. -/
theorem end?_eq_some {start stop : Nat} :
    b.end? start rows columns = some stop ↔
      (rows.toNat - 1) * b.stride.toNat + start + columns.toNat = stop ∧ stop < twoPow 64 := by
  unfold end?
  simp only []
  split
  · next hlt =>
    rw [Option.some.injEq]
    exact ⟨fun h => ⟨h, h ▸ hlt⟩, fun h => h.1⟩
  · next hlt =>
    exact ⟨nofun, fun h => absurd (h.1 ▸ h.2) hlt⟩

/-- What holds of a block of so many rows and columns that is placed: its columns are columns of the
matrix, its last row ends within the elements of the matrix, its stride is a 32-bit integer, and its
address is a 64-bit number. -/
structure Checked (b : Block) (rows columns : UInt64) : Prop where
  columns_le : b.column.toNat + columns.toNat ≤ b.matrix.layout.columns.toNat
  end_le : (rows.toNat - 1) * b.stride.toNat + b.first + columns.toNat ≤
    b.matrix.layout.elements.toNat
  stride_lt : b.stride.toNat < twoPow 31
  address_lt : b.matrix.address.toNat + b.first * b.matrix.elementType.bytes < twoPow 64

/-- The end of a block that is placed is a 64-bit number. -/
theorem Checked.end_lt (h : b.Checked rows columns) :
    (rows.toNat - 1) * b.stride.toNat + b.first + columns.toNat < twoPow 64 :=
  Nat.lt_of_le_of_lt h.end_le b.matrix.layout.elements.toNat_lt

/-- The address and the stride of a block that is placed are those of its first element and its
rows. -/
theorem Checked.kept_eq (h : b.Checked rows columns) :
    b.kept.1.toNat = b.matrix.address.toNat + b.first * b.matrix.elementType.bytes ∧
      b.kept.2.toInt = b.stride.toNat :=
  ⟨UInt64.toNat_ofNat_of_lt' h.address_lt, Int32.toInt_ofNat_of_lt h.stride_lt⟩

/-- A block is placed exactly if nothing is found, whoever its matrix belongs to. -/
theorem place_iff_checked {p : UInt64 × Int32} :
    b.place i rows columns = .ok p ↔ b.Checked rows columns ∧ p = b.kept := by
  constructor
  · intro hplace
    unfold place at hplace
    simp only [] at hplace
    split at hplace
    · cases hplace
    · next start hstart =>
      obtain ⟨rfl, -⟩ := start?_eq_some.mp hstart
      split at hplace
      · cases hplace
      · next stop hstop =>
        obtain ⟨rfl, -⟩ := end?_eq_some.mp hstop
        split at hplace
        · next hinside =>
          split at hplace
          · next hstride =>
            split at hplace
            · next haddress =>
              cases hplace
              exact ⟨⟨hinside.1, hinside.2, hstride, haddress⟩, rfl⟩
            · cases hplace
          · cases hplace
        · cases hplace
  · rintro ⟨h, rfl⟩
    have hend := h.end_lt
    have hstart : b.start? = some b.first := start?_eq_some.mpr ⟨rfl, by omega⟩
    have hstop : b.end? b.first rows columns = some _ := end?_eq_some.mpr ⟨rfl, hend⟩
    unfold place
    simp only [hstart, hstop]
    rw [if_pos ⟨h.columns_le, h.end_le⟩, if_pos h.stride_lt, if_pos h.address_lt]
    rfl

/-- The first element of a block that fits begins in the allocation of the matrix. -/
theorem Fits.first_le (hfits : b.Fits rows columns) (hm : b.matrix.Owned memory) :
    b.first * b.matrix.elementType.bytes ≤ b.matrix.storage.size := by
  have hend := hfits.end_le
  change b.first + _ + _ ≤ _ at hend
  exact hm.size_eq ▸ Nat.mul_le_mul_right _ (by omega)

/-- A block of a matrix that owns its elements is checked exactly if it fits. -/
theorem checked_iff_fits (hm : b.matrix.Owned memory) (h : memory.WellFormed) :
    b.Checked rows columns ↔ b.Fits rows columns := by
  have helements := b.matrix.layout.toNat_elements
  have hmax : (Int32.maxValue.toInt : Int) = twoPow 31 - 1 := by decide
  constructor
  · rintro ⟨hcolumns, hend, hstride, -⟩
    refine ⟨hcolumns, ?_, by omega⟩
    change b.first + _ + _ ≤ _
    omega
  · intro hfits
    have hlimit := h.end_le_limit hm.held
    have hlt : Memory.limit < twoPow 64 := by decide
    have hfirst := hfits.first_le hm
    have haddress : b.matrix.address.toNat = b.matrix.storage.address.toNat := rfl
    obtain ⟨hcolumns, hend, hstride⟩ := hfits
    change b.first + _ + _ ≤ _ at hend
    exact ⟨hcolumns, by omega, by omega, by omega⟩

/-- A block of a matrix that owns its elements is placed exactly if it fits. -/
theorem place_eq_ok (hm : b.matrix.Owned memory) (h : memory.WellFormed) {p : UInt64 × Int32} :
    b.place i rows columns = .ok p ↔ b.Fits rows columns ∧ p = b.kept := by
  rw [place_iff_checked, checked_iff_fits hm h]

/-- The address and the stride of a block that fits do not overflow. -/
theorem Fits.kept_eq (hfits : b.Fits rows columns) (hm : b.matrix.Owned memory)
    (h : memory.WellFormed) :
    b.kept.1.toNat = b.matrix.address.toNat + b.first * b.matrix.elementType.bytes ∧
      b.kept.2.toInt = b.stride.toNat :=
  ((checked_iff_fits hm h).mpr hfits).kept_eq

/-- Placing a block of a matrix that owns its elements never overflows. -/
theorem place_ne_overflow (hm : b.matrix.Owned memory) (h : memory.WellFormed)
    (operation : String) : b.place i rows columns ≠ .error (.overflow operation) := by
  unfold place
  simp only []
  split
  · nofun
  · next start hstart =>
    obtain ⟨rfl, -⟩ := start?_eq_some.mp hstart
    split
    · nofun
    · next stop hstop =>
      obtain ⟨rfl, -⟩ := end?_eq_some.mp hstop
      split
      · next hinside =>
        split
        · next hstride =>
          have hmax : (Int32.maxValue.toInt : Int) = twoPow 31 - 1 := by decide
          have hend := hinside.2
          rw [Layout.toNat_elements] at hend
          have hfits : b.Fits rows columns := by
            refine ⟨hinside.1, ?_, by omega⟩
            change b.first + _ + _ ≤ _
            omega
          rw [if_pos ((checked_iff_fits hm h).mpr hfits).address_lt]
          nofun
        · nofun
      · nofun

/-- Every element of a block that fits lies wholly inside the allocation of the matrix. -/
theorem Fits.element_inside (hfits : b.Fits rows columns) (hm : b.matrix.Owned memory) {r c : Nat}
    (hr : r < rows.toNat) (hc : c < columns.toNat) :
    (b.first + (r * b.stride.toNat + c)) * b.matrix.elementType.bytes +
      b.matrix.elementType.bytes ≤ b.matrix.storage.size := by
  have hend := hfits.end_le
  have hrow : r * b.stride.toNat ≤ (rows.toNat - 1) * b.stride.toNat :=
    Nat.mul_le_mul_right _ (by omega)
  change b.first + _ + _ ≤ _ at hend
  have hle : b.first + (r * b.stride.toNat + c) + 1 ≤
      b.matrix.layout.leading.toNat * b.matrix.layout.rows.toNat := by omega
  rw [hm.size_eq, ← Nat.succ_mul]
  exact Nat.mul_le_mul_right _ hle

end Block

/-! ### All blocks -/

namespace View

variable {allocator : Allocator} {matrices : List Matrix} {rowMap columnMap : List UInt64}
  {strides? : Option (List UInt64)} {rows columns : UInt64} {memory memory' : Memory}

/-- The block that the maps describe at a number; rows are as far apart as in the matrix unless
strides are given. -/
def blockAt? (matrices : List Matrix) (rowMap columnMap : List UInt64)
    (strides? : Option (List UInt64)) (i : Nat) : Option Block := do
  let matrix ← matrices[i]?
  let row ← rowMap[i]?
  let column ← columnMap[i]?
  match strides? with
  | some strides => return ⟨matrix, row, column, ← strides[i]?⟩
  | none => return ⟨matrix, row, column, matrix.layout.leading⟩

/-- The blocks of a view are those that the maps describe one by one. -/
theorem getElem?_blocks (i : Nat) :
    (blocks matrices rowMap columnMap strides?)[i]? =
      blockAt? matrices rowMap columnMap strides? i := by
  cases strides? with
  | some strides =>
    simp only [blocks, blockAt?, Option.getD_some, List.getElem?_map, List.zip,
      List.getElem?_zipWith]
    rcases matrices[i]? with - | m <;> rcases rowMap[i]? with - | row <;>
      rcases columnMap[i]? with - | column <;> rcases strides[i]? with - | stride <;> rfl
  | none =>
    simp only [blocks, blockAt?, Option.getD_none, List.getElem?_map, List.zip,
      List.getElem?_zipWith]
    rcases matrices[i]? with - | m <;> rcases rowMap[i]? with - | row <;>
      rcases columnMap[i]? with - | column <;> rfl

/-- The blocks of a view lie in its matrices. -/
theorem matrix_mem_of_mem_blocks {b : Block} (hb : b ∈ blocks matrices rowMap columnMap strides?) :
    b.matrix ∈ matrices := by
  obtain ⟨entry, hentry, rfl⟩ := List.mem_map.mp hb
  exact (List.of_mem_zip (List.of_mem_zip hentry).1).1

/-- So the matrices of the blocks own their elements if those of the view do. -/
theorem owned_of_mem_blocks (hm : ∀ m ∈ matrices, m.Owned memory) :
    ∀ b ∈ blocks matrices rowMap columnMap strides?, b.matrix.Owned memory :=
  fun _ hb => hm _ (matrix_mem_of_mem_blocks hb)

/-- There is a block for each matrix. -/
theorem length_blocks (hrows : rowMap.length = matrices.length)
    (hcolumns : columnMap.length = matrices.length)
    (hstrides : ∀ strides ∈ strides?, strides.length = matrices.length) :
    (blocks matrices rowMap columnMap strides?).length = matrices.length := by
  have hlength : (strides?.getD (matrices.map (·.layout.leading))).length = matrices.length := by
    cases strides? with
    | none => simp
    | some strides => exact hstrides strides rfl
  simp only [blocks, List.length_map, List.length_zip]
  omega

/-- Blocks are placed exactly if the checks of all of them succeed. -/
theorem places_iff_checked {bs : List Block} {i : Nat} {ps : List (UInt64 × Int32)} :
    places rows columns i bs = .ok ps ↔
      (∀ b ∈ bs, b.Checked rows columns) ∧ ps = bs.map Block.kept := by
  induction bs generalizing i ps with
  | nil =>
    rw [places, Except.ok.injEq]
    exact ⟨fun heq => ⟨nofun, heq.symm⟩, fun hall => hall.2.symm⟩
  | cons b rest ih =>
    simp only [places, bind, Except.bind, pure, Except.pure]
    constructor
    · intro hplaces
      split at hplaces
      · cases hplaces
      · next p hp =>
        obtain ⟨hchecked, rfl⟩ := Block.place_iff_checked.mp hp
        split at hplaces
        · cases hplaces
        · next ps' hps' =>
          obtain ⟨hall, rfl⟩ := ih.mp hps'
          cases hplaces
          exact ⟨List.forall_mem_cons.mpr ⟨hchecked, hall⟩, rfl⟩
    · rintro ⟨hall, rfl⟩
      obtain ⟨hchecked, hall⟩ := List.forall_mem_cons.mp hall
      rw [Block.place_iff_checked.mpr ⟨hchecked, rfl⟩]
      simp only []
      rw [ih.mpr ⟨hall, rfl⟩]
      rfl

/-- Blocks of matrices that own their elements are placed exactly if all of them fit. -/
theorem places_eq_ok (h : memory.WellFormed) {bs : List Block}
    (hm : ∀ b ∈ bs, b.matrix.Owned memory) {i : Nat} {ps : List (UInt64 × Int32)} :
    places rows columns i bs = .ok ps ↔
      (∀ b ∈ bs, b.Fits rows columns) ∧ ps = bs.map Block.kept := by
  rw [places_iff_checked]
  exact and_congr_left' (forall₂_congr fun b hb => Block.checked_iff_fits (hm b hb) h)

/-- Placing blocks of matrices that own their elements never overflows. -/
theorem places_ne_overflow (h : memory.WellFormed) {bs : List Block}
    (hm : ∀ b ∈ bs, b.matrix.Owned memory) (i : Nat) (operation : String) :
    places rows columns i bs ≠ .error (.overflow operation) := by
  induction bs generalizing i with
  | nil => nofun
  | cons b rest ih =>
    obtain ⟨hfirst, hrest⟩ := List.forall_mem_cons.mp hm
    simp only [places, bind, Except.bind, pure, Except.pure]
    split
    · next error herror =>
      intro heq
      cases heq
      exact Block.place_ne_overflow hfirst h operation herror
    · split
      · next error herror =>
        intro heq
        cases heq
        exact ih hrest (i + 1) herror
      · nofun

/-! ### Distinct allocations -/

/-- Keeping a matrix unless its allocation is there keeps no allocation twice. -/
theorem countP_step {kept : List Matrix} {m : Matrix}
    (h : ∀ x : Matrix, kept.countP (·.sharesStorage x) ≤ 1) (x : Matrix) :
    (if kept.any (·.sharesStorage m) then kept else kept ++ [m]).countP (·.sharesStorage x) ≤ 1 := by
  split
  · exact h x
  · next hnew =>
    rw [List.countP_append, List.countP_singleton]
    split
    · next hshares =>
      have hzero : kept.countP (·.sharesStorage x) = 0 := by
        refine List.countP_eq_zero.mpr fun k hk hkx => hnew (List.any_eq_true.mpr ⟨k, hk, ?_⟩)
        simp only [Matrix.sharesStorage, decide_eq_true_eq] at hshares hkx ⊢
        exact hkx.trans hshares.symm
      omega
    · exact h x

/-- Afterwards its allocation is there. -/
theorem pos_countP_step (kept : List Matrix) (m : Matrix) :
    0 < (if kept.any (·.sharesStorage m) then kept else kept ++ [m]).countP
      (·.sharesStorage m) := by
  rw [List.countP_pos_iff]
  split
  · next hold => exact List.any_eq_true.mp hold
  · exact ⟨m, List.mem_append_right _ List.mem_cons_self, by simp [Matrix.sharesStorage]⟩

/-- Matrices that are kept one after the other are the distinct ones, and none are lost. -/
theorem foldl_distinct {ms kept : List Matrix}
    (h : ∀ x : Matrix, kept.countP (·.sharesStorage x) ≤ 1) :
    let kept' := ms.foldl
      (fun kept m => if kept.any (·.sharesStorage m) then kept else kept ++ [m]) kept
    kept.Sublist kept' ∧ (∀ x : Matrix, kept'.countP (·.sharesStorage x) ≤ 1) ∧
      (∀ m ∈ ms, 0 < kept'.countP (·.sharesStorage m)) ∧ ∀ m ∈ kept', m ∈ kept ∨ m ∈ ms := by
  induction ms generalizing kept with
  | nil => exact ⟨List.Sublist.refl _, h, nofun, fun m hm => .inl hm⟩
  | cons m rest ih =>
    obtain ⟨hsub, hmost, hleast, hmem⟩ := ih (countP_step (m := m) h)
    refine ⟨List.Sublist.trans ?_ hsub, hmost, List.forall_mem_cons.mpr ⟨?_, hleast⟩, ?_⟩
    · split
      · exact List.Sublist.refl _
      · exact List.sublist_append_left _ _
    · exact Nat.lt_of_lt_of_le (pos_countP_step kept m) hsub.countP_le
    · intro x hx
      rcases hmem x hx with hstep | hrest
      · split at hstep
        · exact .inl hstep
        · rcases List.mem_append.mp hstep with hold | hnew
          · exact .inl hold
          · exact .inr (List.mem_singleton.mp hnew ▸ List.mem_cons_self)
      · exact .inr (List.mem_cons_of_mem _ hrest)

/-- Each allocation of a list of matrices is kept exactly once. -/
theorem countP_distinctStorages {m : Matrix} (hm : m ∈ matrices) :
    (distinctStorages matrices).countP (·.sharesStorage m) = 1 := by
  obtain ⟨-, hmost, hleast, -⟩ := @foldl_distinct matrices [] (fun _ => Nat.zero_le 1)
  exact Nat.le_antisymm (hmost m) (hleast m hm)

/-- What is kept comes from the list. -/
theorem mem_of_mem_distinctStorages {m : Matrix} (hm : m ∈ distinctStorages matrices) :
    m ∈ matrices := by
  obtain ⟨-, -, -, hmem⟩ := @foldl_distinct matrices [] (fun _ => Nat.zero_le 1)
  exact (hmem m hm).resolve_left List.not_mem_nil

end View

end KernelForge
