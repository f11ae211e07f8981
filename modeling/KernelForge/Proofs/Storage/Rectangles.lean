import KernelForge.Proofs.Storage.Entries
import KernelForge.Proofs.Storage.Views
import Mathlib.Tactic.Ring

/-!
# Blocks that are rectangles

Where no strides are given, the rows of a block are as far apart as those of its matrix, so the block
is a rectangle of the matrix. That its rows are rows of the matrix is never compared: it follows from
where the last row ends, since a row of the block, which has at least one column, does not fit into
what is left after the last row of the matrix.
-/

namespace KernelForge

/-! ### One block -/

/-- A rectangle of so many rows and columns lies in a matrix, and the distance of its rows is a
32-bit integer. -/
structure Matrix.HasRectangle (m : Matrix) (row column rows columns : UInt64) : Prop where
  rows_le : row.toNat + rows.toNat ≤ m.layout.rows.toNat
  columns_le : column.toNat + columns.toNat ≤ m.layout.columns.toNat
  leading_le : (m.layout.leading.toNat : Int) ≤ Int32.maxValue.toInt

/-- The elements that are reached from an address with a stride are those of a rectangle of a matrix:
none of them is padding, and different ones have different addresses. -/
structure Matrix.Rectangle (m : Matrix) (row column rows columns address : UInt64)
    (stride : Int32) : Prop where
  entry_eq : ∀ r c : Nat, r < rows.toNat → c < columns.toNat →
    (address.toNat : Int) + (r * stride.toInt + c) * m.elementType.bytes =
      m.entryAddress (row.toNat + r) (column.toNat + c)
  isElement : ∀ r c : Nat, r < rows.toNat → c < columns.toNat →
    row.toNat + r < m.layout.rows.toNat ∧ column.toNat + c < m.layout.columns.toNat
  not_padding : ∀ r c address' : Nat, r < rows.toNat → c < columns.toNat →
    (address' : Int) = address.toNat + (r * stride.toInt + c) * m.elementType.bytes →
      ¬ m.PaddingAt address'
  distinct : ∀ r c r' c' : Nat, r < rows.toNat → c < columns.toNat → r' < rows.toNat →
    c' < columns.toNat →
    (address.toNat : Int) + (r * stride.toInt + c) * m.elementType.bytes =
      address.toNat + (r' * stride.toInt + c') * m.elementType.bytes → r = r' ∧ c = c'

namespace Block

variable {b : Block} {rows columns : UInt64} {memory : Memory}

/-- The last row of a rectangle ends within the elements of a matrix exactly if the rows of the
rectangle are rows of the matrix. -/
theorem end_le_iff {row column rows columns matrixRows matrixColumns leading : Nat}
    (hrows : 0 < rows) (hcolumns : 0 < columns) (hinside : column + columns ≤ matrixColumns)
    (hleading : matrixColumns ≤ leading) :
    row * leading + column + (rows - 1) * leading + columns ≤ leading * matrixRows ↔
      row + rows ≤ matrixRows := by
  have hlast : row * leading + (rows - 1) * leading = (row + rows - 1) * leading := by
    rw [← Nat.add_mul]
    congr 1
    omega
  constructor
  · intro hend
    have hlt : (row + rows - 1) * leading < matrixRows * leading := by
      rw [Nat.mul_comm matrixRows]
      omega
    have hrow := Nat.lt_of_mul_lt_mul_right hlt
    omega
  · intro hle
    have hmul : (row + rows - 1) * leading + leading ≤ matrixRows * leading := by
      rw [← Nat.succ_mul]
      exact Nat.mul_le_mul_right leading (by omega)
    rw [Nat.mul_comm leading]
    omega

/-- A block whose rows are as far apart as those of its matrix fits exactly if it is a rectangle of the
matrix. -/
theorem fits_iff_hasRectangle (hstride : b.stride = b.matrix.layout.leading)
    (hrows : 0 < rows.toNat) (hcolumns : 0 < columns.toNat) :
    b.Fits rows columns ↔ b.matrix.HasRectangle b.row b.column rows columns := by
  have hlayout := b.matrix.layout.accepted
  constructor
  · rintro ⟨hcolumnsLe, hend, hstrideLe⟩
    rw [hstride] at hend hstrideLe
    exact ⟨(end_le_iff hrows hcolumns hcolumnsLe hlayout.columns_le).mp hend, hcolumnsLe, hstrideLe⟩
  · rintro ⟨hrowsLe, hcolumnsLe, hleadingLe⟩
    refine ⟨hcolumnsLe, ?_, ?_⟩
    · rw [hstride]
      exact (end_le_iff hrows hcolumns hcolumnsLe hlayout.columns_le).mpr hrowsLe
    · rw [hstride]
      exact hleadingLe

/-- What a view holds for a block that is a rectangle of its matrix. -/
theorem Fits.rectangle (hfits : b.Fits rows columns) (hm : b.matrix.Owned memory)
    (h : memory.WellFormed) (hstride : b.stride = b.matrix.layout.leading)
    (hrows : 0 < rows.toNat) (hcolumns : 0 < columns.toNat) :
    b.matrix.Rectangle b.row b.column rows columns b.kept.1 b.kept.2 := by
  obtain ⟨haddress, hkept⟩ := hfits.kept_eq hm h
  obtain ⟨hrowsLe, hcolumnsLe, -⟩ :=
    (fits_iff_hasRectangle hstride hrows hcolumns).mp hfits
  have hcolumnsLeading := b.matrix.layout.accepted.columns_le
  have hentry (r c : Nat) :
      (b.kept.1.toNat : Int) + (r * b.kept.2.toInt + c) * b.matrix.elementType.bytes =
        b.matrix.entryAddress (b.row.toNat + r) (b.column.toNat + c) := by
    rw [haddress, hkept, hstride, Matrix.entryAddress, first]
    push_cast
    ring
  have helement (r c : Nat) (hr : r < rows.toNat) (hc : c < columns.toNat) :
      b.row.toNat + r < b.matrix.layout.rows.toNat ∧
        b.column.toNat + c < b.matrix.layout.columns.toNat := by
    omega
  refine ⟨fun r c _ _ => hentry r c, helement, fun r c address' hr hc heq => ?_,
    fun r c r' c' hr hc hr' hc' heq => ?_⟩
  · rw [hentry, Int.natCast_inj] at heq
    obtain ⟨hrow, hcolumn⟩ := helement r c hr hc
    have hat : b.matrix.ElementAt address' := ⟨_, _, hrow, hcolumn, heq⟩
    exact hat.not_paddingAt
  · rw [hentry, hentry, Int.natCast_inj] at heq
    obtain ⟨hrow, hcolumn⟩ := Matrix.entryAddress_inj (by omega) (by omega) heq
    omega

end Block

/-! ### All blocks -/

namespace View

variable {allocator : Allocator} {matrices : List Matrix} {rowMap columnMap : List UInt64}
  {rows columns : UInt64} {memory : Memory}

/-- The blocks that the maps describe where no strides are given. -/
theorem getElem?_blocks_none {i : Nat} {b : Block} :
    (blocks matrices rowMap columnMap none)[i]? = some b ↔
      matrices[i]? = some b.matrix ∧ rowMap[i]? = some b.row ∧ columnMap[i]? = some b.column ∧
        b.stride = b.matrix.layout.leading := by
  obtain ⟨matrix, row, column, stride⟩ := b
  rw [getElem?_blocks]
  rcases hmatrix : matrices[i]? with - | m <;> rcases hrow : rowMap[i]? with - | r <;>
    rcases hcolumn : columnMap[i]? with - | c <;>
    simp [blockAt?, hmatrix, hrow, hcolumn, eq_comm]
  rintro rfl - -
  rfl

/-- What holds of all blocks holds of what the maps describe one by one. -/
theorem forall_blocks_none {p : Block → Prop} :
    (∀ b ∈ blocks matrices rowMap columnMap none, p b) ↔
      ∀ (i : Nat) (m : Matrix) (row column : UInt64), matrices[i]? = some m →
        rowMap[i]? = some row → columnMap[i]? = some column →
        p ⟨m, row, column, m.layout.leading⟩ := by
  constructor
  · intro hall i m row column hmatrix hrow hcolumn
    exact hall _ (List.mem_of_getElem? (getElem?_blocks_none.mpr ⟨hmatrix, hrow, hcolumn, rfl⟩))
  · rintro hall ⟨m, row, column, stride⟩ hb
    obtain ⟨i, hi⟩ := List.mem_iff_getElem?.mp hb
    obtain ⟨hmatrix, hrow, hcolumn, hstride⟩ := getElem?_blocks_none.mp hi
    change stride = m.layout.leading at hstride
    rw [hstride]
    exact hall i m row column hmatrix hrow hcolumn

/-- Where no strides are given, views are made exactly of rectangles that lie in their matrices and
whose rows are at most as far apart as a 32-bit integer says. What a view that was made reaches are
the elements of the rectangles. -/
theorem created_iff_rectangles (h : memory.WellFormed) (hm : ∀ m ∈ matrices, m.Owned memory)
    (hgrant : ∀ size, size ≠ 0 → allocator.grant size = .ok size)
    (hroom : memory.HasRoom [matrices.length * 8, matrices.length * 4]) :
    ((∃ view memory', create allocator matrices rowMap columnMap none rows columns memory =
          .ok (view, memory')) ↔
        Described matrices rowMap columnMap none rows columns ∧
          ∀ (i : Nat) (m : Matrix) (row column : UInt64), matrices[i]? = some m →
            rowMap[i]? = some row → columnMap[i]? = some column →
            m.HasRectangle row column rows columns) ∧
      ∀ view memory', create allocator matrices rowMap columnMap none rows columns memory =
          .ok (view, memory') →
        ∃ addresses strides, view.addresses memory' = .ok (addresses, memory') ∧
          view.strideValues memory' = .ok (strides, memory') ∧
          addresses.length = matrices.length ∧ strides.length = matrices.length ∧
          ∀ i < matrices.length, ∃ (m : Matrix) (row column address : UInt64) (stride : Int32),
            matrices[i]? = some m ∧ rowMap[i]? = some row ∧ columnMap[i]? = some column ∧
            addresses[i]? = some address ∧ strides[i]? = some stride ∧
            m.Rectangle row column rows columns address stride := by
  constructor
  · rw [exists_create_iff h hm hgrant hroom]
    refine and_congr_right fun hdescribed => ?_
    have hiff {m : Matrix} {row column : UInt64} :
        (⟨m, row, column, m.layout.leading⟩ : Block).Fits rows columns ↔
          m.HasRectangle row column rows columns :=
      Block.fits_iff_hasRectangle rfl hdescribed.rows_pos hdescribed.columns_pos
    rw [forall_blocks_none]
    simp only [hiff]
  · intro view memory' hcreate
    obtain ⟨hrecords, -, -, -, hdescribed, hfits⟩ := create_records h hm hcreate
    have hlength := length_blocks hdescribed.rowMap_length hdescribed.columnMap_length
      hdescribed.strides_length
    refine ⟨_, _, hrecords.addresses, hrecords.strideValues, by simp [hlength], by simp [hlength],
      fun i hi => ?_⟩
    have hb := List.getElem?_eq_getElem (hlength.symm ▸ hi)
    obtain ⟨hmatrix, hrow, hcolumn, hstride⟩ := getElem?_blocks_none.mp hb
    have hmem := List.mem_of_getElem? hmatrix
    refine ⟨_, _, _, _, _, hmatrix, hrow, hcolumn, ?_, ?_,
      (hfits _ (List.mem_of_getElem? hb)).rectangle (hm _ hmem) h hstride
        hdescribed.rows_pos hdescribed.columns_pos⟩
    · simp only [List.getElem?_map, hb, Option.map_some]
    · simp only [List.getElem?_map, hb, Option.map_some]

/-- A matrix of three rows of three elements, each followed by one of padding. -/
def borderedMatrix : Matrix :=
  ⟨⟨0, 0x55813e400000, 96⟩, ⟨.float64, 3, 3, 4, 4, .dense, by decide, (by decide : 96 < twoPow 64)⟩⟩

/-- The last rectangle of a padded matrix is a block, and its elements are those of the matrix. -/
theorem lastRectangle_created :
    ∃ view memory' addresses strides address stride,
      create .host [borderedMatrix] [1] [1] none 2 2 tiledMemory = .ok (view, memory') ∧
      view.addresses memory' = .ok (addresses, memory') ∧ addresses[0]? = some address ∧
      view.strideValues memory' = .ok (strides, memory') ∧ strides[0]? = some stride ∧
      borderedMatrix.Rectangle 1 1 2 2 address stride := by
  have howned : borderedMatrix.Owned tiledMemory := ⟨⟨_, rfl, rfl, rfl⟩, by decide⟩
  have hgrant : ∀ size, size ≠ 0 → Allocator.host.grant size = .ok size := fun _ h => if_neg h
  have hroom : tiledMemory.HasRoom [1 * 8, 1 * 4] :=
    ⟨by decide, by decide, by decide, by decide, trivial⟩
  obtain ⟨hiff, hall⟩ := @created_iff_rectangles .host [borderedMatrix] [1] [1] 2 2 tiledMemory
    wellFormed_tiledMemory (by simp [howned]) hgrant hroom
  have hdescribed : Described [borderedMatrix] [1] [1] none 2 2 :=
    ⟨by decide, by decide, by decide, rfl, rfl, nofun, by simp⟩
  have hrectangle : borderedMatrix.HasRectangle 1 1 2 2 := ⟨by decide, by decide, by decide⟩
  obtain ⟨view, memory', hcreate⟩ := hiff.mpr ⟨hdescribed, fun i m row column hm hr hc => by
    cases i with
    | zero =>
      cases hm
      cases hr
      cases hc
      exact hrectangle
    | succ i => cases hm⟩
  obtain ⟨addresses, strides, haddresses, hstrides, -, -, hblocks⟩ := hall view memory' hcreate
  obtain ⟨m, row, column, address, stride, hm, hr, hc, haddress, hstride, hreached⟩ :=
    hblocks 0 Nat.one_pos
  cases hm
  cases hr
  cases hc
  exact ⟨view, memory', addresses, strides, address, stride, hcreate, haddresses, haddress,
    hstrides, hstride, hreached⟩

end View

end KernelForge
