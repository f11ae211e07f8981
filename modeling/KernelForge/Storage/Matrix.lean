import KernelForge.Storage.Memory

/-!
# Matrices

A matrix is stored by rows in one allocation. Consecutive rows are `leading` elements apart, of which
the first `columns` belong to the matrix and the rest is padding. Writing a matrix clears its
padding. Sizes are 64-bit numbers. A matrix whose bytes are not one is never made: the program ends
at the product that overflows.
-/

namespace KernelForge

/-- How many elements of a matrix are expected not to be zero. -/
inductive Density where
  | dense
  | sparse
  deriving DecidableEq, Repr, Inhabited

namespace Density

/-- The lower-case word for a density. -/
def name : Density → String
  | dense => "dense"
  | sparse => "sparse"

/-- The capitalised word that record texts use. -/
def label : Density → String
  | dense => "Dense"
  | sparse => "Sparse"

end Density

/-- Sizes that a new matrix is not refused for. -/
structure Layout.Accepted (rows columns leading subLeading : UInt64) : Prop where
  rows_pos : 0 < rows.toNat
  columns_pos : 0 < columns.toNat
  columns_le : columns.toNat ≤ leading.toNat
  subLeading_pos : 1 ≤ subLeading.toNat
  subLeading_le : subLeading.toNat ≤ leading.toNat

/-- How a matrix lies in memory. Its sizes are accepted and its bytes are a 64-bit number. Matrices
take part in one element-wise operation only when their layouts are equal. -/
structure Layout where
  elementType : ElementType
  rows : UInt64
  columns : UInt64
  /-- Elements between the beginnings of consecutive rows. -/
  leading : UInt64
  /-- The stride that kernels with a strided argument see. -/
  subLeading : UInt64
  density : Density
  accepted : Layout.Accepted rows columns leading subLeading
  bytes_lt : leading.toNat * rows.toNat * elementType.bytes < twoPow 64
  deriving DecidableEq, Repr

namespace Layout

section Sizes

variable {rows columns leading subLeading : UInt64}

/-- Sizes are accepted exactly if none of the three checks on them finds something. -/
theorem accepted_iff : Accepted rows columns leading subLeading ↔
    ¬(rows = 0 ∨ columns = 0) ∧ ¬leading < columns ∧
      ¬(subLeading = 0 ∨ leading < subLeading) := by
  have hzero (n : UInt64) : n = 0 ↔ n.toNat = 0 := by
    rw [← UInt64.toNat_inj]
    rfl
  simp only [hzero, UInt64.lt_iff_toNat_lt]
  constructor
  · rintro ⟨hrows, hcolumns, hleading, hsub, hinside⟩
    omega
  · rintro ⟨hshape, hleading, hsub⟩
    exact ⟨by omega, by omega, by omega, by omega, by omega⟩

instance : Decidable (Accepted rows columns leading subLeading) :=
  decidable_of_iff _ accepted_iff.symm

end Sizes

instance : Inhabited Layout := ⟨⟨default, 1, 1, 1, 1, default, by decide, by decide⟩⟩

variable (layout : Layout)

/-- Elements of the allocation, padding included. -/
def elements : UInt64 := layout.leading * layout.rows

/-- Bytes of the allocation. -/
def bytes : UInt64 := layout.elements * UInt64.ofNat layout.elementType.bytes

/-- Rows are not empty. -/
theorem leading_pos : 0 < layout.leading.toNat :=
  Nat.lt_of_lt_of_le layout.accepted.columns_pos layout.accepted.columns_le

/-- The elements of an allocation are those of its rows: their product does not overflow, since
that of their bytes does not. -/
@[simp] theorem toNat_elements :
    layout.elements.toNat = layout.leading.toNat * layout.rows.toNat := by
  have hle : layout.leading.toNat * layout.rows.toNat ≤
      layout.leading.toNat * layout.rows.toNat * layout.elementType.bytes :=
    Nat.le_mul_of_pos_right _ layout.elementType.bytes_pos
  exact (UInt64.toNat_mul ..).trans (Nat.mod_eq_of_lt (Nat.lt_of_le_of_lt hle layout.bytes_lt))

/-- The elements of a matrix are no more than those of its allocation, so their number does not
overflow either. -/
theorem toNat_count :
    (layout.rows * layout.columns).toNat = layout.rows.toNat * layout.columns.toNat := by
  have hlt := layout.elements.toNat_lt
  have hle := Nat.mul_le_mul_left layout.rows.toNat layout.accepted.columns_le
  rw [toNat_elements, Nat.mul_comm] at hlt
  exact (UInt64.toNat_mul ..).trans (Nat.mod_eq_of_lt (Nat.lt_of_le_of_lt hle hlt))

/-- The bytes of an allocation are those of its elements. -/
@[simp] theorem toNat_bytes : layout.bytes.toNat =
    layout.leading.toNat * layout.rows.toNat * layout.elementType.bytes := by
  have htype : layout.elementType.bytes < UInt64.size := by cases layout.elementType <;> decide
  rw [bytes, UInt64.toNat_mul, toNat_elements, UInt64.toNat_ofNat_of_lt' htype]
  exact Nat.mod_eq_of_lt layout.bytes_lt

/-- The record text of a layout. -/
def describe : String :=
  Text.recordText "MatrixTraits"
    [("dtype", layout.elementType.name), ("nrow", toString layout.rows),
      ("ncol", toString layout.columns), ("leaddim", toString layout.leading),
      ("leadsubdim", toString layout.subLeading), ("density", layout.density.label)]

/-- The layout of given sizes: rows touch unless a leading dimension is given. -/
def make (type : ElementType) (rows columns : UInt64) (leading? subLeading? : Option UInt64)
    (density : Density) : Except StorageError Layout :=
  if hshape : rows = 0 ∨ columns = 0 then .error (.emptyShape "matrix" [rows, columns])
  else
    let leading := leading?.getD columns
    if hleading : leading < columns then
      .error (.invalidLayout (.leadingTooSmall leading columns))
    else
      let subLeading := subLeading?.getD leading
      if hsub : subLeading = 0 ∨ leading < subLeading then
        .error (.invalidLayout (.subOutside subLeading leading))
      -- One of the two products for elements and bytes overflows exactly if that of all three does.
      else if hbytes : leading.toNat * rows.toNat * type.bytes < twoPow 64 then
        .ok ⟨type, rows, columns, leading, subLeading, density,
          accepted_iff.mpr ⟨hshape, hleading, hsub⟩, hbytes⟩
      else .error (.overflow "multiply")

end Layout

/-- A matrix in memory. -/
structure Matrix where
  storage : Allocation
  layout : Layout
  deriving DecidableEq, Repr, Inhabited

namespace Matrix

/-- A new matrix of zeros. -/
def create (allocator : Allocator) (type : ElementType) (rows columns : UInt64)
    (leading? subLeading? : Option UInt64 := none) (density : Density := .dense) :
    MemoryM Matrix := do
  let layout ← Layout.make type rows columns leading? subLeading? density
  return ⟨← Memory.allocate allocator layout.bytes, layout⟩

variable (m : Matrix)

def elementType : ElementType := m.layout.elementType

/-- The address of the first element. -/
def address : UInt64 := m.storage.address

/-- Whether two matrices are one allocation. -/
def sharesStorage (other : Matrix) : Bool := m.storage.index = other.storage.index

/-- Refuses elements of another type than the matrix holds. -/
def checkType (t : ElementType) : Except StorageError Unit :=
  if t = m.elementType then .ok () else .error (.typeMismatch m.elementType t)

/-- The values in a run of bytes, as many as fit. -/
def decodeAll (t : ElementType) (count : Nat) (bytes : List UInt8) : List t.Value :=
  match count with
  | 0 => []
  | count + 1 => t.decode (bytes.take t.bytes) :: decodeAll t count (bytes.drop t.bytes)

/-- Cuts a list into pieces of a length; a shorter rest is left out. -/
def chunks {α : Type} (length : Nat) : Nat → List α → List (List α)
  | 0, _ => []
  | count + 1, list => list.take length :: chunks length count (list.drop length)

/-- The rows of a matrix with zeros after each up to the leading dimension. -/
def padded (t : ElementType) (columns leading : Nat) (rows : List (List t.Value)) :
    List t.Value :=
  rows.flatMap fun row => row ++ List.replicate (leading - columns) t.zero

/-- Overwrites the matrix, given by rows without padding. -/
def set (t : ElementType) (data : List t.Value) : MemoryM Unit := do
  m.checkType t
  let count := m.layout.rows * m.layout.columns
  if data.length ≠ count.toNat then throw (.sizeMismatch count data.length)
  let columns := m.layout.columns.toNat
  let leading := m.layout.leading.toNat
  let total := m.layout.elements.toNat
  Memory.checkRange m.storage 0 (total * t.bytes)
  let rows := chunks columns (min (total / leading) (data.length / columns)) data
  let values := padded t columns leading rows
  let values := values ++ List.replicate (total - values.length) t.zero
  Memory.copyIn m.storage 0 (values.flatMap t.encode)

/-- Sets every element to one value. -/
def fill (t : ElementType) (value : t.Value) : MemoryM Unit := do
  m.checkType t
  Memory.checkRange m.storage 0 (m.layout.elements.toNat * t.bytes)
  m.set t (List.replicate (m.layout.rows * m.layout.columns).toNat value)

/-- All elements of the allocation, padding included. -/
def raw (t : ElementType) (count : Nat) : MemoryM (List t.Value) := do
  return decodeAll t count (← Memory.copyOut m.storage 0 (count * t.bytes))

/-- The elements by rows, without padding. -/
def get (t : ElementType) : MemoryM (List t.Value) := do
  m.checkType t
  let total := m.layout.elements.toNat
  let leading := m.layout.leading.toNat
  let values ← m.raw t total
  return (chunks leading (total / leading) values).flatMap (·.take m.layout.columns.toNat)

end Matrix

end KernelForge
