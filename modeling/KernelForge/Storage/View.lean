import KernelForge.Storage.Matrix

/-!
# Views

A view is a list of equally large blocks that lie anywhere in one or more matrices. Kernels reach a
block through two buffers: the mapping holds the address of its first element, the strides hold the
distance of its rows in elements. Index arithmetic that leaves the 64-bit range refuses the block. An
exchange view adds a matrix with one column for each block, and the product that counts its rows is
not checked: the program ends where it overflows.
-/

namespace KernelForge

/-- Where a block of a view begins, and the distance of its rows. -/
structure Block where
  matrix : Matrix
  row : UInt64
  column : UInt64
  stride : UInt64
  deriving DecidableEq, Repr

namespace Block

/-- The element at which the block begins, when it is a 64-bit number. -/
def start? (b : Block) : Option Nat :=
  let start := b.row.toNat * b.matrix.layout.leading.toNat + b.column.toNat
  if start < twoPow 64 then some start else none

/-- The element after the last one of a block of so many rows and columns, when it is a 64-bit
number. -/
def end? (b : Block) (start : Nat) (rows columns : UInt64) : Option Nat :=
  let stop := (rows.toNat - 1) * b.stride.toNat + start + columns.toNat
  if stop < twoPow 64 then some stop else none

/-- The address and the row stride of block `i`, when the block lies in its matrix. -/
def place (b : Block) (i : Nat) (rows columns : UInt64) : Except StorageError (UInt64 × Int32) :=
  let refusal : StorageError := .invalidView (.exceedsMatrix i b.row b.column)
  match b.start? with
  | none => .error refusal
  | some start =>
      match b.end? start rows columns with
      | none => .error refusal
      | some stop =>
          if b.column.toNat + columns.toNat ≤ b.matrix.layout.columns.toNat ∧
              stop ≤ b.matrix.layout.elements.toNat then
            if b.stride.toNat < twoPow 31 then
              let address := b.matrix.address.toNat + start * b.matrix.elementType.bytes
              if address < twoPow 64 then
                .ok (UInt64.ofNat address, Int32.ofNat b.stride.toNat)
              else .error (.overflow "add")
            else .error (.invalidView (.strideTooWide b.stride))
          else .error refusal

end Block

/-- Blocks of elements with the buffers through which kernels reach them. -/
structure View where
  mapping : Allocation
  strides : Allocation
  /-- The matrices that the blocks lie in, each allocation once. -/
  backing : List Matrix
  count : Nat
  rows : UInt64
  columns : UInt64
  elementType : ElementType
  deriving DecidableEq, Repr

namespace View

/-- The blocks that the maps describe; rows are as far apart as in the matrix unless strides are
given. -/
def blocks (matrices : List Matrix) (rowMap columnMap : List UInt64)
    (strides? : Option (List UInt64)) : List Block :=
  let strides := strides?.getD (matrices.map (·.layout.leading))
  ((matrices.zip rowMap).zip (columnMap.zip strides)).map fun entry =>
    ⟨entry.1.1, entry.1.2, entry.2.1, entry.2.2⟩

/-- The addresses and strides of blocks that are counted from `i` on. -/
def places (rows columns : UInt64) : Nat → List Block → Except StorageError (List (UInt64 × Int32))
  | _, [] => .ok []
  | i, b :: rest => do
      let place ← b.place i rows columns
      return place :: (← places rows columns (i + 1) rest)

/-- The matrices of a list without those whose allocation came before. -/
def distinctStorages (matrices : List Matrix) : List Matrix :=
  matrices.foldl
    (fun kept m => if kept.any (·.sharesStorage m) then kept else kept ++ [m]) []

/-- A new view of blocks with `rows` rows and `columns` columns. -/
def create (allocator : Allocator) (matrices : List Matrix) (rowMap columnMap : List UInt64)
    (strides? : Option (List UInt64)) (rows columns : UInt64) : MemoryM View := do
  let count := matrices.length
  let some first := matrices.head?
    | throw (.emptyShape "view" [0, rows, columns])
  if rows = 0 ∨ columns = 0 then
    throw (.emptyShape "view" [UInt64.ofNat count, rows, columns])
  unless rowMap.length = count ∧ columnMap.length = count ∧
      (strides?.all fun s => s.length = count) do
    throw (.invalidView (.mapLengths count))
  unless matrices.all (·.elementType = first.elementType) do
    throw (.invalidView .differingTypes)
  let placed ← places rows columns 0 (blocks matrices rowMap columnMap strides?)
  let mapping ← Memory.allocate allocator (UInt64.ofNat (count * 8))
  Memory.copyIn mapping 0 (placed.flatMap fun p => littleEndian 8 p.1.toNat)
  let strides ← Memory.allocate allocator (UInt64.ofNat (count * 4))
  Memory.copyIn strides 0 (placed.flatMap fun p => ElementType.int32.encode p.2)
  return ⟨mapping, strides, distinctStorages matrices, count, rows, columns, first.elementType⟩

/-- The addresses that the mapping holds. -/
def addresses (view : View) : MemoryM (List UInt64) := do
  let bytes ← Memory.copyOut view.mapping 0 (view.count * 8)
  return (Matrix.chunks 8 view.count bytes).map fun b => UInt64.ofNat (ofLittleEndian b)

/-- The strides that the second buffer holds. -/
def strideValues (view : View) : MemoryM (List Int32) := do
  let bytes ← Memory.copyOut view.strides 0 (view.count * 4)
  return Matrix.decodeAll .int32 view.count bytes

end View

/-- A view with the matrix that its elements are exchanged through: column `i` holds block `i`,
flattened row by row. -/
structure ExchangeView where
  view : View
  exchange : Matrix
  deriving DecidableEq, Repr

namespace ExchangeView

/-- The elements of a block of so many rows and columns. -/
def blockElements (rows columns : UInt64) : Except StorageError UInt64 :=
  if rows.toNat * columns.toNat < twoPow 64 then .ok (rows * columns)
  else .error (.overflow "multiply")

/-- A new exchange view. -/
def create (allocator : Allocator) (matrices : List Matrix) (rowMap columnMap : List UInt64)
    (strides? : Option (List UInt64)) (rows columns : UInt64) : MemoryM ExchangeView := do
  let view ← View.create allocator matrices rowMap columnMap strides? rows columns
  let elements ← blockElements rows columns
  return ⟨view, ← Matrix.create allocator view.elementType elements (UInt64.ofNat view.count)⟩

end ExchangeView

end KernelForge
