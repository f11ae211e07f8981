import KernelForge.Element.Bytes
import KernelForge.Storage.Error

/-!
# Memory

Memory is a list of buffers at disjoint ranges of addresses, each beginning at a multiple of the
alignment. A buffer starts out as zeros and keeps only the part that has been written to. An
allocation names a buffer by its number; requests that fail leave memory as it was. The lemmas
describe writing through the bytes of a buffer.
-/

namespace KernelForge

/-- A contiguous range of bytes. Bytes beyond those that are kept are zero. -/
structure Buffer where
  base : Nat
  size : Nat
  kept : Array UInt8
  deriving DecidableEq, Inhabited

namespace Buffer

/-- The byte at an offset. -/
def byte (buffer : Buffer) (offset : Nat) : UInt8 := buffer.kept.getD offset 0

/-- The bytes of a range. -/
def read (buffer : Buffer) (offset length : Nat) : List UInt8 :=
  (List.range' offset length).map buffer.byte

/-- Extends an array with zeros to at least a size. -/
def grow (bytes : Array UInt8) (size : Nat) : Array UInt8 :=
  (size - bytes.size).fold (fun _ _ bytes => bytes.push 0) bytes

/-- Replaces the bytes of an array from an offset on. -/
def overlay (offset : Nat) : List UInt8 → Array UInt8 → Array UInt8
  | [], bytes => bytes
  | b :: rest, bytes => overlay (offset + 1) rest (bytes.setIfInBounds offset b)

/-- Replaces the bytes from an offset on. -/
def write : Buffer → Nat → List UInt8 → Buffer
  | ⟨base, size, kept⟩, offset, bytes =>
      ⟨base, size, overlay offset bytes (grow kept (offset + bytes.length))⟩

/-- Writing does not make a buffer larger. -/
@[simp] theorem write_size (buffer : Buffer) (offset : Nat) (bytes : List UInt8) :
    (buffer.write offset bytes).size = buffer.size := rfl

/-- Nor does it move one. -/
@[simp] theorem write_base (buffer : Buffer) (offset : Nat) (bytes : List UInt8) :
    (buffer.write offset bytes).base = buffer.base := rfl

/-- Zeros that are added at the end make an array longer and change no byte of it. -/
theorem grow_zero (bytes : Array UInt8) (count : Nat) :
    (count.fold (fun _ _ bytes => bytes.push 0) bytes).size = bytes.size + count ∧
      ∀ i, (count.fold (fun _ _ bytes => bytes.push 0) bytes).getD i 0 = bytes.getD i 0 := by
  induction count with
  | zero => simp
  | succ count ih =>
      simp only [Nat.fold_succ, Array.size_push, Array.getD_eq_getD_getElem?]
      refine ⟨by omega, fun i => ?_⟩
      rw [Array.getElem?_push, ← Array.getD_eq_getD_getElem?, ← ih.2 i,
        Array.getD_eq_getD_getElem?]
      split
      · rename_i h
        simp [h]
      · rfl

/-- An array grows to at least the size. -/
theorem size_grow (bytes : Array UInt8) (size : Nat) : size ≤ (grow bytes size).size := by
  rw [grow, (grow_zero bytes _).1]
  omega

/-- Its bytes stay, and those beyond it were zero before. -/
theorem getD_grow (bytes : Array UInt8) (size i : Nat) :
    (grow bytes size).getD i 0 = bytes.getD i 0 := (grow_zero bytes _).2 i

/-- Bytes are replaced in their range and nowhere else. -/
theorem getD_overlay {bytes : List UInt8} {offset : Nat} {array : Array UInt8}
    (h : offset + bytes.length ≤ array.size) (i : Nat) :
    (overlay offset bytes array).getD i 0 =
      if offset ≤ i ∧ i < offset + bytes.length then bytes.getD (i - offset) 0
      else array.getD i 0 := by
  induction bytes generalizing offset array with
  | nil =>
      rw [if_neg (by rw [List.length_nil]; omega)]
      rfl
  | cons b rest ih =>
      simp only [List.length_cons] at h ⊢
      rw [overlay, ih (by simp; omega)]
      by_cases hi : i = offset
      · subst hi
        rw [if_neg (by omega), if_pos (by omega)]
        simp [Array.getD_eq_getD_getElem?, show i < array.size by omega]
      · by_cases hin : offset + 1 ≤ i ∧ i < offset + 1 + rest.length
        · rw [if_pos hin, if_pos (by omega), show i - offset = i - (offset + 1) + 1 by omega]
          simp
        · rw [if_neg hin, if_neg (by omega)]
          simp only [Array.getD_eq_getD_getElem?]
          rw [Array.getElem?_setIfInBounds_ne (Ne.symm hi)]

/-- Writing changes the bytes of its range and no other. -/
theorem byte_write (buffer : Buffer) (offset : Nat) (bytes : List UInt8) (i : Nat) :
    (buffer.write offset bytes).byte i =
      if offset ≤ i ∧ i < offset + bytes.length then bytes.getD (i - offset) 0
      else buffer.byte i := by
  obtain ⟨base, size, kept⟩ := buffer
  simp only [write, byte]
  rw [getD_overlay (size_grow _ _), getD_grow]

/-- As many bytes are read as are asked for. -/
@[simp] theorem length_read (buffer : Buffer) (offset length : Nat) :
    (buffer.read offset length).length = length := by simp [read]

end Buffer

/-- The name of a buffer: its number, with its address and size. -/
structure Allocation where
  index : Nat
  address : UInt64
  size : Nat
  deriving DecidableEq, Repr, Inhabited

/-- All buffers, and the first address that has not been given out. -/
structure Memory where
  buffers : Array Buffer
  next : Nat
  deriving DecidableEq, Inhabited

/-- A request on memory. -/
abbrev MemoryM := StateT Memory (Except StorageError)

/-- What a source of buffers gives for a request of so many bytes. -/
structure Allocator where
  name : String
  grant : UInt64 → Except StorageError UInt64

namespace Memory

/-- Buffers begin at multiples of this. -/
def alignment : Nat := 64

/-- Addresses below this are given out. -/
def limit : Nat := twoPow 47

/-- The lowest address of a buffer. -/
def floor : Nat := 0x55813e400000

/-- No single buffer is larger than this. -/
def largest : Nat := twoPow 35

/-- Memory without buffers. -/
def empty : Memory := ⟨#[], floor⟩

/-- The least multiple of the alignment that is not below a number. -/
def aligned (n : Nat) : Nat := (n + alignment - 1) / alignment * alignment

/-- A new buffer of zeros. -/
def reserve (size : UInt64) : MemoryM Allocation := fun ⟨buffers, next⟩ =>
  let base := aligned next
  if size.toNat ≤ largest ∧ base + size.toNat ≤ limit then
    .ok (⟨buffers.size, UInt64.ofNat base, size.toNat⟩,
      ⟨buffers.push ⟨base, size.toNat, #[]⟩, base + size.toNat⟩)
  else .error (.allocation size)

/-- A new buffer from a source of buffers. -/
def allocate (allocator : Allocator) (size : UInt64) : MemoryM Allocation := do
  reserve (← allocator.grant size)

/-- The buffer of an allocation. -/
def buffer (memory : Memory) (a : Allocation) : Buffer := memory.buffers.getD a.index default

/-- Refuses a range that does not lie in an allocation. -/
def checkRange (a : Allocation) (offset length : Nat) : Except StorageError Unit :=
  if offset + length ≤ a.size then .ok ()
  else .error (.copyRange offset length a.size)

/-- Reads a range of an allocation. -/
def copyOut (a : Allocation) (offset length : Nat) : MemoryM (List UInt8) := do
  checkRange a offset length
  return ((← get).buffer a).read offset length

/-- Replaces the contents of a buffer. -/
def modifyBuffer (index : Nat) (f : Buffer → Buffer) : Memory → Memory
  | ⟨buffers, next⟩ => ⟨buffers.modify index f, next⟩

/-- Writes bytes into an allocation. -/
def copyIn (a : Allocation) (offset : Nat) (bytes : List UInt8) : MemoryM Unit := do
  checkRange a offset bytes.length
  modify (modifyBuffer a.index fun buffer => buffer.write offset bytes)

/-- The buffer that holds a range of addresses, with the offset into it. -/
def locate (memory : Memory) (address length : Nat) : Option (Nat × Nat) :=
  match memory.buffers.findIdx? fun b => b.base ≤ address && address + length ≤ b.base + b.size with
  | some index => some (index, address - (memory.buffers.getD index default).base)
  | none => none

/-- The bytes at a range of addresses, when one buffer holds it. -/
def peek (memory : Memory) (address length : Nat) : Option (List UInt8) :=
  match memory.locate address length with
  | some (index, offset) => some ((memory.buffers.getD index default).read offset length)
  | none => none

/-- Writes bytes at an address, when one buffer holds the range. -/
def poke (memory : Memory) (address : Nat) (bytes : List UInt8) : Option Memory :=
  match memory.locate address bytes.length with
  | some (index, offset) => some (memory.modifyBuffer index fun b => b.write offset bytes)
  | none => none

end Memory

/-- Host memory: an empty request is refused. -/
def Allocator.host : Allocator where
  name := "HOST"
  grant size := if size = 0 then .error (.emptyShape "host buffer" [size]) else .ok size

end KernelForge
