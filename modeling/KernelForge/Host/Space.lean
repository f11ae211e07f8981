import KernelForge.Compiler.Instruction
import KernelForge.Storage.Memory

/-!
# The address space of running code

Code sees the buffers of the store, and above them segments of its own: the first one holds the data of
modules and what they allocate, the others are the stacks of threads. A word is read and written with its
least byte first.
-/

namespace KernelForge.Host

open Code

/-- Why running code stops. -/
inductive Fault where
  | badAddress (address : Nat)
  | badInstruction
  | outOfFuel
  | outOfStack
  | stopped
  deriving DecidableEq, Repr

/-- Buffers and segments. -/
structure Space where
  memory : Memory
  segments : Array ByteArray
  /-- The buffer that was used last. -/
  recent : Nat
  /-- Blocks of the first segment that were given back, by their sizes. -/
  freed : List (Nat × Nat)
  /-- How many threads a team has that does not say. -/
  threads : Nat
  /-- How deep teams in teams have more than one thread. -/
  levels : Nat
  deriving Inhabited

/-- Segments begin above all buffers. -/
def segmentBase : Nat := Memory.limit

/-- The distance between segments. -/
def segmentSpan : Nat := 0x10000000000

/-- The address of an offset in a segment. -/
def segmentAddress (segment offset : Nat) : Nat := segmentBase + segment * segmentSpan + offset

/-- Addresses of code lie above all segments. -/
def codeBase : Nat := 0x1000000000000

/-- Up to eight bytes from an offset on, as a word. -/
def wordAt (bytes : ByteArray) (offset : Nat) : Nat → UInt64 → UInt64
  | 0, acc => acc
  | n + 1, acc => wordAt bytes offset n (acc <<< 8 ||| (bytes.get! (offset + n)).toUInt64)

/-- Replaces bytes from an offset on by those of a word. -/
def setWordAt (offset : Nat) (word : UInt64) : Nat → ByteArray → ByteArray
  | 0, bytes => bytes
  | n + 1, bytes => setWordAt (offset + 1) (word >>> 8) n (bytes.set! offset word.toUInt8)

/-- The same in an array of bytes of which the rest is zero. -/
def wordIn (bytes : Array UInt8) (offset : Nat) : Nat → UInt64 → UInt64
  | 0, acc => acc
  | n + 1, acc => wordIn bytes offset n (acc <<< 8 ||| (bytes.getD (offset + n) 0).toUInt64)

/-- Replaces bytes of an array from an offset on by those of a word. -/
def setWordIn (offset : Nat) (word : UInt64) : Nat → Array UInt8 → Array UInt8
  | 0, bytes => bytes
  | n + 1, bytes => setWordIn (offset + 1) (word >>> 8) n (bytes.setIfInBounds offset word.toUInt8)

/-- A page of zeros. -/
def zeroPage : ByteArray := ByteArray.mk (Array.replicate 4096 0)

/-- Adds pages of zeros until so many bytes are there; `fuel` bounds the number of pages. -/
def extend (bytes : ByteArray) (size : Nat) : Nat → ByteArray
  | 0 => bytes
  | fuel + 1 => if size ≤ bytes.size then bytes else extend (bytes ++ zeroPage) size fuel

/-- Makes bytes at least so many. -/
def extendTo (bytes : ByteArray) (size : Nat) : ByteArray :=
  if size ≤ bytes.size then bytes else extend bytes size ((size - bytes.size) / 4096 + 1)

/-- A buffer with a word replaced. -/
def setBufferWord (offset length : Nat) (word : UInt64) : Buffer → Buffer
  | ⟨base, size, kept⟩ =>
      ⟨base, size, setWordIn offset word length
        (if offset + length ≤ kept.size then kept else Buffer.grow kept (offset + length))⟩

namespace Space

/-- The segment and offset of an address, when the range lies in a segment. -/
@[inline] def segmentOf? (space : Space) (address length : Nat) : Option (Nat × Nat) :=
  let k := (address - segmentBase) / segmentSpan
  let offset := (address - segmentBase) % segmentSpan
  if h : k < space.segments.size then
    if offset + length ≤ space.segments[k].size then some (k, offset) else none
  else none

/-- The buffer that holds a range, beginning with the one that was used last. -/
def bufferOf? (space : Space) (address length : Nat) : Option (Nat × Nat) :=
  let b := space.memory.buffers.getD space.recent default
  if b.base ≤ address && address + length ≤ b.base + b.size && b.size ≠ 0 then some (space.recent, address - b.base)
  else space.memory.locate address length

/-- Up to eight bytes at an address. -/
def read? (space : Space) (address length : Nat) : Option UInt64 :=
  if segmentBase ≤ address then
    match space.segmentOf? address length with
    | some (k, offset) => some (wordAt (space.segments.getD k .empty) offset length 0)
    | none => none
  else
    match space.bufferOf? address length with
    | some (i, offset) => some (wordIn (space.memory.buffers.getD i default).kept offset length 0)
    | none => none

/-- Writes up to eight bytes at an address. -/
def write? (space : Space) (address length : Nat) (word : UInt64) : Option Space :=
  if segmentBase ≤ address then
    match space.segmentOf? address length with
    | some (k, offset) =>
        match space with
        | ⟨memory, segments, recent, freed, threads, levels⟩ =>
            some ⟨memory, segments.modify k fun b => setWordAt offset word length b, recent, freed, threads, levels⟩
    | none => none
  else
    match space.bufferOf? address length with
    | some (i, offset) =>
        match space with
        | ⟨⟨buffers, next⟩, segments, _, freed, threads, levels⟩ =>
            some ⟨⟨buffers.modify i (setBufferWord offset length word), next⟩, segments, i, freed, threads, levels⟩
    | none => none

/-- Reads a word of a type. -/
def load? (space : Space) (s : WordType) (address : Nat) : Option Nat :=
  let n := s.storedBytes
  if n ≤ 8 then (space.read? address n).map UInt64.toNat
  else do
    let low ← space.read? address 8
    let high ← space.read? (address + 8) (n - 8)
    return low.toNat + high.toNat * 0x10000000000000000

/-- Writes a word of a type. -/
def store? (space : Space) (s : WordType) (address word : Nat) : Option Space :=
  let n := s.storedBytes
  if n ≤ 8 then space.write? address n (UInt64.ofNat word)
  else
    match space.write? address 8 (UInt64.ofNat word) with
    | some space => space.write? (address + 8) (n - 8) (UInt64.ofNat (word / 0x10000000000000000))
    | none => none

/-- Reads bytes, eight at a time. -/
def readMany (space : Space) (address : Nat) (done : Array UInt64) : Nat → Option (Array UInt64)
  | 0 => some done
  | n + 1 =>
      match space.read? address 8 with
      | some w => readMany space (address + 8) (done.push w) n
      | none => none

/-- Writes what has been read. -/
def writeMany (words : Array UInt64) (target i : Nat) : Nat → Space → Option Space
  | 0, space => some space
  | n + 1, space =>
      match space.write? (target + 8 * i) 8 (words.getD i 0) with
      | some space => writeMany words target (i + 1) n space
      | none => none

/-- Copies a range; the ranges may overlap. -/
def copy? (space : Space) (target source length : Nat) : Option Space :=
  if length = 0 || target = source then some space
  else do
    let words ← space.readMany source (Array.mkEmpty (length / 8)) (length / 8)
    let rest ← space.read? (source + length / 8 * 8) (length % 8)
    let space ← writeMany words target 0 (length / 8) space
    if length % 8 = 0 then return space else space.write? (target + length / 8 * 8) (length % 8) rest

/-- Fills a range with one byte, eight at a time. -/
def fill? (word : UInt64) (target : Nat) : Nat → Space → Option Space
  | 0, space => some space
  | n + 1, space =>
      match space.write? target 8 word with
      | some space => fill? word (target + 8) n space
      | none => none

/-- Fills a range with a byte. -/
def set? (space : Space) (target length : Nat) (byte : UInt8) : Option Space :=
  let word : UInt64 := byte.toUInt64 * 0x0101010101010101
  match fill? word target (length / 8) space with
  | some space =>
      if length % 8 = 0 then some space else space.write? (target + length / 8 * 8) (length % 8) word
  | none => none

/-- Makes a segment at least so large. -/
def ensure (segment size : Nat) : Space → Space
  | ⟨memory, segments, recent, freed, threads, levels⟩ =>
      let segments := (segment + 1 - segments.size).fold (fun _ _ s => s.push .empty) segments
      ⟨memory, segments.modify segment (extendTo · size), recent, freed, threads, levels⟩

/-- Takes the segments away from one on. -/
def drop (first : Nat) : Space → Space
  | ⟨memory, segments, recent, freed, threads, levels⟩ =>
      ⟨memory, segments.shrink first, recent, freed, threads, levels⟩

/-- So many new bytes in the first segment. -/
def reserve (size alignment : Nat) (space : Space) : Nat × Space :=
  let used := (space.segments.getD 0 .empty).size
  let start := Compiler.roundUp (used + 16) (max 16 alignment)
  (segmentAddress 0 start, space.ensure 0 (start + max 1 size))

/-- The most bytes that code can allocate. -/
def allocationLimit : Nat := 0x40000000

/-- Allocates a block, whose size is kept in front of it; zero when there is no room. -/
def allocate (size alignment : Nat) (space : Space) : Nat × Space :=
  let rounded := Compiler.roundUp (max 1 size) 16
  if allocationLimit < rounded then (0, space)
  else
    match if alignment ≤ 16 then space.freed.find? (fun e => e.1 = rounded) else none with
    | some (n, a) => (a, { space with freed := space.freed.erase (n, a) })
    | none =>
        let (a, space) := space.reserve rounded alignment
        match space.write? (a - 8) 8 (UInt64.ofNat rounded) with
        | some space => (a, space)
        | none => (0, default)

/-- The size of an allocated block. -/
def blockSize (space : Space) (address : Nat) : Nat :=
  ((space.read? (address - 8) 8).map UInt64.toNat).getD 0

/-- Gives a block back. -/
def release (address : Nat) (space : Space) : Space :=
  if address = 0 then space
  else
    let size := space.blockSize address
    { space with freed := (size, address) :: space.freed }

/-- Bytes up to a zero, but no more than so many. -/
def textAt (space : Space) (address : Nat) (done : List UInt8) : Nat → Option (List UInt8)
  | 0 => some done.reverse
  | fuel + 1 =>
      match space.read? address 1 with
      | some b => if b = 0 then some done.reverse else textAt space (address + 1) (b.toUInt8 :: done) fuel
      | none => none

/-- Writes bytes. -/
def writeBytes (address : Nat) : List UInt8 → Space → Option Space
  | [], space => some space
  | b :: rest, space =>
      match space.write? address 1 b.toUInt64 with
      | some space => writeBytes (address + 1) rest space
      | none => none

end Space

end KernelForge.Host
