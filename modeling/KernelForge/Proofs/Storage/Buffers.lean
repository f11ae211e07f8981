import KernelForge.Storage.Matrix

/-!
# Buffers stay where they are

The buffers of a memory lie at disjoint ranges of addresses. Requests add buffers above all others
or change the bytes of one, so an allocation is held at its place for good, and a range of it is
located in its own buffer and in no other.
-/

namespace KernelForge

/-! ### Requests one after the other -/

/-- A request that succeeds is followed by the next one, in the memory that it left. -/
theorem request_bind {α β : Type} {request : MemoryM α} {next : α → MemoryM β}
    {memory memory' : Memory} {a : α} (h : request memory = .ok (a, memory')) :
    (request >>= next) memory = next a memory' := by
  change Except.bind (request memory) (fun result => next result.1 result.2) = _
  rw [h]
  rfl

/-- A request that fails is followed by nothing. -/
theorem request_bind_error {α β : Type} {request : MemoryM α} {next : α → MemoryM β}
    {memory : Memory} {error : StorageError} (h : request memory = .error error) :
    (request >>= next) memory = .error error := by
  change Except.bind (request memory) (fun result => next result.1 result.2) = _
  rw [h]
  rfl

/-- Two requests succeed one after the other only if both do. -/
theorem request_ok_of_bind {α β : Type} {request : MemoryM α} {next : α → MemoryM β}
    {memory : Memory} {result : β × Memory} (h : (request >>= next) memory = .ok result) :
    ∃ a memory', request memory = .ok (a, memory') ∧ next a memory' = .ok result := by
  change Except.bind (request memory) (fun result => next result.1 result.2) = _ at h
  cases hrequest : request memory with
  | error error =>
    rw [hrequest] at h
    cases h
  | ok first =>
    rw [hrequest] at h
    exact ⟨first.1, first.2, rfl, h⟩

/-- A check before a request. -/
theorem request_ofExcept_bind {α β : Type} {check : Except StorageError α} {next : α → MemoryM β}
    {memory : Memory} {result : β × Memory} :
    (liftM check >>= next : MemoryM β) memory = .ok result ↔
      ∃ a, check = .ok a ∧ next a memory = .ok result := by
  cases check with
  | error error => exact ⟨nofun, nofun⟩
  | ok a =>
    constructor
    · intro h
      exact ⟨a, rfl, h⟩
    · rintro ⟨_, ⟨⟩, h⟩
      exact h

/-! ### Bytes of one buffer -/

namespace Buffer

/-- What was written is read back. -/
theorem read_write (buffer : Buffer) (bytes : List UInt8) :
    (buffer.write 0 bytes).read 0 bytes.length = bytes := by
  refine List.ext_getElem (by simp) fun i _ hi => ?_
  simp only [read, List.getElem_map, List.getElem_range', byte_write]
  simp [hi]

/-- A part of what is read. -/
theorem take_drop_read (buffer : Buffer) {offset length start count : Nat}
    (h : start + count ≤ length) :
    ((buffer.read offset length).drop start).take count = buffer.read (offset + start) count := by
  refine List.ext_getElem (by simp; omega) fun i hi hi' => ?_
  simp [read, Nat.add_assoc]

/-- What is read depends on the bytes of the range alone. -/
theorem read_congr {buffer buffer' : Buffer} {offset length : Nat}
    (h : ∀ i, offset ≤ i → i < offset + length → buffer'.byte i = buffer.byte i) :
    buffer'.read offset length = buffer.read offset length := by
  refine List.map_congr_left fun i hi => ?_
  obtain ⟨hle, hlt⟩ := List.mem_range'_1.mp hi
  exact h i hle hlt

end Buffer

namespace Memory

variable {memory memory' memory'' : Memory} {a b : Allocation} {size : UInt64}

/-! ### Memory that is well-formed -/

/-- The buffers of a memory lie one above the other and below the next address to be given out. -/
structure WellFormed (memory : Memory) : Prop where
  apart : ∀ {i j : Nat} {b c : Buffer}, i < j → memory.buffers[i]? = some b →
    memory.buffers[j]? = some c → b.base + b.size ≤ c.base
  below : ∀ {i : Nat} {b : Buffer}, memory.buffers[i]? = some b → b.base + b.size ≤ memory.next
  bounded : memory.next ≤ limit

/-- A memory holds an allocation: the buffer of its number lies at its address and has its size. -/
def Holds (memory : Memory) (a : Allocation) : Prop :=
  ∃ b, memory.buffers[a.index]? = some b ∧ b.base = a.address.toNat ∧ b.size = a.size

/-- The buffers of an earlier memory are still there, at the same places and of the same sizes. -/
def Extends (later earlier : Memory) : Prop :=
  ∀ (i : Nat) (b : Buffer), earlier.buffers[i]? = some b →
    ∃ b', later.buffers[i]? = some b' ∧ b'.base = b.base ∧ b'.size = b.size

/-- Memory has what it has. -/
theorem Extends.refl (memory : Memory) : memory.Extends memory :=
  fun _ _ h => ⟨_, h, rfl, rfl⟩

/-- What was there before something that was there before was there before. -/
theorem Extends.trans (h : memory''.Extends memory') (h' : memory'.Extends memory) :
    memory''.Extends memory := by
  intro i b hb
  obtain ⟨b', hb', hbase', hsize'⟩ := h' i b hb
  obtain ⟨b'', hb'', hbase'', hsize''⟩ := h i b' hb'
  exact ⟨b'', hb'', hbase''.trans hbase', hsize''.trans hsize'⟩

/-- Allocations are held for good. -/
theorem Holds.extend (ha : memory.Holds a) (h : memory'.Extends memory) : memory'.Holds a := by
  obtain ⟨b, hb, hbase, hsize⟩ := ha
  obtain ⟨b', hb', hbase', hsize'⟩ := h _ b hb
  exact ⟨b', hb', hbase'.trans hbase, hsize'.trans hsize⟩

/-- An allocation that memory holds is one of its buffers. -/
theorem Holds.index_lt (ha : memory.Holds a) : a.index < memory.buffers.size := by
  obtain ⟨b, hb, -⟩ := ha
  exact (Array.getElem?_eq_some_iff.mp hb).1

/-- The buffer of an allocation that is held. -/
theorem Holds.buffer_eq (ha : memory.Holds a) :
    memory.buffers[a.index]? = some (memory.buffer a) ∧
      (memory.buffer a).base = a.address.toNat ∧ (memory.buffer a).size = a.size := by
  obtain ⟨b, hb, hbase, hsize⟩ := ha
  have hbuffer : memory.buffer a = b := by
    rw [buffer, Array.getD_eq_getD_getElem?, hb, Option.getD_some]
  rw [hbuffer]
  exact ⟨hb, hbase, hsize⟩

/-- Allocations that have one number are the same. -/
theorem Holds.eq_of_index (ha : memory.Holds a) (hb : memory.Holds b) (hindex : a.index = b.index) :
    a = b := by
  obtain ⟨hbuffer, hbase, hsize⟩ := ha.buffer_eq
  obtain ⟨hbuffer', hbase', hsize'⟩ := hb.buffer_eq
  rw [hindex, hbuffer', Option.some.injEq] at hbuffer
  have haddress : a.address = b.address := by
    rw [← UInt64.toNat_inj, ← hbase, ← hbase', hbuffer]
  have hsizes : a.size = b.size := by
    rw [← hsize, ← hsize', hbuffer]
  cases a
  cases b
  simp_all

/-- Allocations end below the limit of all addresses. -/
theorem WellFormed.end_le_limit (h : memory.WellFormed) (ha : memory.Holds a) :
    a.address.toNat + a.size ≤ limit := by
  obtain ⟨b, hb, hbase, hsize⟩ := ha
  have hbelow := h.below hb
  have hbounded := h.bounded
  omega

/-- Different buffers have no address in common. -/
theorem WellFormed.disjoint (h : memory.WellFormed) (ha : memory.Holds a) (hb : memory.Holds b)
    (hne : a.index ≠ b.index) :
    a.address.toNat + a.size ≤ b.address.toNat ∨ b.address.toNat + b.size ≤ a.address.toNat := by
  obtain ⟨x, hx, hxbase, hxsize⟩ := ha
  obtain ⟨y, hy, hybase, hysize⟩ := hb
  rcases Nat.lt_or_gt_of_ne hne with hlt | hlt
  · have hapart := h.apart hlt hx hy
    omega
  · have hapart := h.apart hlt hy hx
    omega

/-- Empty memory is well-formed. -/
theorem wellFormed_empty : empty.WellFormed where
  apart _ h := nomatch h
  below h := nomatch h
  bounded := by decide

/-! ### New buffers -/

/-- Rounding up gives no less. -/
theorem le_aligned (n : Nat) : n ≤ aligned n := by
  unfold aligned alignment
  omega

/-- A request for a buffer succeeds if there is room, and puts the buffer above all others. -/
theorem reserve_eq_ok {result : Allocation × Memory} :
    reserve size memory = .ok result ↔
      (size.toNat ≤ largest ∧ aligned memory.next + size.toNat ≤ limit) ∧
        result = (⟨memory.buffers.size, UInt64.ofNat (aligned memory.next), size.toNat⟩,
          ⟨memory.buffers.push ⟨aligned memory.next, size.toNat, #[]⟩,
            aligned memory.next + size.toNat⟩) := by
  obtain ⟨buffers, next⟩ := memory
  simp only [reserve]
  split
  · next hroom =>
    rw [Except.ok.injEq]
    exact ⟨fun h => ⟨hroom, h.symm⟩, fun h => h.2.symm⟩
  · next hroom =>
    exact ⟨nofun, fun h => absurd h.1 hroom⟩

/-- A new buffer leaves the others alone. -/
theorem extends_push (buffers : Array Buffer) (new : Buffer) (next next' : Nat) :
    (⟨buffers.push new, next'⟩ : Memory).Extends ⟨buffers, next⟩ := by
  intro i b hb
  have hlt : i < buffers.size := (Array.getElem?_eq_some_iff.mp hb).1
  refine ⟨b, ?_, rfl, rfl⟩
  rw [Array.getElem?_push, if_neg (by omega)]
  exact hb

/-- A new buffer is held, no other one moves, and the memory stays well-formed. -/
theorem WellFormed.reserve (h : memory.WellFormed)
    (hreserve : reserve size memory = .ok (a, memory')) :
    memory'.WellFormed ∧ memory'.Extends memory ∧ memory'.Holds a ∧
      a.index = memory.buffers.size ∧ a.size = size.toNat := by
  obtain ⟨⟨-, hroom⟩, heq⟩ := reserve_eq_ok.mp hreserve
  obtain ⟨rfl, rfl⟩ := Prod.mk.inj heq
  have hle := le_aligned memory.next
  have haddress : (UInt64.ofNat (aligned memory.next)).toNat = aligned memory.next :=
    UInt64.toNat_ofNat_of_lt' (by have : limit < UInt64.size := by decide
                                  omega)
  refine ⟨⟨?_, ?_, hroom⟩, extends_push _ _ _ _, ?_, rfl, rfl⟩
  · intro i j b c hij hb hc
    rw [Array.getElem?_push] at hb hc
    split at hb
    · have hlast : j ≤ memory.buffers.size := by
        split at hc
        · omega
        · exact Nat.le_of_lt (Array.getElem?_eq_some_iff.mp hc).1
      omega
    · split at hc
      · cases hc
        exact Nat.le_trans (h.below hb) hle
      · exact h.apart hij hb hc
  · intro i b hb
    rw [Array.getElem?_push] at hb
    split at hb
    · cases hb
      exact Nat.le_refl _
    · have hbelow := h.below hb
      change b.base + b.size ≤ aligned memory.next + size.toNat
      omega
  · exact ⟨_, Array.getElem?_push_size, haddress.symm, rfl⟩

/-! ### Changed buffers -/

/-- The buffer that is changed, and all others. -/
theorem getElem?_modifyBuffer (memory : Memory) (index : Nat) (f : Buffer → Buffer) (i : Nat) :
    (memory.modifyBuffer index f).buffers[i]? =
      if index = i then memory.buffers[i]?.map f else memory.buffers[i]? :=
  Array.getElem?_modify

/-- A change of a buffer that leaves its place alone moves no buffer. -/
theorem extends_modifyBuffer {f : Buffer → Buffer} (hbase : ∀ b, (f b).base = b.base)
    (hsize : ∀ b, (f b).size = b.size) (memory : Memory) (index : Nat) :
    (memory.modifyBuffer index f).Extends memory := by
  intro i b hb
  rw [getElem?_modifyBuffer, hb]
  split
  · exact ⟨f b, rfl, hbase b, hsize b⟩
  · exact ⟨b, rfl, rfl, rfl⟩

/-- Buffers may change what they hold, as long as they stay where they are. -/
theorem WellFormed.modifyBuffer {f : Buffer → Buffer} (h : memory.WellFormed)
    (hbase : ∀ b, (f b).base = b.base) (hsize : ∀ b, (f b).size = b.size) (index : Nat) :
    (memory.modifyBuffer index f).WellFormed := by
  have hback : ∀ {i : Nat} {b : Buffer}, (memory.modifyBuffer index f).buffers[i]? = some b →
      ∃ b', memory.buffers[i]? = some b' ∧ b'.base = b.base ∧ b'.size = b.size := by
    intro i b hb
    rw [getElem?_modifyBuffer] at hb
    split at hb
    · obtain ⟨b', hb', rfl⟩ := Option.map_eq_some_iff.mp hb
      exact ⟨b', hb', (hbase b').symm, (hsize b').symm⟩
    · exact ⟨b, hb, rfl, rfl⟩
  refine ⟨fun {i j b c} hij hb hc => ?_, fun {i b} hb => ?_, h.bounded⟩
  · obtain ⟨b', hb', hbbase, hbsize⟩ := hback hb
    obtain ⟨c', hc', hcbase, -⟩ := hback hc
    have hapart := h.apart hij hb' hc'
    omega
  · obtain ⟨b', hb', hbbase, hbsize⟩ := hback hb
    have hbelow := h.below hb'
    change b.base + b.size ≤ memory.next
    omega

/-- Writing to a buffer moves none. -/
theorem extends_write (memory : Memory) (index offset : Nat) (bytes : List UInt8) :
    (memory.modifyBuffer index fun b => b.write offset bytes).Extends memory :=
  extends_modifyBuffer (fun b => b.write_base offset bytes) (fun b => b.write_size offset bytes) _ _

/-- Writing changes no more than that. -/
theorem WellFormed.write (h : memory.WellFormed) (index offset : Nat) (bytes : List UInt8) :
    (memory.modifyBuffer index fun b => b.write offset bytes).WellFormed :=
  h.modifyBuffer (fun b => b.write_base offset bytes) (fun b => b.write_size offset bytes) _

/-- A change reaches the allocations of its buffer and no others. -/
theorem buffer_modifyBuffer {f : Buffer → Buffer} {index : Nat} (ha : memory.Holds a) :
    (memory.modifyBuffer index f).buffer a =
      if index = a.index then f (memory.buffer a) else memory.buffer a := by
  rw [buffer, Array.getD_eq_getD_getElem?, getElem?_modifyBuffer, ha.buffer_eq.1]
  split <;> rfl

/-- Bytes are copied into an allocation exactly if they lie inside. -/
theorem copyIn_eq_ok {offset : Nat} {bytes : List UInt8} {result : Unit × Memory} :
    copyIn a offset bytes memory = .ok result ↔
      offset + bytes.length ≤ a.size ∧
        result = ((), memory.modifyBuffer a.index fun b => b.write offset bytes) := by
  simp only [copyIn, checkRange, bind, StateT.bind]
  split
  · next hrange =>
    constructor
    · intro h
      cases h
      exact ⟨hrange, rfl⟩
    · rintro ⟨-, rfl⟩
      rfl
  · next hrange =>
    exact ⟨nofun, fun h => absurd h.1 hrange⟩

/-- They are copied out of one under the same condition. -/
theorem copyOut_eq_ok {offset length : Nat} {result : List UInt8 × Memory} :
    copyOut a offset length memory = .ok result ↔
      offset + length ≤ a.size ∧ result = ((memory.buffer a).read offset length, memory) := by
  simp only [copyOut, checkRange, bind, StateT.bind]
  split
  · next hrange =>
    constructor
    · intro h
      cases h
      exact ⟨hrange, rfl⟩
    · rintro ⟨-, rfl⟩
      rfl
  · next hrange =>
    exact ⟨nofun, fun h => absurd h.1 hrange⟩

/-! ### Buffers that are added -/

/-- A memory after a buffer was added to it whose first bytes are given: no other buffer changed. -/
structure Added (earlier : Memory) (a : Allocation) (bytes : List UInt8) (later : Memory) :
    Prop where
  wellFormed : later.WellFormed
  older : later.Extends earlier
  held : later.Holds a
  index_eq : a.index = earlier.buffers.size
  size_eq : later.buffers.size = earlier.buffers.size + 1
  next_eq : later.next = aligned earlier.next + a.size
  length_le : bytes.length ≤ a.size
  read_eq : (later.buffer a).read 0 bytes.length = bytes
  buffer_eq : ∀ b, earlier.Holds b → later.buffer b = earlier.buffer b

/-- A source gives what is asked for, if there is room for it. -/
theorem allocate_of_room {allocator : Allocator} {n : Nat}
    (hgrant : allocator.grant (UInt64.ofNat n) = .ok (UInt64.ofNat n)) (hlargest : n ≤ largest)
    (hroom : aligned memory.next + n ≤ limit) :
    ∃ a memory', allocate allocator (UInt64.ofNat n) memory = .ok (a, memory') ∧ a.size = n := by
  have hlimit : limit < UInt64.size := by decide
  have hn : (UInt64.ofNat n).toNat = n := UInt64.toNat_ofNat_of_lt' (by omega)
  have hreserve : reserve (UInt64.ofNat n) memory = _ := reserve_eq_ok.mpr
    ⟨⟨hn.symm ▸ hlargest, hn.symm ▸ hroom⟩, rfl⟩
  have hallocate : allocate allocator (UInt64.ofNat n) memory = reserve (UInt64.ofNat n) memory := by
    rw [allocate, hgrant]
    rfl
  exact ⟨_, _, hallocate.trans hreserve, hn⟩

/-- An allocation adds a buffer. -/
theorem WellFormed.added (h : memory.WellFormed) {allocator : Allocator}
    (hallocate : allocate allocator size memory = .ok (a, memory')) :
    Added memory a [] memory' := by
  obtain ⟨granted, middle, hgrant, hreserve⟩ := request_ok_of_bind hallocate
  have hmiddle : middle = memory := by
    cases hvalue : allocator.grant size with
    | error error =>
      rw [hvalue] at hgrant
      cases hgrant
    | ok value =>
      rw [hvalue] at hgrant
      cases hgrant
      rfl
  subst hmiddle
  obtain ⟨hwellFormed, hextends, hheld, hindex, hsize⟩ := h.reserve hreserve
  obtain ⟨-, heq⟩ := reserve_eq_ok.mp hreserve
  obtain ⟨rfl, rfl⟩ := Prod.mk.inj heq
  refine ⟨hwellFormed, hextends, hheld, rfl, Array.size_push .., rfl, Nat.zero_le _, rfl,
    fun b hb => ?_⟩
  have hlt := hb.index_lt
  simp only [buffer, Array.getD_eq_getD_getElem?]
  rw [Array.getElem?_push, if_neg (by omega)]

/-- An allocation into which bytes are copied adds a buffer with these bytes. -/
theorem Added.copyIn {earlier : Memory} (h : Added earlier a [] memory) {bytes : List UInt8}
    (hcopy : copyIn a 0 bytes memory = .ok ((), memory')) : Added earlier a bytes memory' := by
  obtain ⟨hrange, heq⟩ := copyIn_eq_ok.mp hcopy
  obtain ⟨-, rfl⟩ := Prod.mk.inj heq
  have hextends := extends_write memory a.index 0 bytes
  refine ⟨h.wellFormed.write _ _ _, hextends.trans h.older, h.held.extend hextends, h.index_eq, ?_,
    h.next_eq, by omega, ?_, fun b hb => ?_⟩
  · rw [← h.size_eq]
    exact Array.size_modify
  · rw [buffer_modifyBuffer h.held, if_pos rfl]
    exact Buffer.read_write _ _
  · have hlt := hb.index_lt
    rw [buffer_modifyBuffer (hb.extend h.older), if_neg (by rw [h.index_eq]; omega)]
    exact h.buffer_eq b hb

/-- There is room for buffers of these sizes, one after the other from an address on. -/
def RoomFrom : Nat → List Nat → Prop
  | _, [] => True
  | next, size :: rest =>
      size ≤ largest ∧ aligned next + size ≤ limit ∧ RoomFrom (aligned next + size) rest

/-- There is room for buffers of these sizes. -/
def HasRoom (memory : Memory) (sizes : List Nat) : Prop := RoomFrom memory.next sizes

/-- If there is room for some bytes, a source that grants all requests gives a buffer for them, and
leaves the room for others. -/
theorem WellFormed.allocate_copyIn (h : memory.WellFormed) {allocator : Allocator}
    (hgrant : ∀ size, size ≠ 0 → allocator.grant size = .ok size) {bytes : List UInt8}
    (hbytes : 0 < bytes.length) {sizes : List Nat} (hroom : memory.HasRoom (bytes.length :: sizes)) :
    ∃ a middle memory', allocate allocator (UInt64.ofNat bytes.length) memory = .ok (a, middle) ∧
      copyIn a 0 bytes middle = .ok ((), memory') ∧ memory'.HasRoom sizes := by
  obtain ⟨hlargest, hlimit, hrest⟩ := hroom
  have hlt : limit < UInt64.size := by decide
  have hn : (UInt64.ofNat bytes.length).toNat = bytes.length :=
    UInt64.toNat_ofNat_of_lt' (by omega)
  have hne : UInt64.ofNat bytes.length ≠ 0 := by
    intro hzero
    rw [hzero, UInt64.toNat_zero] at hn
    omega
  obtain ⟨a, middle, hallocate, hsize⟩ := allocate_of_room (hgrant _ hne) hlargest hlimit
  have hadded := h.added hallocate
  have hcopy : copyIn a 0 bytes middle = _ := copyIn_eq_ok.mpr ⟨by omega, rfl⟩
  refine ⟨a, middle, _, hallocate, hcopy, ?_⟩
  have hnext := (hadded.copyIn hcopy).next_eq
  rw [HasRoom, hnext, hsize]
  exact hrest

/-! ### Addresses -/

/-- A range of an allocation is located in the buffer of the allocation. -/
theorem WellFormed.locate (h : memory.WellFormed) (ha : memory.Holds a) {offset length : Nat}
    (hpos : 0 < length) (hle : offset + length ≤ a.size) :
    memory.locate (a.address.toNat + offset) length = some (a.index, offset) := by
  obtain ⟨hbuffer, hbase, hsize⟩ := ha.buffer_eq
  obtain ⟨hlt, hget⟩ := Array.getElem?_eq_some_iff.mp hbuffer
  have hindex : memory.buffers.findIdx? (fun b => b.base ≤ a.address.toNat + offset &&
      a.address.toNat + offset + length ≤ b.base + b.size) = some a.index := by
    rw [Array.findIdx?_eq_some_iff_getElem]
    refine ⟨hlt, ?_, fun j hj hother => ?_⟩
    · rw [hget, hbase, hsize]
      simp only [Bool.and_eq_true, decide_eq_true_eq]
      omega
    · have hapart := h.apart hj (Array.getElem?_eq_getElem (Nat.lt_trans hj hlt)) hbuffer
      simp only [Bool.and_eq_true, decide_eq_true_eq] at hother
      omega
  have hgetD : memory.buffers.getD a.index default = memory.buffer a := rfl
  rw [Memory.locate, hindex]
  simp only [hgetD, hbase, Nat.add_sub_cancel_left]

/-- The bytes of a range of an allocation are those of its buffer. -/
theorem WellFormed.peek (h : memory.WellFormed) (ha : memory.Holds a) {offset length : Nat}
    (hpos : 0 < length) (hle : offset + length ≤ a.size) :
    memory.peek (a.address.toNat + offset) length =
      some ((memory.buffer a).read offset length) := by
  rw [Memory.peek, h.locate ha hpos hle]
  rfl

/-- A write into a range of an allocation changes its buffer. -/
theorem WellFormed.poke (h : memory.WellFormed) (ha : memory.Holds a) {offset : Nat}
    {bytes : List UInt8} (hpos : 0 < bytes.length) (hle : offset + bytes.length ≤ a.size) :
    memory.poke (a.address.toNat + offset) bytes =
      some (memory.modifyBuffer a.index fun b => b.write offset bytes) := by
  rw [Memory.poke, h.locate ha hpos hle]

end Memory

/-! ### Matrices that own their elements -/

/-- A matrix owns an allocation of all elements of its rows, padding included. -/
structure Matrix.Owned (m : Matrix) (memory : Memory) : Prop where
  held : memory.Holds m.storage
  size_eq : m.storage.size =
    m.layout.leading.toNat * m.layout.rows.toNat * m.elementType.bytes

/-- A matrix owns its elements as long as its allocation stays. -/
theorem Matrix.Owned.extend {m : Matrix} {memory memory' : Memory} (hm : m.Owned memory)
    (h : memory'.Extends memory) : m.Owned memory' :=
  ⟨hm.held.extend h, hm.size_eq⟩

end KernelForge
