import KernelForge.Proofs.Bytes
import KernelForge.Proofs.Storage.Buffers

/-!
# Reading and writing by address

A write changes the bytes of its range and no others, wherever they are read from. Buffers stay
where they are, so every range is located after the write as it was before.
-/

namespace KernelForge

/-- Two ranges of addresses have no address in common. -/
def Apart (address length address' length' : Nat) : Prop :=
  address + length ≤ address' ∨ address' + length' ≤ address

/-- Ranges that are apart and not empty begin at different addresses. -/
theorem Apart.ne {address length address' length' : Nat} (h : Apart address length address' length')
    (hpos : 0 < length) (hpos' : 0 < length') : address ≠ address' := by
  unfold Apart at h
  omega

/-- A byte that is not in a range is apart from it. -/
theorem apart_byte {byte address length : Nat} (h : ¬(address ≤ byte ∧ byte < address + length)) :
    Apart byte 1 address length := by
  unfold Apart
  omega

/-- A range of addresses lies in an allocation. -/
def Allocation.Covers (a : Allocation) (address length : Nat) : Prop :=
  a.address.toNat ≤ address ∧ address + length ≤ a.address.toNat + a.size

/-- What is apart from an allocation is apart from every range in it. -/
theorem Allocation.Covers.apart {a : Allocation} {address length address' length' : Nat}
    (h : a.Covers address' length') (hapart : Apart address length a.address.toNat a.size) :
    Apart address length address' length' := by
  obtain ⟨hle, hle'⟩ := h
  unfold Apart at hapart ⊢
  omega

/-- Different elements of an array are apart. -/
theorem apart_elements {base size k k' : Nat} (h : k ≠ k') :
    Apart (base + k * size) size (base + k' * size) size := by
  unfold Apart
  rcases Nat.lt_or_gt_of_ne h with hlt | hlt
  · have hle := Nat.mul_le_mul_right size (Nat.succ_le_of_lt hlt)
    rw [Nat.succ_mul] at hle
    omega
  · have hle := Nat.mul_le_mul_right size (Nat.succ_le_of_lt hlt)
    rw [Nat.succ_mul] at hle
    omega

namespace Memory

variable {memory memory' : Memory} {a b : Allocation} {address length address' length' : Nat}
  {bytes : List UInt8}

/-! ### Where a range is located -/

/-- A range is located in the first buffer that has all of it. -/
theorem locate_eq_some {i offset : Nat} :
    memory.locate address length = some (i, offset) ↔
      ∃ b, memory.buffers[i]? = some b ∧ (b.base ≤ address ∧ address + length ≤ b.base + b.size) ∧
        address - b.base = offset ∧
        ∀ j < i, ∀ c, memory.buffers[j]? = some c →
          ¬(c.base ≤ address ∧ address + length ≤ c.base + c.size) := by
  unfold locate
  constructor
  · intro h
    split at h
    · next index hindex =>
      obtain ⟨rfl, rfl⟩ := Prod.mk.inj (Option.some.inj h)
      obtain ⟨hlt, hinside, hfirst⟩ := Array.findIdx?_eq_some_iff_getElem.mp hindex
      simp only [Bool.and_eq_true, decide_eq_true_eq] at hinside hfirst
      refine ⟨_, Array.getElem?_eq_getElem hlt, hinside, ?_, fun j hj c hc => ?_⟩
      · rw [Array.getD_eq_getD_getElem?, Array.getElem?_eq_getElem hlt, Option.getD_some]
      · obtain ⟨-, rfl⟩ := Array.getElem?_eq_some_iff.mp hc
        exact hfirst j hj
    · cases h
  · rintro ⟨b, hb, hinside, rfl, hfirst⟩
    obtain ⟨hlt, hget⟩ := Array.getElem?_eq_some_iff.mp hb
    have hindex : memory.buffers.findIdx? (fun b => b.base ≤ address &&
        address + length ≤ b.base + b.size) = some i := by
      rw [Array.findIdx?_eq_some_iff_getElem]
      simp only [Bool.and_eq_true, decide_eq_true_eq]
      refine ⟨hlt, ?_, fun j hj => ?_⟩
      · rw [hget]
        exact hinside
      · exact hfirst j hj _ (Array.getElem?_eq_getElem (Nat.lt_trans hj hlt))
    rw [hindex]
    simp only []
    rw [Array.getD_eq_getD_getElem?, hb, Option.getD_some]

/-- Every range is located as before if a buffer changes that stays where it is. -/
theorem locate_modifyBuffer {f : Buffer → Buffer} (hbase : ∀ b, (f b).base = b.base)
    (hsize : ∀ b, (f b).size = b.size) (memory : Memory) (index address length : Nat) :
    (memory.modifyBuffer index f).locate address length = memory.locate address length := by
  have hget : ∀ i : Nat, (memory.modifyBuffer index f).buffers[i]? =
      memory.buffers[i]?.map fun b => if index = i then f b else b := by
    intro i
    rw [getElem?_modifyBuffer]
    split <;> simp
  refine Option.ext fun ⟨i, offset⟩ => ?_
  have hplace : ∀ i b, (if index = i then f b else b).base = b.base ∧
      (if index = i then f b else b).size = b.size := by
    intro i b
    split
    · exact ⟨hbase b, hsize b⟩
    · exact ⟨rfl, rfl⟩
  rw [locate_eq_some, locate_eq_some]
  simp only [hget, Option.map_eq_some_iff]
  constructor
  · rintro ⟨_, ⟨b, hb, rfl⟩, hinside, hoffset, hfirst⟩
    rw [(hplace i b).1, (hplace i b).2] at hinside
    rw [(hplace i b).1] at hoffset
    refine ⟨b, hb, hinside, hoffset, fun j hj c hc => ?_⟩
    have hother := hfirst j hj _ ⟨c, hc, rfl⟩
    rwa [(hplace j c).1, (hplace j c).2] at hother
  · rintro ⟨b, hb, hinside, hoffset, hfirst⟩
    refine ⟨_, ⟨b, hb, rfl⟩, ?_, ?_, ?_⟩
    · rw [(hplace i b).1, (hplace i b).2]
      exact hinside
    · rw [(hplace i b).1]
      exact hoffset
    · rintro j hj _ ⟨c, hc, rfl⟩
      rw [(hplace j c).1, (hplace j c).2]
      exact hfirst j hj c hc

/-- Bytes are read at an address where one buffer holds them all. -/
theorem peek_eq_some :
    memory.peek address length = some bytes ↔
      ∃ i offset, memory.locate address length = some (i, offset) ∧
        (memory.buffers.getD i default).read offset length = bytes := by
  unfold peek
  constructor
  · intro h
    split at h
    · next i offset hlocate => exact ⟨i, offset, hlocate, Option.some.inj h⟩
    · cases h
  · rintro ⟨i, offset, hlocate, rfl⟩
    rw [hlocate]

/-- As many bytes are read as are asked for. -/
theorem length_of_peek (h : memory.peek address length = some bytes) : bytes.length = length := by
  obtain ⟨i, offset, -, rfl⟩ := peek_eq_some.mp h
  exact Buffer.length_read ..

/-- Bytes are written at an address under the same condition. -/
theorem poke_eq_some :
    memory.poke address bytes = some memory' ↔
      ∃ i offset, memory.locate address bytes.length = some (i, offset) ∧
        memory' = memory.modifyBuffer i fun b => b.write offset bytes := by
  unfold poke
  constructor
  · intro h
    split at h
    · next i offset hlocate => exact ⟨i, offset, hlocate, (Option.some.inj h).symm⟩
    · cases h
  · rintro ⟨i, offset, hlocate, rfl⟩
    rw [hlocate]

/-- A range is read if it is located. -/
theorem isSome_peek (memory : Memory) (address length : Nat) :
    (memory.peek address length).isSome = (memory.locate address length).isSome := by
  unfold peek
  cases memory.locate address length <;> rfl

/-- A byte of a range that is located is located by itself, since no two buffers have it. -/
theorem WellFormed.locate_byte (h : memory.WellFormed) {i offset k : Nat}
    (hlocate : memory.locate address length = some (i, offset)) (hk : k < length) :
    memory.locate (address + k) 1 = some (i, offset + k) := by
  obtain ⟨b, hb, hinside, hoffset, -⟩ := locate_eq_some.mp hlocate
  refine locate_eq_some.mpr ⟨b, hb, by omega, by omega, fun j hj c hc hother => ?_⟩
  have hapart := h.apart hj hc hb
  omega

/-- A byte of a range that is read is read by itself. -/
theorem WellFormed.peek_byte (h : memory.WellFormed) (hpeek : memory.peek address length = some bytes)
    {k : Nat} (hk : k < bytes.length) : memory.peek (address + k) 1 = some [bytes[k]] := by
  have hlength := length_of_peek hpeek
  obtain ⟨i, offset, hlocate, rfl⟩ := peek_eq_some.mp hpeek
  rw [Memory.peek, h.locate_byte hlocate (hlength ▸ hk)]
  simp [Buffer.read]

/-- A byte of a range that two memories have in common is the same in both. -/
theorem WellFormed.peek_byte_congr (h : memory.WellFormed) (h' : memory'.WellFormed)
    (hpeek : memory.peek address length = some bytes)
    (hpeek' : memory'.peek address length = some bytes) {byte : Nat}
    (hbyte : address ≤ byte ∧ byte < address + length) :
    memory.peek byte 1 = memory'.peek byte 1 := by
  obtain ⟨k, rfl⟩ := Nat.exists_eq_add_of_le hbyte.1
  have hk : k < bytes.length := by
    rw [length_of_peek hpeek]
    omega
  rw [h.peek_byte hpeek hk, h'.peek_byte hpeek' hk]

/-- Memories with buffers at the same places are read alike if their bytes are. -/
theorem WellFormed.peek_ext (h : memory.WellFormed) (h' : memory'.WellFormed)
    (hlocate : ∀ address length, memory'.locate address length = memory.locate address length)
    (hbyte : ∀ address, memory'.peek address 1 = memory.peek address 1) (address length : Nat) :
    memory'.peek address length = memory.peek address length := by
  have hsome : (memory'.peek address length).isSome = (memory.peek address length).isSome := by
    rw [isSome_peek, isSome_peek, hlocate]
  cases hpeek : memory.peek address length with
  | none => rwa [hpeek, Option.isSome_none, Option.isSome_eq_false_iff, Option.isNone_iff_eq_none]
      at hsome
  | some bytes =>
    rw [hpeek] at hsome
    obtain ⟨bytes', hpeek'⟩ := Option.isSome_iff_exists.mp hsome
    have hlength := (length_of_peek hpeek').trans (length_of_peek hpeek).symm
    rw [hpeek']
    refine congrArg some (List.ext_getElem hlength fun k hk hk' => ?_)
    have hone := hbyte (address + k)
    rw [h.peek_byte hpeek hk', h'.peek_byte hpeek' hk] at hone
    exact List.head_eq_of_cons_eq (Option.some.inj hone)

/-! ### What a write changes -/

/-- After a write, every range is located where it was before. -/
theorem locate_of_poke (h : memory.poke address bytes = some memory') (address' length' : Nat) :
    memory'.locate address' length' = memory.locate address' length' := by
  obtain ⟨i, offset, -, rfl⟩ := poke_eq_some.mp h
  exact locate_modifyBuffer (fun b => b.write_base offset bytes)
    (fun b => b.write_size offset bytes) _ _ _ _

/-- A write moves no buffer. -/
theorem extends_of_poke (h : memory.poke address bytes = some memory') :
    memory'.Extends memory := by
  obtain ⟨i, offset, -, rfl⟩ := poke_eq_some.mp h
  exact extends_write _ _ _ _

/-- Memory that was written to is as well-formed as before. -/
theorem WellFormed.of_poke (hmemory : memory.WellFormed)
    (h : memory.poke address bytes = some memory') : memory'.WellFormed := by
  obtain ⟨i, offset, -, rfl⟩ := poke_eq_some.mp h
  exact hmemory.write _ _ _

/-- After a write, a range is read from the buffer that it was read from, with the bytes written
that lie in it. -/
theorem peek_of_poke (h : memory.poke address bytes = some memory') (address' length' : Nat) :
    ∃ i offset, memory.locate address bytes.length = some (i, offset) ∧
      memory'.peek address' length' =
        (memory.locate address' length').map fun place =>
          if place.1 = i then
            ((memory.buffers.getD i default).write offset bytes).read place.2 length'
          else (memory.buffers.getD place.1 default).read place.2 length' := by
  obtain ⟨i, offset, hlocate, rfl⟩ := poke_eq_some.mp h
  obtain ⟨b, hb, -⟩ := locate_eq_some.mp hlocate
  refine ⟨i, offset, hlocate, ?_⟩
  rw [peek, locate_of_poke h]
  cases memory.locate address' length' with
  | none => rfl
  | some place =>
    obtain ⟨j, offset'⟩ := place
    simp only [Option.map_some, Option.some.injEq]
    rw [Array.getD_eq_getD_getElem?, getElem?_modifyBuffer]
    by_cases hij : i = j
    · subst hij
      rw [if_pos rfl, if_pos rfl, hb, Array.getD_eq_getD_getElem?, hb]
      rfl
    · rw [if_neg hij, if_neg (Ne.symm hij), Array.getD_eq_getD_getElem?]

/-- What was written is read back. -/
theorem peek_poke_self (h : memory.poke address bytes = some memory') :
    memory'.peek address bytes.length = some bytes := by
  obtain ⟨i, offset, hlocate, hpeek⟩ := peek_of_poke h address bytes.length
  rw [hpeek, hlocate, Option.map_some, if_pos rfl]
  refine congrArg some (List.ext_getElem (by simp) fun j _ hj => ?_)
  simp only [Buffer.read, List.getElem_map, List.getElem_range', Buffer.byte_write]
  rw [if_pos (by omega), Nat.one_mul, Nat.add_sub_cancel_left, List.getD_eq_getElem?_getD,
    List.getElem?_eq_getElem hj, Option.getD_some]

/-- A range apart from what was written is read as before. -/
theorem peek_poke_apart (h : memory.poke address bytes = some memory')
    (hapart : Apart address' length' address bytes.length) :
    memory'.peek address' length' = memory.peek address' length' := by
  obtain ⟨i, offset, hlocate, hpeek⟩ := peek_of_poke h address' length'
  rw [hpeek, peek]
  cases hplace : memory.locate address' length' with
  | none => rfl
  | some place =>
    obtain ⟨j, offset'⟩ := place
    rw [Option.map_some]
    by_cases hij : j = i
    · subst hij
      obtain ⟨b, hb, hinside, rfl, -⟩ := locate_eq_some.mp hlocate
      obtain ⟨b', hb', hinside', rfl, -⟩ := locate_eq_some.mp hplace
      cases hb.symm.trans hb'
      rw [if_pos rfl]
      refine congrArg some (Buffer.read_congr fun k hk hk' => ?_)
      rw [Buffer.byte_write, if_neg]
      unfold Apart at hapart
      omega
    · rw [if_neg hij]

/-- Nothing changes if what is written was there before. -/
theorem peek_poke_same (h : memory.poke address bytes = some memory')
    (hsame : memory.peek address bytes.length = some bytes) :
    memory'.peek address' length' = memory.peek address' length' := by
  obtain ⟨i, offset, hlocate, hpeek⟩ := peek_of_poke h address' length'
  obtain ⟨j, offset', hlocate', hread⟩ := peek_eq_some.mp hsame
  obtain ⟨rfl, rfl⟩ := Prod.mk.inj (Option.some.inj (hlocate.symm.trans hlocate'))
  rw [hpeek, peek]
  cases memory.locate address' length' with
  | none => rfl
  | some place =>
    obtain ⟨j, offset'⟩ := place
    rw [Option.map_some]
    by_cases hij : j = i
    · subst hij
      rw [if_pos rfl]
      refine congrArg some (Buffer.read_congr fun k _ _ => ?_)
      rw [Buffer.byte_write]
      split
      · next hk =>
        have hbyte : ((memory.buffers.getD j default).read offset bytes.length).getD
            (k - offset) 0 = (memory.buffers.getD j default).byte k := by
          have hlt : k - offset < bytes.length := by omega
          rw [List.getD_eq_getElem?_getD, List.getElem?_eq_getElem (by simpa using hlt),
            Option.getD_some]
          simp only [Buffer.read, List.getElem_map, List.getElem_range']
          rw [Nat.one_mul, Nat.add_sub_cancel' hk.1]
        rw [hread] at hbyte
        exact hbyte
      · rfl
    · rw [if_neg hij]

/-! ### Ranges in allocations -/

/-- A range of an allocation is read from its buffer. -/
theorem WellFormed.peek_of_covers (h : memory.WellFormed) (ha : memory.Holds a)
    (hcovers : a.Covers address length) (hpos : 0 < length) :
    memory.peek address length =
      some ((memory.buffer a).read (address - a.address.toNat) length) := by
  obtain ⟨hle, hle'⟩ := hcovers
  have hpeek : memory.peek (a.address.toNat + (address - a.address.toNat)) length = _ :=
    h.peek ha hpos (by omega)
  rwa [Nat.add_sub_cancel' hle] at hpeek

/-- A range of an allocation is written in its buffer, and the buffers of other allocations stay as
they are. -/
theorem WellFormed.poke_of_covers (h : memory.WellFormed) (ha : memory.Holds a)
    (hcovers : a.Covers address bytes.length) (hpos : 0 < bytes.length) :
    ∃ memory', memory.poke address bytes = some memory' ∧
      ∀ b, memory.Holds b → b.index ≠ a.index → memory'.buffer b = memory.buffer b := by
  obtain ⟨hle, hle'⟩ := hcovers
  have hpoke : memory.poke (a.address.toNat + (address - a.address.toNat)) bytes = _ :=
    h.poke ha hpos (by omega)
  rw [Nat.add_sub_cancel' hle] at hpoke
  refine ⟨_, hpoke, fun b hb hne => ?_⟩
  rw [buffer_modifyBuffer hb, if_neg (Ne.symm hne)]

/-- A byte is the same in two memories if it lies in a range that is. -/
theorem WellFormed.peek_byte_eq (h : memory.WellFormed) (h' : memory'.WellFormed)
    (ha : memory.Holds a) (hcovers : a.Covers address length)
    (hsame : memory.peek address length = memory'.peek address length) {byte : Nat}
    (hbyte : address ≤ byte ∧ byte < address + length) :
    memory.peek byte 1 = memory'.peek byte 1 := by
  have hpeek := h.peek_of_covers ha hcovers (by omega)
  exact h.peek_byte_congr h' hpeek (hsame ▸ hpeek) hbyte

/-- Ranges of different allocations are apart. -/
theorem WellFormed.apart_of_covers (h : memory.WellFormed) (ha : memory.Holds a)
    (hb : memory.Holds b) (hne : a.index ≠ b.index) (hcovers : a.Covers address length)
    (hcovers' : b.Covers address' length') : Apart address length address' length' := by
  have hdisjoint := h.disjoint ha hb hne
  unfold Apart
  unfold Allocation.Covers at hcovers hcovers'
  omega

end Memory

end KernelForge
