import KernelForge.Proofs.Storage.Entries

/-!
# Contents of a matrix

Data that a matrix is overwritten with lies by rows in its storage, with zeros in the padding, and is
what is read back, through any handle on the storage. Nothing else is changed, and nothing at all by a
request that is refused: `set` and `get` check everything before they write.
-/

namespace KernelForge

/-! ### What stays of a request that fails -/

/-- A request of which everything stays that it wrote, also when it fails later on. -/
abbrev StepwiseM := ExceptT StorageError (StateM Memory)

/-- A request comes out the same when what it wrote stays: if it fails, it had not written yet. -/
def ChecksFirst {α : Type} (request : MemoryM α) (steps : StepwiseM α) : Prop :=
  ∀ memory, steps.run memory = match request memory with
    | .ok (a, memory') => (.ok a, memory')
    | .error error => (.error error, memory)

namespace ChecksFirst

variable {α β : Type}

/-- A check may come before a request. -/
theorem check {check : Except StorageError α} {next : α → MemoryM β} {steps : α → StepwiseM β}
    (h : ∀ a, ChecksFirst (next a) (steps a)) :
    ChecksFirst (liftM check >>= next) (liftM check >>= steps) := by
  intro memory
  cases check with
  | error error => rfl
  | ok a => exact h a memory

/-- So may a look at the memory. -/
theorem look {next : Memory → MemoryM β} {steps : Memory → StepwiseM β}
    (h : ∀ memory, ChecksFirst (next memory) (steps memory)) :
    ChecksFirst (get >>= next) (get >>= steps) :=
  fun memory => h memory memory

/-- What is done with the result of a request changes nothing. -/
theorem result {request : MemoryM α} {steps : StepwiseM α} (h : ChecksFirst request steps)
    (f : α → β) :
    ChecksFirst (request >>= fun a => pure (f a)) (steps >>= fun a => pure (f a)) := by
  intro memory
  have hsteps : steps memory = _ := h memory
  cases hrequest : request memory with
  | error error =>
    simp only [hrequest] at hsteps
    simp only [bind, StateT.bind, ExceptT.bind, ExceptT.mk, ExceptT.run, hsteps, hrequest]
    rfl
  | ok result =>
    simp only [hrequest] at hsteps
    simp only [bind, StateT.bind, ExceptT.bind, ExceptT.mk, ExceptT.run, hsteps, hrequest]
    rfl

end ChecksFirst

section

variable {M : Type → Type} [Monad M] [MonadLiftT (Except StorageError) M]
  [MonadExceptOf StorageError M] [MonadStateOf Memory M]

/-- Writing bytes, whatever becomes of them when a request fails. -/
def Memory.copyInVia (a : Allocation) (offset : Nat) (bytes : List UInt8) : M Unit := do
  checkRange a offset bytes.length
  modify (modifyBuffer a.index fun buffer => buffer.write offset bytes)

/-- Reading bytes. -/
def Memory.copyOutVia (a : Allocation) (offset length : Nat) : M (List UInt8) := do
  checkRange a offset length
  return ((← get).buffer a).read offset length

/-- Overwriting a matrix, whatever becomes of its bytes when the request fails. -/
def Matrix.setVia (m : Matrix) (t : ElementType) (data : List t.Value) : M Unit := do
  m.checkType t
  let count := m.layout.rows * m.layout.columns
  if data.length ≠ count.toNat then throw (.sizeMismatch count data.length)
  let columns := m.layout.columns.toNat
  let leading := m.layout.leading.toNat
  let total := m.layout.elements.toNat
  Memory.checkRange m.storage 0 (total * t.bytes)
  let rows := chunks columns (min (total / leading) (data.length / columns)) data
  let values := padded t columns leading rows
  let values := values ++ List.replicate (total - values.length) t.zero
  Memory.copyInVia m.storage 0 (values.flatMap t.encode)

/-- Reading a matrix. -/
def Matrix.getVia (m : Matrix) (t : ElementType) : M (List t.Value) := do
  m.checkType t
  let total := m.layout.elements.toNat
  let leading := m.layout.leading.toNat
  let values ← (do return decodeAll t total (← Memory.copyOutVia m.storage 0 (total * t.bytes)))
  return (chunks leading (total / leading) values).flatMap (·.take m.layout.columns.toNat)

end

namespace Matrix

variable (m : Matrix)

/-- Overwriting a matrix is one composition of checks and work. -/
theorem set_eq_setVia (t : ElementType) (data : List t.Value) : m.set t data = m.setVia t data := rfl

/-- So is reading one. -/
theorem get_eq_getVia (t : ElementType) : m.get t = m.getVia t := rfl

/-- Overwriting a matrix checks everything before it writes. -/
theorem checksFirst_set (t : ElementType) (data : List t.Value) :
    ChecksFirst (m.set t data) (m.setVia t data) := by
  rw [set_eq_setVia]
  -- the type, the size of the data, the range of all bytes, and once more the range that is written
  refine .check fun _ => ?_
  simp only []
  split
  · exact fun _ => rfl
  · exact .check fun _ => .check fun _ => fun _ => rfl

/-- Reading a matrix checks everything before it reads. -/
theorem checksFirst_get (t : ElementType) : ChecksFirst (m.get t) (m.getVia t) := by
  rw [get_eq_getVia]
  exact .check fun _ => .result (.result (.check fun _ => .look fun _ => fun _ => rfl) _) _

/-! ### What is written -/

variable {m} {memory memory' : Memory}

/-- The elements of an allocation that is overwritten with data. -/
def paddedData (m : Matrix) (data : List m.elementType.Value) : List m.elementType.Value :=
  padded m.elementType m.layout.columns.toNat m.layout.leading.toNat
    (chunks m.layout.columns.toNat m.layout.rows.toNat data)

/-- A memory after values were written over the allocation of a matrix. -/
def overwrite (m : Matrix) (values : List m.elementType.Value) (memory : Memory) : Memory :=
  memory.modifyBuffer m.storage.index (·.write 0 (values.flatMap m.elementType.encode))

/-- Values for a whole allocation are read back. -/
theorem Owned.raw_overwrite (hm : m.Owned memory) {values : List m.elementType.Value} (hlength : values.length = m.layout.elements.toNat) :
    m.raw m.elementType m.layout.elements.toNat (m.overwrite values memory) =
      .ok (values, m.overwrite values memory) := by
  have hbytes : (values.flatMap m.elementType.encode).length =
      m.layout.elements.toNat * m.elementType.bytes := by
    rw [length_flatMap_blocks m.elementType.length_encode, hlength, Nat.mul_comm]
  have hsize : m.layout.elements.toNat * m.elementType.bytes = m.storage.size := by
    rw [Layout.toNat_elements, hm.size_eq]
  have hbuffer : (m.overwrite values memory).buffer m.storage =
      (memory.buffer m.storage).write 0 (values.flatMap m.elementType.encode) := by
    rw [overwrite, Memory.buffer_modifyBuffer hm.held, if_pos rfl]
  have hread : ((m.overwrite values memory).buffer m.storage).read 0
      (m.layout.elements.toNat * m.elementType.bytes) = values.flatMap m.elementType.encode := by
    rw [hbuffer, ← hbytes, Buffer.read_write]
  have hcopy : Memory.copyOut m.storage 0 (m.layout.elements.toNat * m.elementType.bytes)
      (m.overwrite values memory) = .ok (_, m.overwrite values memory) :=
    Memory.copyOut_eq_ok.mpr ⟨by omega, rfl⟩
  have hdecode := decodeAll_flatMap m.elementType id values
  rw [List.map_id, hlength] at hdecode
  refine (request_bind hcopy).trans ?_
  rw [hread]
  exact congrArg (fun values => Except.ok (values, _)) hdecode

/-- Data of the size of a matrix is written over its whole allocation. -/
theorem Owned.set_eq_ok (hm : m.Owned memory) {data : List m.elementType.Value}
    (hlength : data.length = m.layout.rows.toNat * m.layout.columns.toNat) :
    m.set m.elementType data memory = .ok ((), m.overwrite (m.paddedData data) memory) := by
  have hcount := m.layout.toNat_count
  have hrows := rows_of_length hlength
  have hfull : (m.paddedData data).length = m.layout.elements.toNat := by
    rw [Layout.toNat_elements, Nat.mul_comm]
    exact (padded_chunks m.layout.accepted.columns_le hlength).1
  have hsize : m.layout.elements.toNat * m.elementType.bytes = m.storage.size := by
    rw [Layout.toNat_elements, hm.size_eq]
  have hbytes : ((m.paddedData data).flatMap m.elementType.encode).length = m.storage.size := by
    rw [length_flatMap_blocks m.elementType.length_encode, hfull, Nat.mul_comm, hsize]
  have hrange : Memory.checkRange m.storage 0 (m.layout.elements.toNat * m.elementType.bytes) =
      .ok () := if_pos (by omega)
  refine request_ofExcept_bind.mpr ⟨(), if_pos rfl, ?_⟩
  simp only []
  rw [if_neg (by omega)]
  refine request_ofExcept_bind.mpr ⟨(), hrange, ?_⟩
  rw [hrows]
  change Memory.copyIn m.storage 0 ((m.paddedData data ++ List.replicate
    (m.layout.elements.toNat - (m.paddedData data).length) m.elementType.zero).flatMap
      m.elementType.encode) memory = _
  rw [hfull, Nat.sub_self, List.replicate_zero, List.append_nil]
  exact Memory.copyIn_eq_ok.mpr ⟨by omega, rfl⟩

/-- Elements of another type are refused. -/
theorem set_of_type_ne {t : ElementType} (ht : t ≠ m.elementType) (data : List t.Value) :
    m.set t data memory = .error (.typeMismatch m.elementType t) := by
  have hcheck : m.checkType t = .error (.typeMismatch m.elementType t) := if_neg ht
  unfold set
  rw [hcheck]
  rfl

/-- They are refused also when a matrix is read. -/
theorem get_of_type_ne {t : ElementType} (ht : t ≠ m.elementType) :
    m.get t memory = .error (.typeMismatch m.elementType t) := by
  have hcheck : m.checkType t = .error (.typeMismatch m.elementType t) := if_neg ht
  unfold get
  rw [hcheck]
  rfl

/-- Data of another size is refused. -/
theorem set_of_length_ne {data : List m.elementType.Value}
    (hlength : data.length ≠ m.layout.rows.toNat * m.layout.columns.toNat) :
    m.set m.elementType data memory =
      .error (.sizeMismatch (m.layout.rows * m.layout.columns) data.length) := by
  have hcount := m.layout.toNat_count
  have hcheck : m.checkType m.elementType = .ok () := if_pos rfl
  have hfirst : (liftM (m.checkType m.elementType) : MemoryM Unit) memory = .ok ((), memory) := by
    rw [hcheck]
    rfl
  refine (request_bind hfirst).trans ?_
  simp only []
  rw [if_pos (by omega)]
  rfl

/-! ### What is there afterwards -/

/-- A later memory in which a matrix holds data, by rows and with zeros in the padding, and in which
nothing else has changed. -/
structure Overwritten (m : Matrix) (data : List m.elementType.Value) (before after : Memory) :
    Prop where
  wellFormed : after.WellFormed
  older : after.Extends before
  next_eq : after.next = before.next
  buffer_eq : ∀ index, index ≠ m.storage.index → after.buffers[index]? = before.buffers[index]?
  raw_eq : ∃ values, m.raw m.elementType m.layout.elements.toNat after = .ok (values, after) ∧
    values.length = m.layout.rows.toNat * m.layout.leading.toNat ∧
    ∀ r < m.layout.rows.toNat,
      (∀ k < m.layout.columns.toNat,
        values[r * m.layout.leading.toNat + k]? = data[r * m.layout.columns.toNat + k]?) ∧
      ∀ k, m.layout.columns.toNat ≤ k → k < m.layout.leading.toNat →
        values[r * m.layout.leading.toNat + k]? = some m.elementType.zero
  get_eq : ∀ handle : Matrix, handle.sharesStorage m = true → handle.layout = m.layout →
    handle.Owned before → handle.get m.elementType after = .ok (data, after)

/-- Handles on one storage with one layout are the same. -/
theorem Owned.eq_of_sharesStorage {handle : Matrix} (hm : m.Owned memory)
    (hhandle : handle.Owned memory) (hshares : handle.sharesStorage m = true)
    (hlayout : handle.layout = m.layout) : handle = m := by
  have hstorage : handle.storage = m.storage :=
    hhandle.held.eq_of_index hm.held (of_decide_eq_true hshares)
  cases handle
  cases m
  simp_all

/-- A matrix gives what its allocation holds before the padding. -/
theorem get_of_raw {values : List m.elementType.Value}
    (hraw : m.raw m.elementType m.layout.elements.toNat memory = .ok (values, memory)) :
    m.get m.elementType memory = .ok ((chunks m.layout.leading.toNat m.layout.rows.toNat values).flatMap
      (·.take m.layout.columns.toNat), memory) := by
  rw [← rows_of_elements]
  exact request_ofExcept_bind.mpr ⟨(), if_pos rfl, request_bind hraw⟩

/-- Data of the size of a matrix is there after the matrix was overwritten with it. -/
theorem Owned.overwritten_of_set (hm : m.Owned memory) (h : memory.WellFormed)
    {data : List m.elementType.Value}
    (hlength : data.length = m.layout.rows.toNat * m.layout.columns.toNat)
    (hset : m.set m.elementType data memory = .ok ((), memory')) :
    m.Overwritten data memory memory' := by
  rw [hm.set_eq_ok hlength, Except.ok.injEq, Prod.mk.injEq] at hset
  obtain ⟨-, rfl⟩ := hset
  have hextends : (m.overwrite (m.paddedData data) memory).Extends memory :=
    Memory.extends_write memory m.storage.index 0 _
  have hafter : (m.overwrite (m.paddedData data) memory).WellFormed := h.write m.storage.index 0 _
  obtain ⟨hfull, hzeros⟩ := padded_chunks (t := m.elementType) m.layout.accepted.columns_le hlength
  have htotal : (m.paddedData data).length = m.layout.elements.toNat := by
    rw [Layout.toNat_elements, Nat.mul_comm]
    exact hfull
  have hraw := hm.raw_overwrite htotal
  refine ⟨hafter, hextends, rfl, ?_, ⟨m.paddedData data, hraw, hfull, ?_⟩, ?_⟩
  · intro index hindex
    exact (Memory.getElem?_modifyBuffer ..).trans (if_neg (Ne.symm hindex))
  · intro r hr
    exact ⟨fun k hk => getElem?_padded_chunks m.layout.accepted.columns_le hlength hr hk,
      hzeros r hr⟩
  · intro handle hshares hsame hhandle
    obtain rfl := hm.eq_of_sharesStorage hhandle hshares hsame
    rw [get_of_raw hraw, paddedData, flatMap_take_padded handle.layout.accepted.columns_le hlength]

/-- What a matrix gives depends on its elements alone. -/
theorem Owned.get_congr (hm : m.Owned memory) (h : memory.WellFormed) (hm' : m.Owned memory')
    (h' : memory'.WellFormed)
    (hsame : ∀ address, m.ElementAt address →
      memory'.peek address m.elementType.bytes = memory.peek address m.elementType.bytes) :
    ∃ values, m.get m.elementType memory = .ok (values, memory) ∧
      m.get m.elementType memory' = .ok (values, memory') := by
  refine ⟨_, hm.get_eq_map h, ?_⟩
  have hvalues : m.elementAddresses.map (memory'.valueAt m.elementType) =
      m.elementAddresses.map (memory.valueAt m.elementType) := by
    refine List.map_congr_left fun address haddress => ?_
    rw [elementAddresses_eq] at haddress
    obtain ⟨i, hi, hrow⟩ := List.mem_flatMap.mp haddress
    obtain ⟨j, hj, rfl⟩ := List.mem_map.mp hrow
    have helement : m.ElementAt (m.entryAddress i j) :=
      ⟨i, j, List.mem_range.mp hi, List.mem_range.mp hj, rfl⟩
    rw [Memory.valueAt, Memory.valueAt, hsame _ helement]
  rw [hm'.get_eq_map h', hvalues]

/-- Writing a matrix and reading it are inverse to each other, whatever its layout. A matrix that owns
its elements is overwritten by data of its type and size, and by no other; it then holds that data, by
rows and with zeros in the padding, and gives it back through every handle on it, and no other buffer
has changed. What it gives depends on its elements alone. A request that is refused has written
nothing by the time it is refused. -/
theorem Owned.set_get (hm : m.Owned memory) (h : memory.WellFormed) :
    (∀ data : List m.elementType.Value,
      ((∃ memory', m.set m.elementType data memory = .ok ((), memory')) ↔
        data.length = m.layout.rows.toNat * m.layout.columns.toNat) ∧
      ∀ memory', m.set m.elementType data memory = .ok ((), memory') →
        m.Overwritten data memory memory') ∧
    (∀ memory', memory'.WellFormed → m.Owned memory' →
      (∀ address, m.ElementAt address →
        memory'.peek address m.elementType.bytes = memory.peek address m.elementType.bytes) →
      ∃ values, m.get m.elementType memory = .ok (values, memory) ∧
        m.get m.elementType memory' = .ok (values, memory')) ∧
    (∀ t, t ≠ m.elementType →
      (∀ data : List t.Value,
        m.set t data memory = .error (.typeMismatch m.elementType t) ∧
        (m.setVia t data : StepwiseM Unit).run memory =
          (.error (.typeMismatch m.elementType t), memory)) ∧
      m.get t memory = .error (.typeMismatch m.elementType t) ∧
      (m.getVia t : StepwiseM _).run memory = (.error (.typeMismatch m.elementType t), memory)) ∧
    ∀ data : List m.elementType.Value,
      data.length ≠ m.layout.rows.toNat * m.layout.columns.toNat →
        m.set m.elementType data memory =
          .error (.sizeMismatch (m.layout.rows * m.layout.columns) data.length) ∧
        (m.setVia m.elementType data : StepwiseM Unit).run memory =
          (.error (.sizeMismatch (m.layout.rows * m.layout.columns) data.length), memory) := by
  have hrefused {α : Type} {request : MemoryM α} {steps : StepwiseM α} {error : StorageError}
      (hchecks : ChecksFirst request steps) (herror : request memory = .error error) :
      steps.run memory = (.error error, memory) := by
    have hrun := hchecks memory
    rwa [herror] at hrun
  have hiff (data : List m.elementType.Value) :
      (∃ memory', m.set m.elementType data memory = .ok ((), memory')) ↔
        data.length = m.layout.rows.toNat * m.layout.columns.toNat := by
    constructor
    · rintro ⟨memory', hset⟩
      by_contra hlength
      rw [set_of_length_ne hlength] at hset
      cases hset
    · intro hlength
      exact ⟨_, hm.set_eq_ok hlength⟩
  refine ⟨fun data => ⟨hiff data, ?_⟩, ?_, ?_, ?_⟩
  · intro memory' hset
    exact hm.overwritten_of_set h ((hiff data).mp ⟨memory', hset⟩) hset
  · intro memory' h' hm' hsame
    exact hm.get_congr h hm' h' hsame
  · intro t ht
    have hget : m.get t memory = .error (.typeMismatch m.elementType t) := get_of_type_ne ht
    refine ⟨fun data => ?_, hget, hrefused (m.checksFirst_get t) hget⟩
    have hset : m.set t data memory = .error (.typeMismatch m.elementType t) :=
      set_of_type_ne ht data
    exact ⟨hset, hrefused (m.checksFirst_set t data) hset⟩
  · intro data hlength
    have hset : m.set m.elementType data memory = _ := set_of_length_ne hlength
    exact ⟨hset, hrefused (m.checksFirst_set _ data) hset⟩

/-- Two rows of three elements, eight places apart. -/
def wideRows : Matrix := ⟨⟨0, 0x55813e400000, 64⟩, ⟨.int32, 2, 3, 8, 8, .dense, by decide, by decide⟩⟩

/-- A memory in which all their bytes have been written to. -/
def fullMemory : Memory :=
  ⟨#[⟨0x55813e400000, 64, Array.replicate 64 255⟩], 0x55813e400040⟩

/-- The numbers of two rows of three. -/
def sixNumbers : List Int32 := [1, 2, 3, 4, 5, 6]

/-- A single buffer that was reserved and written to makes well-formed memory. -/
theorem wellFormed_fullMemory : fullMemory.WellFormed := by
  have hempty := Memory.wellFormed_empty.reserve
    (show Memory.reserve 64 .empty = .ok (⟨0, 0x55813e400000, 64⟩, _) from rfl)
  exact hempty.1.modifyBuffer (f := fun b => ⟨b.base, b.size, Array.replicate 64 255⟩)
    (fun _ => rfl) (fun _ => rfl) 0

/-- Six numbers go into two rows of eight places: the fifth is in the tenth place, and the fourth place
is cleared. -/
theorem wideRows_set_get :
    wideRows.Owned fullMemory ∧ fullMemory.WellFormed ∧
    ∃ memory, wideRows.set .int32 sixNumbers fullMemory = .ok ((), memory) ∧
      wideRows.get .int32 memory = .ok (sixNumbers, memory) ∧
      ∃ values, wideRows.raw .int32 16 memory = .ok (values, memory) ∧
        values[9]? = some (5 : Int32) ∧ values[3]? = some (0 : Int32) := by
  have howned : wideRows.Owned fullMemory := ⟨⟨_, rfl, rfl, rfl⟩, by decide⟩
  obtain ⟨hset, -⟩ := howned.set_get wellFormed_fullMemory
  obtain ⟨hiff, hafter⟩ := hset sixNumbers
  obtain ⟨memory, hmemory⟩ := hiff.mpr (by decide)
  obtain ⟨-, -, -, -, ⟨values, hraw, -, hvalues⟩, hget⟩ := hafter memory hmemory
  have hfifth := (hvalues 1 (by decide)).1 1 (by decide)
  have hcleared := (hvalues 0 (by decide)).2 3 (by decide) (by decide)
  exact ⟨howned, wellFormed_fullMemory, memory, hmemory,
    hget wideRows rfl rfl howned, values, hraw, hfifth, hcleared⟩

end Matrix

end KernelForge
