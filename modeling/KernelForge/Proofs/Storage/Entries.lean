import KernelForge.Proofs.Packing.Elements
import KernelForge.Proofs.Storage.Addresses
import KernelForge.Proofs.Storage.Sizes
import Mathlib.Algebra.BigOperators.Group.List.Basic

/-!
# Entries of a matrix

The entries of a matrix are the elements of its rows and the padding after them. In a matrix that owns
its elements they lie at different addresses of its allocation. A new matrix is zero, and whoever
overwrites a matrix clears its padding. Reading a matrix goes through its elements row by row and
leaves the padding out.
-/

namespace KernelForge

namespace Memory

/-- A new buffer is zero. -/
theorem kept_of_allocate {memory memory' : Memory} {allocator : Allocator} {size : UInt64}
    {a : Allocation} (hallocate : allocate allocator size memory = .ok (a, memory')) :
    (memory'.buffer a).kept = #[] := by
  obtain ⟨granted, -, hreserve⟩ := request_ofExcept_bind.mp hallocate
  obtain ⟨-, heq⟩ := reserve_eq_ok.mp hreserve
  obtain ⟨rfl, rfl⟩ := Prod.mk.inj heq
  rw [buffer, Array.getD_eq_getD_getElem?, Array.getElem?_push_size]
  rfl

/-- The value that a memory holds at an address. -/
def valueAt (memory : Memory) (t : ElementType) (address : Nat) : t.Value :=
  t.decode ((memory.peek address t.bytes).getD [])

end Memory

namespace Matrix

variable (m : Matrix)

/-! ### Addresses -/

/-- The address of an element, or of padding after the elements of a row. -/
def entryAddress (i j : Nat) : Nat :=
  m.address.toNat + (i * m.layout.leading.toNat + j) * m.elementType.bytes

/-- An address of an element. -/
def ElementAt (address : Nat) : Prop :=
  ∃ i j, i < m.layout.rows.toNat ∧ j < m.layout.columns.toNat ∧ address = m.entryAddress i j

/-- An address of padding. -/
def PaddingAt (address : Nat) : Prop :=
  ∃ i j, i < m.layout.rows.toNat ∧ m.layout.columns.toNat ≤ j ∧ j < m.layout.leading.toNat ∧
    address = m.entryAddress i j

/-- The addresses that are read for the elements of a matrix, in the order in which they are read. -/
def elementAddresses : List Nat :=
  let leading := m.layout.leading.toNat
  let total := m.layout.elements.toNat
  (chunks leading (total / leading)
    ((List.range total).map fun k => m.address.toNat + k * m.elementType.bytes)).flatMap
      (·.take m.layout.columns.toNat)

variable {m} {memory memory' : Memory}

/-- Different entries have different addresses. -/
theorem entryAddress_inj {i j i' j' : Nat} (hj : j < m.layout.leading.toNat)
    (hj' : j' < m.layout.leading.toNat) (h : m.entryAddress i j = m.entryAddress i' j') :
    i = i' ∧ j = j' := by
  have hnumber : i * m.layout.leading.toNat + j = i' * m.layout.leading.toNat + j' :=
    Nat.eq_of_mul_eq_mul_right m.elementType.bytes_pos (Nat.add_left_cancel h)
  obtain ⟨hdiv, hmod⟩ := ViewElement.div_mod_mul_add (a := i) hj
  obtain ⟨hdiv', hmod'⟩ := ViewElement.div_mod_mul_add (a := i') hj'
  rw [hnumber] at hdiv hmod
  exact ⟨hdiv.symm.trans hdiv', hmod.symm.trans hmod'⟩

/-- Elements are not padding. -/
theorem ElementAt.not_paddingAt {address : Nat} (h : m.ElementAt address) :
    ¬ m.PaddingAt address := by
  obtain ⟨i, j, -, hj, rfl⟩ := h
  rintro ⟨i', j', -, hle, hj', heq⟩
  have hlt := Nat.lt_of_lt_of_le hj m.layout.accepted.columns_le
  have hcolumn := (entryAddress_inj hlt hj' heq).2
  omega

/-- An entry with a number is padding if its row is at its end by then. -/
theorem paddingAt_iff {k : Nat} (hk : k < m.layout.rows.toNat * m.layout.leading.toNat) :
    m.PaddingAt (m.address.toNat + k * m.elementType.bytes) ↔
      m.layout.columns.toNat ≤ k % m.layout.leading.toNat := by
  have hleading : 0 < m.layout.leading.toNat := Nat.pos_of_mul_pos_left (Nat.zero_lt_of_lt hk)
  have hmod := Nat.mod_lt k hleading
  have hentry : m.entryAddress (k / m.layout.leading.toNat) (k % m.layout.leading.toNat) =
      m.address.toNat + k * m.elementType.bytes := by
    rw [entryAddress, Nat.div_add_mod']
  rw [← hentry]
  constructor
  · rintro ⟨i, j, -, hle, hj, heq⟩
    rwa [(entryAddress_inj hmod hj heq).2]
  · intro hle
    exact ⟨_, _, (Nat.div_lt_iff_lt_mul hleading).mpr hk, hle, hmod, rfl⟩

/-- An element of a matrix that owns its elements lies in its allocation. -/
theorem Owned.covers (h : m.Owned memory) {i j : Nat} (hi : i < m.layout.rows.toNat)
    (hj : j < m.layout.leading.toNat) :
    m.storage.Covers (m.address.toNat + (i * m.layout.leading.toNat + j) * m.elementType.bytes)
      m.elementType.bytes := by
  have hlt : i * m.layout.leading.toNat + j + 1 ≤ m.layout.rows.toNat * m.layout.leading.toNat :=
    ViewElement.mul_add_lt hi hj
  have hle := Nat.mul_le_mul_right m.elementType.bytes hlt
  rw [Nat.succ_mul, Nat.mul_comm m.layout.rows.toNat, ← h.size_eq] at hle
  refine ⟨Nat.le_add_right _ _, ?_⟩
  rw [Nat.add_assoc]
  exact Nat.add_le_add_left hle _

/-- So does padding. -/
theorem Owned.covers_padding (h : m.Owned memory) {address : Nat} (haddress : m.PaddingAt address) :
    m.storage.Covers address m.elementType.bytes := by
  obtain ⟨i, j, hi, -, hj, rfl⟩ := haddress
  exact h.covers hi hj

/-- An address of an element lies in the allocation. -/
theorem Owned.covers_element (h : m.Owned memory) {address : Nat}
    (haddress : m.ElementAt address) : m.storage.Covers address m.elementType.bytes := by
  obtain ⟨i, j, hi, hj, rfl⟩ := haddress
  exact h.covers hi (Nat.lt_of_lt_of_le hj m.layout.accepted.columns_le)

/-! ### Matrices that are cleared -/

/-- A later memory in which all padding of a matrix is zero, and no other buffer changed. -/
structure Cleared (m : Matrix) (before after : Memory) : Prop where
  wellFormed : after.WellFormed
  older : after.Extends before
  buffer_eq : ∀ a, before.Holds a → a.index ≠ m.storage.index → after.buffer a = before.buffer a
  padding : ∀ address, m.PaddingAt address →
    after.peek address m.elementType.bytes = some (m.elementType.encode m.elementType.zero)

/-- The first row of data, with its padding, comes before the rows of the rest. -/
theorem padded_chunks_succ {t : ElementType} {columns leading count : Nat} (hle : columns ≤ leading)
    {data : List t.Value} (hlength : data.length = (count + 1) * columns) :
    padded t columns leading (chunks columns (count + 1) data) =
        (data.take columns ++ List.replicate (leading - columns) t.zero) ++
          padded t columns leading (chunks columns count (data.drop columns)) ∧
      (data.take columns).length = columns ∧
      (data.take columns ++ List.replicate (leading - columns) t.zero).length = leading ∧
      (data.drop columns).length = count * columns := by
  rw [Nat.succ_mul] at hlength
  have htake : (data.take columns).length = columns := by
    rw [List.length_take]
    omega
  refine ⟨?_, htake, ?_, ?_⟩
  · rw [chunks, padded, List.flatMap_cons, padded]
  · rw [List.length_append, htake, List.length_replicate]
    omega
  · rw [List.length_drop]
    omega

/-- Rows that are cut out of data, each followed by zeros, are as long as rows with padding, and all
entries after the columns are zeros. -/
theorem padded_chunks {t : ElementType} {columns leading count : Nat} (hle : columns ≤ leading)
    {data : List t.Value} (hlength : data.length = count * columns) :
    (padded t columns leading (chunks columns count data)).length = count * leading ∧
      ∀ i < count, ∀ j, columns ≤ j → j < leading →
        (padded t columns leading (chunks columns count data))[i * leading + j]? = some t.zero := by
  induction count generalizing data with
  | zero => exact ⟨(Nat.zero_mul _).symm, fun i hi => absurd hi (Nat.not_lt_zero i)⟩
  | succ count ih =>
    obtain ⟨hsplit, htake, hrow, hdrop⟩ := padded_chunks_succ hle hlength
    obtain ⟨hrest, hzeros⟩ := ih hdrop
    rw [hsplit]
    refine ⟨by rw [List.length_append, hrow, hrest, Nat.succ_mul, Nat.add_comm], ?_⟩
    intro i hi j hj hj'
    cases i with
    | zero =>
      have hinside : j < (data.take columns ++
          List.replicate (leading - columns) t.zero).length := hrow.symm ▸ hj'
      rw [Nat.zero_mul, Nat.zero_add, List.getElem?_append_left hinside,
        List.getElem?_append_right (by omega), htake, List.getElem?_replicate, if_pos (by omega)]
    | succ i =>
      have hnext : (i + 1) * leading + j = leading + (i * leading + j) := by
        rw [Nat.succ_mul]
        omega
      rw [hnext, List.getElem?_append_right (by omega), hrow, Nat.add_sub_cancel_left]
      exact hzeros i (Nat.lt_of_succ_lt_succ hi) j hj hj'

/-- Before the padding, each row has the elements of the data from its own place on. -/
theorem getElem?_padded_chunks {t : ElementType} {columns leading count : Nat}
    (hle : columns ≤ leading) {data : List t.Value} (hlength : data.length = count * columns)
    {i j : Nat} (hi : i < count) (hj : j < columns) :
    (padded t columns leading (chunks columns count data))[i * leading + j]? =
      data[i * columns + j]? := by
  induction count generalizing data i with
  | zero => omega
  | succ count ih =>
    obtain ⟨hsplit, htake, hrow, hdrop⟩ := padded_chunks_succ hle hlength
    rw [hsplit]
    cases i with
    | zero =>
      rw [Nat.zero_mul, Nat.zero_mul, Nat.zero_add, List.getElem?_append_left (by omega),
        List.getElem?_append_left (by omega), List.getElem?_take_of_lt hj]
    | succ i =>
      have hnext : (i + 1) * leading + j = leading + (i * leading + j) := by
        rw [Nat.succ_mul]
        omega
      have hdata : (i + 1) * columns + j = columns + (i * columns + j) := by
        rw [Nat.succ_mul]
        omega
      have hrest := ih hdrop (Nat.lt_of_succ_lt_succ hi)
      rw [List.getElem?_drop] at hrest
      rw [hnext, hdata, List.getElem?_append_right (by omega), hrow, Nat.add_sub_cancel_left, hrest]

/-- The rows without their padding are the data again. -/
theorem flatMap_take_padded {t : ElementType} {columns leading count : Nat}
    (hle : columns ≤ leading) {data : List t.Value} (hlength : data.length = count * columns) :
    (chunks leading count (padded t columns leading (chunks columns count data))).flatMap
      (·.take columns) = data := by
  induction count generalizing data with
  | zero =>
    rw [Nat.zero_mul] at hlength
    exact (List.eq_nil_of_length_eq_zero hlength).symm
  | succ count ih =>
    obtain ⟨hsplit, htake, hrow, hdrop⟩ := padded_chunks_succ hle hlength
    rw [hsplit, chunks, List.take_left' hrow, List.drop_left' hrow, List.flatMap_cons, ih hdrop,
      List.take_left' htake, List.take_append_drop]

/-- An allocation has as many rows as its matrix. -/
theorem rows_of_elements :
    m.layout.elements.toNat / m.layout.leading.toNat = m.layout.rows.toNat := by
  rw [Layout.toNat_elements, Nat.mul_div_cancel_left _ m.layout.leading_pos]

/-- Data of the size of a matrix has a row for each of those that the allocation has. -/
theorem rows_of_length {length : Nat}
    (hlength : length = m.layout.rows.toNat * m.layout.columns.toNat) :
    min (m.layout.elements.toNat / m.layout.leading.toNat) (length / m.layout.columns.toNat) =
      m.layout.rows.toNat := by
  rw [rows_of_elements, hlength, Nat.mul_div_cancel _ m.layout.accepted.columns_pos, Nat.min_self]

/-- Overwriting a matrix writes a value for every entry, all of which are zeros in the padding. -/
theorem exists_of_set {t : ElementType} {data : List t.Value}
    (hset : m.set t data memory = .ok ((), memory')) :
    t = m.elementType ∧ ∃ values : List t.Value,
      values.length = m.layout.rows.toNat * m.layout.leading.toNat ∧
      memory' = memory.modifyBuffer m.storage.index (·.write 0 (values.flatMap t.encode)) ∧
      ∀ i < m.layout.rows.toNat, ∀ j, m.layout.columns.toNat ≤ j → j < m.layout.leading.toNat →
        values[i * m.layout.leading.toNat + j]? = some t.zero := by
  obtain ⟨⟨⟩, htype, hset⟩ := request_ofExcept_bind.mp hset
  simp only [] at hset
  split at hset
  · cases hset
  next hlength =>
  obtain ⟨⟨⟩, -, hcopy⟩ := request_ofExcept_bind.mp hset
  replace hlength : data.length = m.layout.rows.toNat * m.layout.columns.toNat :=
    (Decidable.not_not.mp hlength).trans m.layout.toNat_count
  have hrows := rows_of_length hlength
  obtain ⟨hfull, hzeros⟩ := padded_chunks (t := t) m.layout.accepted.columns_le hlength
  have hnone : m.layout.elements.toNat - (padded t m.layout.columns.toNat m.layout.leading.toNat
      (chunks m.layout.columns.toNat m.layout.rows.toNat data)).length = 0 := by
    rw [Layout.toNat_elements, hfull, Nat.mul_comm, Nat.sub_self]
  rw [hrows, hnone, List.replicate_zero, List.append_nil] at hcopy
  obtain ⟨-, heq⟩ := Memory.copyIn_eq_ok.mp hcopy
  refine ⟨?_, _, hfull, congrArg Prod.snd heq, hzeros⟩
  unfold checkType at htype
  split at htype
  · assumption
  · cases htype

/-- A value that was written for an entry is there. -/
theorem Owned.peek_written (hm : m.Owned memory) (h : memory.WellFormed)
    {values : List m.elementType.Value}
    (hlength : values.length = m.layout.rows.toNat * m.layout.leading.toNat) {i j : Nat}
    {value : m.elementType.Value} (hi : i < m.layout.rows.toNat) (hj : j < m.layout.leading.toNat)
    (hvalue : values[i * m.layout.leading.toNat + j]? = some value) :
    (memory.modifyBuffer m.storage.index
        (·.write 0 (values.flatMap m.elementType.encode))).peek (m.entryAddress i j)
      m.elementType.bytes = some (m.elementType.encode value) := by
  let k := i * m.layout.leading.toNat + j
  let bytes := values.flatMap m.elementType.encode
  have hk : k < values.length := hlength.symm ▸ ViewElement.mul_add_lt hi hj
  have hextends := Memory.extends_write memory m.storage.index 0 bytes
  have hafter := h.write m.storage.index 0 bytes
  have hbytes : bytes.length = m.elementType.bytes * values.length :=
    length_flatMap_blocks m.elementType.length_encode values
  have hinside : m.elementType.bytes * k + m.elementType.bytes ≤ bytes.length := by
    rw [hbytes, ← Nat.mul_succ]
    exact Nat.mul_le_mul_left _ hk
  have hread := @Buffer.take_drop_read ((memory.buffer m.storage).write 0 bytes) 0 _ _ _ hinside
  have hblock : (bytes.drop (m.elementType.bytes * k)).take m.elementType.bytes =
      m.elementType.encode values[k] := take_drop_flatMap m.elementType.length_encode values hk
  rw [Buffer.read_write, Nat.zero_add, hblock] at hread
  have hoffset : m.entryAddress i j - m.storage.address.toNat = m.elementType.bytes * k := by
    rw [Nat.mul_comm m.elementType.bytes]
    exact Nat.add_sub_cancel_left ..
  have hfound : values[k] = value :=
    Option.some.inj ((List.getElem?_eq_getElem hk).symm.trans hvalue)
  refine (hafter.peek_of_covers (hm.extend hextends).held (hm.covers hi hj)
    m.elementType.bytes_pos).trans ?_
  rw [Memory.buffer_modifyBuffer hm.held, if_pos rfl]
  change some (((memory.buffer m.storage).write 0 bytes).read
    (m.entryAddress i j - m.storage.address.toNat) m.elementType.bytes) = _
  rw [hoffset, ← hread, hfound]

/-- Overwriting a matrix clears its padding. -/
theorem Owned.cleared_of_set (hm : m.Owned memory) (h : memory.WellFormed) {t : ElementType}
    {data : List t.Value} (hset : m.set t data memory = .ok ((), memory')) :
    m.Cleared memory memory' := by
  obtain ⟨rfl, values, hlength, rfl, hzeros⟩ := exists_of_set hset
  refine ⟨h.write _ _ _, Memory.extends_write _ _ _ _, fun a ha hne => ?_, ?_⟩
  · rw [Memory.buffer_modifyBuffer ha, if_neg (Ne.symm hne)]
  · rintro address ⟨i, j, hi, hle, hj, rfl⟩
    exact hm.peek_written h hlength hi hj (hzeros i hi j hle hj)

/-- Filling a matrix clears its padding. -/
theorem Owned.cleared_of_fill (hm : m.Owned memory) (h : memory.WellFormed) {t : ElementType}
    {value : t.Value} (hfill : m.fill t value memory = .ok ((), memory')) :
    m.Cleared memory memory' := by
  obtain ⟨⟨⟩, -, hfill⟩ := request_ofExcept_bind.mp hfill
  obtain ⟨⟨⟩, -, hset⟩ := request_ofExcept_bind.mp hfill
  exact hm.cleared_of_set h hset

/-- The padding of a new matrix is zero. -/
theorem cleared_of_allocate {allocator : Allocator} {size : UInt64} (h : memory.WellFormed)
    (hallocate : Memory.allocate allocator size memory = .ok (m.storage, memory'))
    (hm : m.Owned memory') : m.Cleared memory memory' := by
  have hadded := h.added hallocate
  refine ⟨hadded.wellFormed, hadded.older, fun a ha _ => hadded.buffer_eq a ha, ?_⟩
  intro address haddress
  rw [hadded.wellFormed.peek_of_covers hm.held (hm.covers_padding haddress)
    m.elementType.bytes_pos]
  have hzero : m.elementType.encode m.elementType.zero = List.replicate m.elementType.bytes 0 := by
    cases m.elementType <;> rfl
  have hread (offset : Nat) : (memory'.buffer m.storage).read offset m.elementType.bytes =
      List.replicate m.elementType.bytes 0 := by
    rw [Buffer.read, List.eq_replicate_iff]
    refine ⟨by simp, fun b hb => ?_⟩
    obtain ⟨i, -, rfl⟩ := List.mem_map.mp hb
    rw [Buffer.byte, Memory.kept_of_allocate hallocate]
    rfl
  rw [hread, hzero]

/-! ### Elements that are read -/

/-- Pieces of a list whose entries are replaced. -/
theorem chunks_map {α β : Type} (f : α → β) (length count : Nat) (list : List α) :
    chunks length count (list.map f) = (chunks length count list).map (List.map f) := by
  induction count generalizing list with
  | zero => rfl
  | succ count ih => rw [chunks, chunks, List.map_cons, ← List.map_take, ← List.map_drop, ih]

/-- What a matrix that owns its elements gives is what memory holds at the addresses of its elements,
in their order. -/
theorem Owned.get_eq_map (hm : m.Owned memory) (h : memory.WellFormed) :
    m.get m.elementType memory =
      .ok (m.elementAddresses.map (memory.valueAt m.elementType), memory) := by
  have hpos := m.elementType.bytes_pos
  let bytes := (memory.buffer m.storage).read 0 (m.layout.elements.toNat * m.elementType.bytes)
  have hsize : m.layout.elements.toNat * m.elementType.bytes = m.storage.size := by
    rw [Layout.toNat_elements, hm.size_eq]
  have hcopy : Memory.copyOut m.storage 0 (m.layout.elements.toNat * m.elementType.bytes) memory =
      .ok (bytes, memory) :=
    Memory.copyOut_eq_ok.mpr ⟨Nat.le_of_eq ((Nat.zero_add _).trans hsize), rfl⟩
  have hvalues : decodeAll m.elementType m.layout.elements.toNat bytes =
      ((List.range m.layout.elements.toNat).map fun k =>
        m.address.toNat + k * m.elementType.bytes).map (memory.valueAt m.elementType) := by
    refine List.ext_getElem? fun k => ?_
    by_cases hk : k < m.layout.elements.toNat
    · have hinside : k * m.elementType.bytes + m.elementType.bytes ≤
          m.layout.elements.toNat * m.elementType.bytes := by
        rw [← Nat.succ_mul]
        exact Nat.mul_le_mul_right _ hk
      have hread : (bytes.drop (k * m.elementType.bytes)).take m.elementType.bytes = _ :=
        Buffer.take_drop_read _ hinside
      have hpeek : memory.peek (m.address.toNat + k * m.elementType.bytes) m.elementType.bytes = _ :=
        h.peek hm.held hpos (hsize ▸ hinside)
      rw [Nat.zero_add] at hread
      rw [getElem?_decodeAll _ _ hk, hread, List.map_map, List.getElem?_map,
        List.getElem?_range hk, Option.map_some]
      simp only [Function.comp_apply, Memory.valueAt, hpeek, Option.getD_some]
    · rw [List.getElem?_eq_none (by rw [length_decodeAll]; omega),
        List.getElem?_eq_none (by simpa using hk)]
  have hraw : m.raw m.elementType m.layout.elements.toNat memory = _ := request_bind hcopy
  refine request_ofExcept_bind.mpr ⟨(), if_pos rfl, (request_bind hraw).trans ?_⟩
  rw [hvalues, chunks_map, List.flatMap_map, elementAddresses, List.map_flatMap]
  simp only [List.map_take]
  rfl

/-- The elements of a matrix whose rows touch are what is at their addresses, one after the
other. -/
theorem Owned.get_eq_ok (hm : m.Owned memory) (h : memory.WellFormed)
    (hcolumns : m.layout.columns = m.layout.leading) {t : ElementType} (ht : m.elementType = t) :
    ∃ values : List t.Value, m.get t memory = .ok (values, memory) ∧
      values.length = m.layout.leading.toNat * m.layout.rows.toNat ∧
      ∀ k < m.layout.leading.toNat * m.layout.rows.toNat, ∃ bytes,
        memory.peek (m.address.toNat + k * t.bytes) t.bytes = some bytes ∧
          values[k]? = some (t.decode bytes) := by
  subst ht
  have htotal := m.layout.toNat_elements
  have hrows : ((List.range m.layout.elements.toNat).map fun k =>
      m.address.toNat + k * m.elementType.bytes).length =
        m.layout.elements.toNat / m.layout.leading.toNat * m.layout.leading.toNat := by
    rw [List.length_map, List.length_range, Nat.div_mul_cancel]
    exact htotal ▸ Nat.dvd_mul_right ..
  have haddresses : m.elementAddresses = (List.range m.layout.elements.toNat).map fun k =>
      m.address.toNat + k * m.elementType.bytes := by
    rw [elementAddresses, hcolumns, flatMap_chunks hrows]
  refine ⟨_, hm.get_eq_map h, ?_, fun k hk => ?_⟩
  · rw [haddresses, List.length_map, List.length_map, List.length_range, htotal]
  · have hinside : k * m.elementType.bytes + m.elementType.bytes ≤ m.storage.size := by
      rw [← Nat.succ_mul, hm.size_eq]
      exact Nat.mul_le_mul_right _ hk
    have hpeek : memory.peek (m.address.toNat + k * m.elementType.bytes) m.elementType.bytes = _ :=
      h.peek hm.held m.elementType.bytes_pos hinside
    refine ⟨_, hpeek, ?_⟩
    rw [haddresses, List.map_map, List.getElem?_map, List.getElem?_range (htotal ▸ hk),
      Option.map_some]
    simp only [Function.comp_apply, Memory.valueAt, hpeek, Option.getD_some]

/-- Numbers row by row. -/
theorem range_mul_eq_flatMap (rows leading : Nat) :
    List.range (rows * leading) =
      (List.range rows).flatMap fun i => (List.range leading).map (i * leading + ·) := by
  induction rows with
  | zero => rw [Nat.zero_mul]; rfl
  | succ rows ih =>
    rw [Nat.succ_mul, List.range_add, ih, List.range_succ, List.flatMap_append, List.flatMap_singleton]

/-- The elements of a matrix are read row by row. -/
theorem elementAddresses_eq :
    m.elementAddresses = (List.range m.layout.rows.toNat).flatMap fun i =>
      (List.range m.layout.columns.toNat).map (m.entryAddress i) := by
  have hentries : ((List.range m.layout.elements.toNat).map fun k =>
      m.address.toNat + k * m.elementType.bytes) = (List.range m.layout.rows.toNat).flatMap fun i =>
        (List.range m.layout.leading.toNat).map (m.entryAddress i) := by
    rw [Layout.toNat_elements, Nat.mul_comm, range_mul_eq_flatMap, List.map_flatMap]
    simp only [List.map_map]
    rfl
  have hchunks := chunks_flatMap
    (f := fun i => (List.range m.layout.leading.toNat).map (m.entryAddress i))
    (n := m.layout.leading.toNat) (fun i => by simp) (List.range m.layout.rows.toNat)
  rw [List.length_range] at hchunks
  simp only [elementAddresses, rows_of_elements, hentries, hchunks, List.flatMap_map]
  refine List.flatMap_congr fun i _ => ?_
  rw [← List.map_take, List.take_range, Nat.min_eq_left m.layout.accepted.columns_le]

/-! ### Sums over entries -/

/-- What is summed up over all entries of a matrix is what is summed up over its elements, if it is
zero for padding. -/
theorem sum_entries {R : Type} [AddCommMonoid R] {f : Nat → R}
    (hzero : ∀ address, m.PaddingAt address → f address = 0) :
    ((List.range m.layout.elements.toNat).map fun k =>
        f (m.address.toNat + k * m.elementType.bytes)).sum = (m.elementAddresses.map f).sum := by
  have hrow : ∀ i < m.layout.rows.toNat,
      ((List.range m.layout.leading.toNat).map fun j => f (m.entryAddress i j)).sum =
        ((List.range m.layout.columns.toNat).map fun j => f (m.entryAddress i j)).sum := by
    intro i hi
    obtain ⟨width, hwidth⟩ := Nat.exists_eq_add_of_le m.layout.accepted.columns_le
    have hrest : ((List.range width).map fun j =>
        f (m.entryAddress i (m.layout.columns.toNat + j))).sum = 0 := by
      refine List.sum_eq_zero fun x hx => ?_
      obtain ⟨j, hj, rfl⟩ := List.mem_map.mp hx
      have hlt := List.mem_range.mp hj
      exact hzero _ ⟨i, _, hi, Nat.le_add_right _ _, by omega, rfl⟩
    rw [hwidth, List.range_add, List.map_append, List.map_map, List.sum_append]
    change _ + ((List.range width).map fun j =>
      f (m.entryAddress i (m.layout.columns.toNat + j))).sum = _
    rw [hrest, add_zero]
  rw [elementAddresses_eq, Layout.toNat_elements, Nat.mul_comm, range_mul_eq_flatMap,
    List.map_flatMap, List.map_flatMap, List.flatMap_def, List.flatMap_def, List.sum_flatten,
    List.sum_flatten, List.map_map, List.map_map]
  refine congrArg List.sum (List.map_congr_left fun i hi => ?_)
  have hsum := hrow i (List.mem_range.mp hi)
  simp only [Function.comp_apply, List.map_map]
  exact hsum

end Matrix

end KernelForge
