import KernelForge.Host.Space

/-!
# What is written is read back

Above the buffers, a byte that is written is read back from its address, and the bytes at all other
addresses stay as they are.
-/

namespace KernelForge.Host.Space

/-- The bytes at a range of addresses. -/
def bytesAt (space : Space) (address : Nat) : Nat → Option (List UInt8)
  | 0 => some []
  | length + 1 =>
      (space.read? address 1).bind fun b =>
        (space.bytesAt (address + 1) length).map (b.toUInt8 :: ·)

variable {space space' : Space} {a a' : Nat}

/-- A range lies in the segment of its address if the segment has all of it. -/
theorem segmentOf?_eq_some {length k offset : Nat} :
    space.segmentOf? a length = some (k, offset) ↔
      (a - segmentBase) / segmentSpan = k ∧ (a - segmentBase) % segmentSpan = offset ∧
        k < space.segments.size ∧ offset + length ≤ (space.segments.getD k .empty).size := by
  unfold segmentOf?
  generalize (a - segmentBase) / segmentSpan = i, (a - segmentBase) % segmentSpan = j
  by_cases hi : i < space.segments.size
  · have hget : space.segments.getD i .empty = space.segments[i] := by simp [Array.getD, hi]
    simp only [dif_pos hi]
    split
    · next hfits =>
      constructor
      · rintro ⟨⟩
        exact ⟨rfl, rfl, hi, hget ▸ hfits⟩
      · rintro ⟨rfl, rfl, -, -⟩
        rfl
    · next hfits =>
      constructor
      · rintro ⟨⟩
      · rintro ⟨rfl, rfl, -, hfits'⟩
        exact absurd (hget ▸ hfits') hfits
  · simp only [dif_neg hi]
    constructor
    · rintro ⟨⟩
    · rintro ⟨rfl, -, hi', -⟩
      exact absurd hi' hi

/-- A byte above the buffers is one of a segment. -/
theorem read?_one (h : segmentBase ≤ a) :
    space.read? a 1 = (space.segmentOf? a 1).map fun place =>
      ((space.segments.getD place.1 .empty).get! place.2).toUInt64 := by
  rw [read?, if_pos h]
  cases space.segmentOf? a 1 with
  | none => rfl
  | some place =>
    obtain ⟨k, offset⟩ := place
    simp [wordAt]

/-- Writing a byte changes a byte of a segment. -/
theorem write?_one (h : segmentBase ≤ a) {b : UInt8} :
    space.write? a 1 b.toUInt64 = (space.segmentOf? a 1).map fun place =>
      { space with segments := space.segments.modify place.1 (·.set! place.2 b) } := by
  rw [write?, if_pos h]
  cases space.segmentOf? a 1 with
  | none => rfl
  | some place =>
    obtain ⟨k, offset⟩ := place
    simp [setWordAt]

/-- A segment that is changed, and all others. -/
theorem getD_modify (segments : Array ByteArray) (k i : Nat) (f : ByteArray → ByteArray)
    (hk : k < segments.size) :
    (segments.modify k f).getD i .empty =
      if i = k then f (segments.getD k .empty) else segments.getD i .empty := by
  simp only [Array.getD_eq_getD_getElem?, Array.getElem?_modify]
  by_cases hi : k = i
  · subst hi
    simp [hk]
  · rw [if_neg hi, if_neg (Ne.symm hi)]

/-- A byte that is set, and all others. -/
theorem get!_set! {bytes : ByteArray} {i : Nat} (h : i < bytes.size) (b : UInt8) (j : Nat) :
    (bytes.set! i b).get! j = if j = i then b else bytes.get! j := by
  change (bytes.data.setIfInBounds i b)[j]! = if j = i then b else bytes.data[j]!
  simp only [getElem!_def, Array.getElem?_setIfInBounds]
  by_cases hj : i = j
  · subst hj
    simp [h]
  · simp [hj, Ne.symm hj]

/-- A byte that is written is the only one that changes. -/
theorem read?_of_write? (h : segmentBase ≤ a) (h' : segmentBase ≤ a') {b : UInt8}
    (hwrite : space.write? a 1 b.toUInt64 = some space') :
    space'.read? a' 1 = if a' = a then some b.toUInt64 else space.read? a' 1 := by
  rw [write?_one h] at hwrite
  obtain ⟨⟨k, offset⟩, hplace, rfl⟩ := Option.map_eq_some_iff.mp hwrite
  obtain ⟨hk, hoffset, hsegment, hsize⟩ := segmentOf?_eq_some.mp hplace
  have hget (i : Nat) := getD_modify space.segments k i (·.set! offset b) hsegment
  have hplaces :
      segmentOf? { space with segments := space.segments.modify k (·.set! offset b) } a' 1 =
        space.segmentOf? a' 1 := by
    refine Option.ext fun ⟨i, j⟩ => ?_
    simp only [segmentOf?_eq_some, Array.size_modify, hget]
    by_cases hi : i = k
    · rw [if_pos hi, ByteArray.size_set!, hi]
    · rw [if_neg hi]
  rw [read?_one h', read?_one h', hplaces]
  by_cases ha : a' = a
  · subst ha
    rw [if_pos rfl, hplace, Option.map_some, hget, if_pos rfl]
    rw [get!_set! hsize, if_pos rfl]
  · rw [if_neg ha]
    refine Option.map_congr fun ⟨i, j⟩ hplace' => ?_
    obtain ⟨hi, hj, -⟩ := segmentOf?_eq_some.mp hplace'
    rw [hget]
    by_cases hik : i = k
    · have hne : j ≠ offset := by
        intro heq
        have hdiv := Nat.div_add_mod (a - segmentBase) segmentSpan
        have hdiv' := Nat.div_add_mod (a' - segmentBase) segmentSpan
        rw [hk, hoffset] at hdiv
        rw [hi, hj, hik, heq] at hdiv'
        omega
      rw [if_pos hik, hik, get!_set! hsize, if_neg hne]
    · rw [if_neg hik]

/-- Bytes that are written are the only ones that change. -/
theorem read?_of_writeBytes {block : List UInt8} (h : segmentBase ≤ a) (h' : segmentBase ≤ a')
    (hwrite : writeBytes a block space = some space') :
    space'.read? a' 1 =
      if a ≤ a' ∧ a' < a + block.length then (block[a' - a]?).map UInt8.toUInt64
      else space.read? a' 1 := by
  induction block generalizing a space with
  | nil =>
    cases hwrite
    rw [if_neg (by simp)]
  | cons b rest ih =>
    rw [writeBytes] at hwrite
    split at hwrite
    · next middle hmiddle =>
      rw [ih (by omega) hwrite, read?_of_write? h h' hmiddle, List.length_cons]
      by_cases ha : a' = a
      · subst ha
        rw [if_neg (by omega), if_pos rfl, if_pos (by omega), Nat.sub_self]
        rfl
      · by_cases hin : a + 1 ≤ a' ∧ a' < a + 1 + rest.length
        · have hsub : a' - a = a' - (a + 1) + 1 := by omega
          rw [if_pos hin, if_pos (by omega), hsub, List.getElem?_cons_succ]
        · rw [if_neg hin, if_neg ha, if_neg (by omega)]
    · cases hwrite

/-- A block that is written is read back, and every part of it. -/
theorem bytesAt_of_writeBytes {block : List UInt8} (h : segmentBase ≤ a)
    (hwrite : writeBytes a block space = some space') {offset length : Nat}
    (hle : offset + length ≤ block.length) :
    space'.bytesAt (a + offset) length = some ((block.drop offset).take length) := by
  induction length generalizing offset with
  | zero => rw [bytesAt, List.take_zero]
  | succ length ih =>
    have hoffset : offset < block.length := by omega
    have hbyte : space'.read? (a + offset) 1 = some block[offset].toUInt64 := by
      rw [read?_of_writeBytes h (by omega) hwrite, if_pos (by omega), Nat.add_sub_cancel_left,
        List.getElem?_eq_getElem hoffset, Option.map_some]
    have hrest : space'.bytesAt (a + (offset + 1)) length =
        some ((block.drop (offset + 1)).take length) := ih (by omega)
    rw [bytesAt, hbyte, Option.bind_some, Nat.add_assoc, hrest, Option.map_some,
      List.drop_eq_getElem_cons hoffset, List.take_succ_cons, UInt8.toUInt8_toUInt64]

end KernelForge.Host.Space
