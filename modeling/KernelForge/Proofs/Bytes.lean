import KernelForge.Storage.Matrix

/-!
# Blocks of bytes

Values of one size are written one after the other, so the bytes of each stand at a multiple of the
size, and the values are read back by cutting the bytes into blocks of the size.
-/

namespace KernelForge

/-- An address that is written as bytes is read back. -/
theorem ofLittleEndian_address (a : UInt64) : ofLittleEndian (littleEndian 8 a.toNat) = a.toNat :=
  (ofLittleEndian_littleEndian ..).trans (Nat.mod_eq_of_lt a.toNat_lt)

/-- The i-th of blocks of one length. -/
theorem take_drop_flatMap {A B : Type} {f : A → List B} {k : Nat} (hf : ∀ a, (f a).length = k)
    (list : List A) {i : Nat} (hi : i < list.length) :
    ((list.flatMap f).drop (k * i)).take k = f list[i] := by
  induction list generalizing i with
  | nil => cases hi
  | cons a rest ih =>
    rw [List.flatMap_cons]
    cases i with
    | zero =>
      rw [Nat.mul_zero, List.drop_zero, List.getElem_cons_zero, ← hf a, List.take_left]
    | succ i =>
      have hdrop : k * (i + 1) = (f a).length + k * i := by rw [hf, Nat.mul_succ, Nat.add_comm]
      rw [hdrop, List.drop_length_add_append, ih (Nat.lt_of_succ_lt_succ hi),
        List.getElem_cons_succ]

/-- Blocks of one length add up to a product. -/
theorem length_flatMap_blocks {A B : Type} {f : A → List B} {k : Nat} (hf : ∀ a, (f a).length = k)
    (list : List A) : (list.flatMap f).length = k * list.length := by
  induction list with
  | nil => rfl
  | cons a rest ih => rw [List.flatMap_cons, List.length_append, hf, ih, List.length_cons,
      Nat.mul_succ, Nat.add_comm]

namespace Matrix

/-- Pieces of one length are cut apart again. -/
theorem chunks_flatMap {α β : Type} {f : α → List β} {n : Nat} (hf : ∀ a, (f a).length = n)
    (list : List α) : chunks n list.length (list.flatMap f) = list.map f := by
  induction list with
  | nil => rfl
  | cons a rest ih =>
    rw [List.length_cons, List.flatMap_cons, chunks, List.take_left' (hf a), List.drop_left' (hf a),
      ih, List.map_cons]

/-- Values that are written one after the other are read back. -/
theorem decodeAll_flatMap {α : Type} (t : ElementType) (f : α → t.Value) (list : List α) :
    decodeAll t list.length (list.flatMap fun a => t.encode (f a)) = list.map f := by
  induction list with
  | nil => rfl
  | cons a rest ih =>
    have hlength := t.length_encode (f a)
    rw [List.length_cons, List.flatMap_cons, decodeAll, List.take_left' hlength,
      List.drop_left' hlength, ih, t.decode_encode, List.map_cons]

/-- The i-th of the values in a run of bytes. -/
theorem getElem?_decodeAll (t : ElementType) {count : Nat} (bytes : List UInt8) {i : Nat}
    (hi : i < count) :
    (decodeAll t count bytes)[i]? = some (t.decode ((bytes.drop (i * t.bytes)).take t.bytes)) := by
  induction count generalizing bytes i with
  | zero => cases hi
  | succ count ih =>
    cases i with
    | zero => rw [decodeAll, List.getElem?_cons_zero, Nat.zero_mul, List.drop_zero]
    | succ i =>
      rw [decodeAll, List.getElem?_cons_succ, ih _ (Nat.lt_of_succ_lt_succ hi), List.drop_drop,
        Nat.succ_mul, Nat.add_comm]

/-- As many values are read as are asked for. -/
theorem length_decodeAll (t : ElementType) (count : Nat) (bytes : List UInt8) :
    (decodeAll t count bytes).length = count := by
  induction count generalizing bytes with
  | zero => rfl
  | succ count ih => rw [decodeAll, List.length_cons, ih]

/-- Pieces that are put together again. -/
theorem flatMap_chunks {α : Type} {n count : Nat} {list : List α} (h : list.length = count * n) :
    (chunks n count list).flatMap (·.take n) = list := by
  induction count generalizing list with
  | zero => exact (List.eq_nil_of_length_eq_zero (h.trans (Nat.zero_mul n))).symm
  | succ count ih =>
    have hrest : (list.drop n).length = count * n := by
      rw [List.length_drop, h, Nat.succ_mul, Nat.add_sub_cancel]
    rw [chunks, List.flatMap_cons, ih hrest, List.take_take, Nat.min_self, List.take_append_drop]

end Matrix

end KernelForge
