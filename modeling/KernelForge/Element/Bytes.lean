import KernelForge.Element.Scalar

/-!
# Elements in memory

Numbers are stored with their least significant byte first. Every element type has its own type of
values; `encode` writes a value and `decode` reads one back.
-/

namespace KernelForge

/-- The `count` least significant bytes of a number, the least significant one first. -/
def littleEndian : Nat → Nat → List UInt8
  | 0, _ => []
  | count + 1, n => UInt8.ofNat n :: littleEndian count (n / 256)

/-- The number that bytes spell, the least significant one first. -/
def ofLittleEndian : List UInt8 → Nat
  | [] => 0
  | byte :: rest => byte.toNat + 256 * ofLittleEndian rest

/-- A number is written with as many bytes as are asked for. -/
@[simp] theorem length_littleEndian (count n : Nat) : (littleEndian count n).length = count := by
  induction count generalizing n with
  | zero => rfl
  | succ count ih => simp [littleEndian, ih]

/-- Reading back gives the number, less the digits that did not fit. -/
theorem ofLittleEndian_littleEndian (count n : Nat) :
    ofLittleEndian (littleEndian count n) = n % twoPow (8 * count) := by
  induction count generalizing n with
  | zero => simp [littleEndian, ofLittleEndian, Nat.mod_one]
  | succ count ih =>
      simp only [littleEndian, ofLittleEndian, ih, UInt8.toNat_ofNat']
      show n % 256 + 256 * (n / 256 % twoPow (8 * count)) = n % twoPow (8 * count + 8)
      rw [Nat.add_comm (8 * count), twoPow_add]
      exact (Nat.mod_mul (x := n) (a := 256)).symm

namespace ElementType

/-- The values of an element type. -/
def Value : ElementType → Type
  | int32 => Int32
  | int64 => Int64
  | float32 => Binary32
  | float64 => Binary64

instance : (t : ElementType) → DecidableEq t.Value
  | int32 => inferInstanceAs (DecidableEq Int32)
  | int64 => inferInstanceAs (DecidableEq Int64)
  | float32 => inferInstanceAs (DecidableEq Binary32)
  | float64 => inferInstanceAs (DecidableEq Binary64)

/-- The bit pattern of a value. -/
def toBits : (t : ElementType) → t.Value → Nat
  | int32, v => Int32.toUInt32 v |>.toNat
  | int64, v => Int64.toUInt64 v |>.toNat
  | float32, v => Binary32.bits v |>.toNat
  | float64, v => Binary64.bits v |>.toNat

/-- The value of a bit pattern. -/
def ofBits : (t : ElementType) → Nat → t.Value
  | int32, n => (UInt32.ofNat n).toInt32
  | int64, n => (UInt64.ofNat n).toInt64
  | float32, n => (⟨UInt32.ofNat n⟩ : Binary32)
  | float64, n => (⟨UInt64.ofNat n⟩ : Binary64)

/-- The value whose bits are all zero. -/
def zero (t : ElementType) : t.Value := t.ofBits 0

/-- The bytes of a value. -/
def encode (t : ElementType) (v : t.Value) : List UInt8 := littleEndian t.bytes (t.toBits v)

/-- The value that bytes spell. -/
def decode (t : ElementType) (bytes : List UInt8) : t.Value := t.ofBits (ofLittleEndian bytes)

/-- A value as a scalar. -/
def scalar : (t : ElementType) → t.Value → Scalar
  | int32, v => .int32 v
  | int64, v => .int64 v
  | float32, v => .float32 v
  | float64, v => .float64 v

/-- A value takes the bytes of its type. -/
@[simp] theorem length_encode (t : ElementType) (v : t.Value) : (t.encode v).length = t.bytes := by
  simp [encode]

/-- The bit pattern of a value stands for the value. -/
theorem ofBits_toBits (t : ElementType) (v : t.Value) : t.ofBits (t.toBits v) = v := by
  cases t
  · exact congrArg UInt32.toInt32 (UInt32.ofNat_toNat) |>.trans (Int32.toInt32_toUInt32 v)
  · exact congrArg UInt64.toInt64 (UInt64.ofNat_toNat) |>.trans (Int64.toInt64_toUInt64 v)
  · exact congrArg Binary32.mk UInt32.ofNat_toNat
  · exact congrArg Binary64.mk UInt64.ofNat_toNat

/-- It has no more digits than the bytes of the type. -/
theorem toBits_lt (t : ElementType) (v : t.Value) : t.toBits v < twoPow (8 * t.bytes) := by
  cases t
  · exact (Int32.toUInt32 v).toNat_lt
  · exact (Int64.toUInt64 v).toNat_lt
  · exact (Binary32.bits v).toNat_lt
  · exact (Binary64.bits v).toNat_lt

/-- A value that was stored is read back unchanged. -/
theorem decode_encode (t : ElementType) (v : t.Value) : t.decode (t.encode v) = v := by
  rw [decode, encode, ofLittleEndian_littleEndian, Nat.mod_eq_of_lt (t.toBits_lt v),
    t.ofBits_toBits]

end ElementType

end KernelForge
