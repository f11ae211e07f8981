import KernelForge.Host.Function
import KernelForge.Proofs.Bytes
import KernelForge.Proofs.Code.Evaluating
import KernelForge.Proofs.Entry.Parameters
import KernelForge.Proofs.Entry.Writing

/-!
# What the entry function reads

A call writes the values of its slots to memory and hands the array of their addresses to the entry
function. On any machine that keeps bytes, what the entry function passes on are these values, each
with the type of its parameter.
-/

namespace KernelForge

open Code

namespace Host

/-- How many bytes the value of a slot takes. -/
def slotSize : SlotType → Nat
  | .scalar type => type.bytes
  | .pointer => 8

/-- The value of a slot takes the size of its type. -/
theorem length_slotBytes (value : SlotValue) :
    (slotBytes value).length = slotSize value.slotType := by
  cases value with
  | scalar s => cases s <;> exact ElementType.length_encode _ _
  | pointer a => exact length_littleEndian _ _

/-- No slot takes more than eight bytes. -/
theorem slotSize_le (slot : SlotType) : slotSize slot ≤ 8 := by
  cases slot with
  | scalar type => cases type <;> decide
  | pointer => exact Nat.le_refl 8

/-- The value of a slot, filled up to eight bytes. -/
theorem take_paddedBytes (value : SlotValue) :
    ((slotBytes value ++ List.replicate 8 0).take 8).take (slotSize value.slotType) =
      slotBytes value := by
  rw [List.take_take, Nat.min_eq_left (slotSize_le _), ← length_slotBytes, List.take_left]

variable (base : Nat) (values : List SlotValue)

/-- Each argument takes eight bytes for its value and eight for its address. -/
theorem length_argumentBytes : (argumentBytes base values).length = 16 * values.length := by
  rw [argumentBytes, List.length_append, length_flatMap_blocks (k := 8) (fun v => by simp),
    length_flatMap_blocks (k := 8) (fun i => length_littleEndian 8 _), List.length_range]
  omega

/-- The value of every slot stands at its eighth byte. -/
theorem argumentBytes_value {i : Nat} (hi : i < values.length) :
    ((argumentBytes base values).drop (8 * i)).take (slotSize values[i].slotType) =
      slotBytes values[i] := by
  have hblocks : (values.flatMap fun v =>
      (slotBytes v ++ List.replicate 8 (0 : UInt8)).take 8).length = 8 * values.length :=
    length_flatMap_blocks (fun v => by simp) values
  have hsize := slotSize_le values[i].slotType
  rw [argumentBytes, List.drop_append_of_le_length (by omega),
    List.take_append_of_le_length (by rw [List.length_drop, hblocks]; omega),
    ← Nat.min_eq_left hsize, ← List.take_take, take_drop_flatMap (fun v => by simp) values hi]
  exact take_paddedBytes values[i]

/-- The address of every value stands in the array behind the values. -/
theorem argumentBytes_address {i : Nat} (hi : i < values.length) :
    ((argumentBytes base values).drop (8 * values.length + 8 * i)).take 8 =
      littleEndian 8 (base + 8 * i) := by
  have hblocks : (values.flatMap fun v =>
      (slotBytes v ++ List.replicate 8 (0 : UInt8)).take 8).length = 8 * values.length :=
    length_flatMap_blocks (fun v => by simp) values
  rw [argumentBytes, ← hblocks, List.drop_length_add_append,
    take_drop_flatMap (fun i => length_littleEndian 8 _) _ (by simpa using hi), List.getElem_range]

end Host

/-! ### Machines that keep bytes -/

/-- The value that bytes are for a type, given what they are for floating-point types. -/
def Code.CType.ofBytes {Real : FloatKind → Type}
    (real : (kind : FloatKind) → List UInt8 → Real kind) (bytes : List UInt8) :
    CType → Option (Value Real)
  | .int kind => some (.int kind (kind.wrap (ofLittleEndian bytes)))
  | .float kind => some (.float kind (real kind bytes))
  | .pointer target _ => some (.pointer target (.address (ofLittleEndian bytes)))
  | .void | .array _ _ | .function _ => none

/-- A machine that keeps bytes, reads a value from as many of them as its type takes, and cuts
integers to the widths of their types. -/
structure ByteMachine extends Machine where
  /-- The bytes at a range of addresses. -/
  bytes : Memory → Nat → Nat → Option (List UInt8)
  /-- The floating-point number that bytes are. -/
  real : (kind : FloatKind) → List UInt8 → Real kind
  wrap_eq : ∀ kind n, wrap kind n = kind.wrap n
  load_eq : ∀ (memory : Memory) (type : CType) (address : Nat),
    load memory type address = (bytes memory address type.bytes).bind fun bytes =>
      type.ofBytes real bytes

namespace ByteMachine

variable (M : ByteMachine)

/-- Whether memory holds bytes from an address on. -/
def Holds (memory : M.Memory) (base : Nat) (block : List UInt8) : Prop :=
  ∀ offset length, offset + length ≤ block.length →
    M.bytes memory (base + offset) length = some ((block.drop offset).take length)

/-- What a function gets that is passed the value of a slot for a parameter of a type. -/
def passed (type : CType) : SlotValue → Value M.Real
  | .scalar (.int32 v) => .int .int v.toInt
  | .scalar (.int64 v) => .int .longLong v.toInt
  | .scalar (.float32 v) => .float .single (M.real .single (ElementType.float32.encode v))
  | .scalar (.float64 v) => .float .double (M.real .double (ElementType.float64.encode v))
  | .pointer address =>
      match type with
      | .pointer target _ => .pointer target (.address address.toNat)
      | _ => .void

end ByteMachine

/-- The bits of a value are what its bytes spell. -/
theorem ofLittleEndian_encode (t : ElementType) (v : t.Value) :
    ofLittleEndian (t.encode v) = t.toBits v := by
  rw [ElementType.encode, ofLittleEndian_littleEndian, Nat.mod_eq_of_lt (t.toBits_lt v)]

/-- An `int` is cut to 32 digits with a sign. -/
theorem wrap_int (n : Int) : IntKind.int.wrap n = n.bmod (twoPow 32) := rfl

/-- Without a sign it is cut to a remainder. -/
theorem wrap_unsignedInt (n : Int) : IntKind.unsignedInt.wrap n = n % twoPow 32 := rfl

/-- A `long long` is cut to 64 digits with a sign. -/
theorem wrap_longLong (n : Int) : IntKind.longLong.wrap n = n.bmod (twoPow 64) := rfl

/-- The bytes of a 32-bit value are read as the value. -/
theorem wrap_encode_int32 (v : ElementType.int32.Value) :
    IntKind.int.wrap (ofLittleEndian (ElementType.int32.encode v)) = Int32.toInt v := by
  rw [ofLittleEndian_encode, wrap_int]
  exact (BitVec.toInt_eq_toNat_bmod (Int32.toBitVec v)).symm

/-- So are those of a 64-bit value. -/
theorem wrap_encode_int64 (v : ElementType.int64.Value) :
    IntKind.longLong.wrap (ofLittleEndian (ElementType.int64.encode v)) = Int64.toInt v := by
  rw [ofLittleEndian_encode, wrap_longLong]
  exact (BitVec.toInt_eq_toNat_bmod (Int64.toBitVec v)).symm

/-- A number that is stored is read back by its own type. -/
theorem ofBytes_slotBytes (M : ByteMachine) (s : Scalar) :
    s.elementType.cType.ofBytes M.real (Host.slotBytes (.scalar s)) =
      some (M.passed s.elementType.cType (.scalar s)) := by
  cases s with
  | int32 v => exact congrArg (fun n => some (Value.int IntKind.int n)) (wrap_encode_int32 v)
  | int64 v => exact congrArg (fun n => some (Value.int IntKind.longLong n)) (wrap_encode_int64 v)
  | float32 v => rfl
  | float64 v => rfl

/-- An address is an unsigned word. -/
theorem wrap_address (a : UInt64) : IntKind.unsignedLong.wrap a.toNat = a.toNat := by
  have hlt : a.toNat < twoPow 64 := a.toNat_lt
  change (a.toNat : Int) % twoPow 64 = a.toNat
  exact Int.emod_eq_of_lt (Int.natCast_nonneg _) (Int.ofNat_lt.mpr hlt)

/-- An address that is stored is read back as a word. -/
theorem ofBytes_address (M : ByteMachine) (a : UInt64) :
    (CType.int .unsignedLong).ofBytes M.real (Host.slotBytes (.pointer a)) =
      some (.int .unsignedLong a.toNat) := by
  simp only [CType.ofBytes, Host.slotBytes, ofLittleEndian_address, wrap_address]

/-! ### Evaluation -/

namespace Host

variable {M : ByteMachine}

/-- Memory holds the values of slots and the array of their addresses, and the entry function got
the address of the array. -/
structure Entered (base : Nat) (values : List SlotValue) (ctx : Code.Context M.toMachine)
    (s : RunState M.toMachine) : Prop where
  holds : M.Holds s.memory base (argumentBytes base values)
  /-- All addresses are those of a 64-bit machine. -/
  bound : base + 16 * values.length ≤ twoPow 64
  locals : ∃ outer, ctx.frame = outer.length ∧
    s.locals = ⟨"_args", .pointer (.pointer .void false) false,
      .pointer (.pointer .void false) (.address (base + 8 * values.length : Nat))⟩ :: outer

variable {base : Nat} {values : List SlotValue} {ctx : Code.Context M.toMachine}
  {s : RunState M.toMachine}

/-- The newest local variable is found by its name. -/
theorem eval_newest (x : Local M.toMachine) (outer : List (Local M.toMachine))
    (memory : M.Memory) (hframe : ctx.frame = outer.length) (hscalar : x.type.isScalar = true) :
    (Expr.var x.name).eval ctx ⟨memory, x :: outer⟩ = .ok (x.value, ⟨memory, x :: outer⟩) := by
  have hvisible : RunState.visible ⟨memory, [x] ++ outer⟩ ctx = [x] := visible_append hframe
  refine eval_var ?_ hscalar
  change (RunState.visible ⟨memory, [x] ++ outer⟩ ctx).find? _ = _
  rw [hvisible]
  exact List.find?_cons_of_pos (decide_eq_true rfl)

/-- What is loaded from an address is the value of the place there. -/
theorem readPlace_address {type : CType} {address : Nat} {v : Value M.Real}
    (hload : M.load s.memory type address = some v) :
    readPlace (M := M.toMachine) (type, .address address) s = .ok (v, s) := by
  have hbytes := M.load_eq s.memory type address
  rw [hload] at hbytes
  obtain ⟨bytes, -, hvalue⟩ := Option.bind_eq_some_iff.mp hbytes.symm
  refine Code.readPlace_address ?_ hload
  cases type
  case void | array | function => cases hvalue
  all_goals rfl

/-- What a pointer leads to is read from memory. -/
theorem eval_deref {pointer : Expr} {type : CType} {address : Nat} {v : Value M.Real}
    (hpointer : pointer.eval ctx s = .ok (.pointer type (.address address), s))
    (hload : M.load s.memory type address = some v) : pointer.deref.eval ctx s = .ok (v, s) :=
  (run_bind hpointer).trans (readPlace_address hload)

/-- An entry of an array is read so many objects further on. -/
theorem eval_index {pointer : Expr} {type : CType} {address i : Nat} {v : Value M.Real}
    (hpointer : pointer.eval ctx s = .ok (.pointer type (.address address), s))
    (hload : M.load s.memory type (address + i * type.bytes : Nat) = some v) :
    (pointer.index (.intLit i .int)).eval ctx s = .ok (v, s) := by
  have hoffset : (Expr.intLit i .int).eval ctx s =
      .ok (.int (IntKind.int.ofLiteral i) i, s) := rfl
  exact (run_bind hpointer).trans ((run_bind hoffset).trans (readPlace_address hload))

/-- A cast brings a value to a type. -/
theorem eval_cast {e : Expr} {type : CType} {v w : Value M.Real} (he : e.eval ctx s = .ok (v, s))
    (hconvert : v.convert type = .ok w) : (Expr.cast type e).eval ctx s = .ok (w, s) :=
  (run_bind he).trans (run_liftM hconvert)

/-- The variable of the entry function is the address of the array. -/
theorem eval_args (h : Entered base values ctx s) :
    (Expr.var "_args").eval ctx s =
      .ok (.pointer (.pointer .void false) (.address (base + 8 * values.length : Nat)), s) := by
  obtain ⟨outer, hframe, hlocals⟩ := h.locals
  obtain ⟨memory, locals⟩ := s
  cases hlocals
  exact eval_newest ⟨"_args", .pointer (.pointer .void false) false, _⟩ outer memory hframe rfl

/-- The i-th entry of the array is the address of the i-th value. -/
theorem eval_entrySlot (h : Entered base values ctx s) {i : Nat} (hi : i < values.length) :
    (entrySlot i).eval ctx s = .ok (.pointer .void (.address (base + 8 * i : Nat)), s) := by
  refine eval_index (eval_args h) ?_
  have hbytes := h.holds (8 * values.length + 8 * i) 8 (by rw [length_argumentBytes]; omega)
  rw [argumentBytes_address base values hi, ← Nat.add_assoc] at hbytes
  have hbound := h.bound
  have haddress : ofLittleEndian (littleEndian 8 (base + 8 * i)) = base + 8 * i :=
    (ofLittleEndian_littleEndian ..).trans
      (Nat.mod_eq_of_lt (show base + 8 * i < twoPow 64 by omega))
  rw [M.load_eq, CType.bytes, Nat.mul_comm i 8, hbytes]
  simp only [Option.bind_some, CType.ofBytes, haddress]

/-- The value of a slot is loaded from its place by the type that reads it. -/
theorem load_value (h : Entered base values ctx s) {i : Nat} (hi : i < values.length) (type : CType)
    (hsize : type.bytes = slotSize values[i].slotType) :
    M.load s.memory type (base + 8 * i : Nat) = type.ofBytes M.real (slotBytes values[i]) := by
  have hle := slotSize_le values[i].slotType
  have hbytes := h.holds (8 * i) type.bytes (by rw [length_argumentBytes]; omega)
  rw [hsize, argumentBytes_value base values hi] at hbytes
  rw [M.load_eq, hsize, hbytes]
  rfl

/-- Whether a parameter of a type takes what a slot holds. -/
def Takes (type : CType) : SlotType → Prop
  | .pointer => ∃ target isConst, type = .pointer target isConst
  | .scalar t => type = t.cType

/-- What the entry function passes for a parameter is the value of its slot. -/
theorem eval_entryActual (h : Entered base values ctx s) {i : Nat} (hi : i < values.length)
    {type : CType} (htakes : Takes type values[i].slotType) :
    (entryActual type i).eval ctx s = .ok (M.passed type values[i], s) := by
  have hslot := eval_entrySlot h hi
  generalize hvalue : values[i] = value at htakes
  cases value with
  | scalar x =>
    cases (htakes : type = x.elementType.cType)
    have hpointer : x.elementType.cType.isPointer = false := by cases x <;> rfl
    have hload := load_value h hi x.elementType.cType (by
      rw [hvalue]
      cases x <;> rfl)
    rw [hvalue, ofBytes_slotBytes] at hload
    rw [entryActual, hpointer, if_neg (by decide)]
    exact eval_deref (eval_cast hslot rfl) hload
  | pointer a =>
    obtain ⟨target, isConst, rfl⟩ := htakes
    have hload := load_value h hi (.int .unsignedLong) (by rw [hvalue]; rfl)
    rw [hvalue, ofBytes_address] at hload
    have hword : Value.convert (M := M.toMachine) (.int .unsignedLong)
        (.int .unsignedLong a.toNat) = .ok (.int .unsignedLong a.toNat) := by
      simp only [Value.convert, M.wrap_eq, wrap_address]
    have hpointer : Value.convert (M := M.toMachine) (.pointer target isConst)
        (.int .unsignedLong a.toNat) = .ok (.pointer target (.address a.toNat)) := by
      simp only [Value.convert, M.wrap_eq, wrap_address]
    exact eval_cast (eval_cast (eval_deref (eval_cast hslot rfl) hload) hword) hpointer

/-- The entry function passes the values of all slots. -/
theorem evalAll_entryActuals (h : Entered base values ctx s) {types : List CType}
    (htakes : List.Forall₂ Takes types (values.map SlotValue.slotType)) :
    Expr.evalAll (types.mapIdx fun i type => entryActual type i) ctx s =
      .ok (List.zipWith M.passed types values, s) := by
  have hlength : types.length = values.length := by simpa using htakes.length_eq
  refine evalAll_eq (List.forall₂_iff_get.mpr ⟨by simp [hlength], fun i hi hi' => ?_⟩)
  have htype : i < types.length := by simpa using hi
  have hvalue : i < values.length := hlength ▸ htype
  have htake := htakes.get htype (by simpa using hvalue)
  simp only [List.get_eq_getElem, List.getElem_map, List.getElem_mapIdx, List.getElem_zipWith]
    at htake ⊢
  exact eval_entryActual h hvalue htake

/-- The parameters of an argument take its slots. -/
theorem paramTypes_take (arg : Argument) : List.Forall₂ Takes arg.paramTypes arg.slots := by
  obtain ⟨name, intent, kind⟩ := arg
  cases kind with
  | matrix type strided =>
    cases strided with
    | false => exact .cons ⟨_, _, rfl⟩ .nil
    | true => exact .cons ⟨_, _, rfl⟩ (.cons rfl .nil)
  | view type => exact .cons ⟨_, _, rfl⟩ (.cons ⟨_, _, rfl⟩ .nil)
  | exchangeView type => exact .cons ⟨_, _, rfl⟩ (.cons ⟨_, _, rfl⟩ .nil)
  | scalar type => exact .cons rfl .nil
  | pointer => exact .cons ⟨_, _, rfl⟩ .nil

/-- The parameters of a kernel take the slots of its contract. -/
theorem paramTypes_take_slots (ndim : UInt64) (args : List Argument) :
    List.Forall₂ Takes (paramTypes ndim args) (Contract.ofArguments ndim args).slotTypes := by
  rw [Contract.slotTypes_ofArguments]
  refine List.rel_append ?_ (forall₂_flatMap paramTypes_take args)
  induction dimNames ndim with
  | nil => exact .nil
  | cons name rest ih => exact .cons rfl ih

end Host

/-- The parameters of a kernel fit the slots of its contract, one for one, and have the types that
are listed. The entry function is written with the expressions that read the array for parameters of
these types, and so it passes on, for every list of values that a call accepts, the values of the
list. -/
theorem SourceParameter.entry_passes_slots (ndim : UInt64) (args : List Argument) :
    List.Forall₂ Fits (ofKernel ndim args) (Contract.ofArguments ndim args).slotTypes ∧
    List.Forall₂ HasType (ofKernel ndim args) (paramTypes ndim args) ∧
    (∀ name, Host.entry name (ofKernel ndim args) =
      Host.entryText name ((Host.entryActuals ndim args).map (Expr.text entryTypeNames))) ∧
    ∀ (M : ByteMachine) (base : Nat) (values : List SlotValue) (ctx : Code.Context M.toMachine)
      (s : RunState M.toMachine),
      values.map SlotValue.slotType = (Contract.ofArguments ndim args).slotTypes →
      Host.Entered base values ctx s →
      Expr.evalAll (Host.entryActuals ndim args) ctx s =
        .ok (List.zipWith M.passed (paramTypes ndim args) values, s) := by
  refine ⟨ofKernel_fits ndim args, ofKernel_hasType ndim args,
    fun name => Host.entry_eq_entryText name ndim args,
    fun M base values ctx s hvalues hentered => Host.evalAll_entryActuals hentered ?_⟩
  rw [hvalues]
  exact Host.paramTypes_take_slots ndim args

/-- A machine on the memory of running code, on which a floating-point number is its bytes and there
is no arithmetic on such numbers. -/
def spaceMachine : ByteMachine where
  Real _ := List UInt8
  Memory := Host.Space
  wrap := IntKind.wrap
  ofInt _ _ := []
  ofDecimal _ _ _ := []
  toInt _ _ := 0
  convert _ x := x
  negate x := x
  add x _ := x
  sub x _ := x
  mul x _ := x
  div x _ := x
  eq x y := x = y
  lt _ _ := false
  le x y := x = y
  load space type address :=
    (space.bytesAt address.toNat type.bytes).bind fun bytes =>
      type.ofBytes (fun _ bytes => bytes) bytes
  store _ _ _ := none
  order := List.range
  team := 1
  library _ _ := none
  bytes := Host.Space.bytesAt
  real _ bytes := bytes
  wrap_eq _ _ := rfl
  load_eq _ _ _ := rfl

/-- What a call writes above the buffers is what the memory of running code holds. -/
theorem spaceMachine_holds {space space' : Host.Space} {base : Nat} {block : List UInt8}
    (hbase : Host.segmentBase ≤ base) (hwrite : space.writeBytes base block = some space') :
    spaceMachine.Holds space' base block :=
  fun _ _ hle => Host.Space.bytesAt_of_writeBytes hbase hwrite hle

/-- A matrix whose rows have a leading dimension, and a factor. -/
def scalingArguments : List Argument :=
  [⟨"x", .inOut, .matrix .float64 true⟩, ⟨"factor", .input, .scalar .int64⟩]

/-- Twelve elements of a matrix of rows of four, and a factor of minus two. -/
def scalingValues : List SlotValue :=
  [.scalar (.int32 12), .pointer 0x558000, .scalar (.int32 4), .scalar (.int64 (-2))]

/-- A block for these values and their addresses, in memory that nothing else uses. -/
def scalingBlock : Nat × Host.Space :=
  Host.Space.allocate 80 16 ⟨.empty, #[.empty], 0, [], 1, 1⟩

/-- After the values were written, the entry function passes the number of elements, the address,
the leading dimension and the factor. -/
theorem scalingValues_passed :
    ∃ space, scalingBlock.2.writeBytes scalingBlock.1
        (Host.argumentBytes scalingBlock.1 scalingValues) = some space ∧
      (Expr.evalAll (M := spaceMachine.toMachine) (Host.entryActuals 1 scalingArguments)
        ⟨0, .alone, 0, fun _ => none, fun _ _ _ => throw .badOperand⟩
        ⟨space, [⟨"_args", .pointer (.pointer .void false) false,
          .pointer (.pointer .void false)
            (.address (scalingBlock.1 + 8 * scalingValues.length : Nat))⟩]⟩).map Prod.fst =
      .ok [.int .int 12, .pointer (.float .double) (.address 0x558000), .int .int 4,
        .int .longLong (-2)] := by
  obtain ⟨space, hwrite⟩ := Option.isSome_iff_exists.mp
    (show (scalingBlock.2.writeBytes scalingBlock.1
      (Host.argumentBytes scalingBlock.1 scalingValues)).isSome = true by decide +kernel)
  have hholds := spaceMachine_holds (by decide +kernel) hwrite
  obtain ⟨-, -, -, hpassed⟩ := SourceParameter.entry_passes_slots 1 scalingArguments
  exact ⟨space, hwrite, congrArg (Except.map Prod.fst)
    (hpassed spaceMachine scalingBlock.1 scalingValues _ _ rfl
      ⟨hholds, by decide +kernel, [], rfl, rfl⟩)⟩

end KernelForge
