import KernelForge.Compiler.Word
import KernelForge.Proofs.Code.Moving
import Mathlib.Algebra.Field.Rat
import Mathlib.Data.Int.Cast.Lemmas
import Mathlib.Logic.Function.Basic

/-!
# A machine with exact numbers

Over exact arithmetic a floating-point number is an element of a ring. Memory keeps such numbers next
to its bytes, one for every address; addresses and sizes are read from the bytes as before. On this
machine nothing rounds and no integer is cut, so what a kernel leaves is given by sums and products
in the ring.
-/

namespace KernelForge

open Code

/-! ### Readings -/

/-- The numbers that bit patterns of floating-point types stand for. The pattern of zeros stands for
zero. -/
structure Reading (R : Type) [Ring R] where
  number : FloatKind → Nat → R
  number_zero : ∀ kind, number kind 0 = 0

namespace Reading

variable {R : Type} [Ring R] (reading : Reading R)

/-- The number that an element stands for. -/
def value : (t : ElementType) → t.Value → R
  | .int32, v => (Int32.toInt v : R)
  | .int64, v => (Int64.toInt v : R)
  | .float32, v => reading.number .single (Binary32.bits v).toNat
  | .float64, v => reading.number .double (Binary64.bits v).toNat

/-- The zero of every type stands for zero. -/
theorem value_zero (t : ElementType) : reading.value t t.zero = 0 := by
  cases t with
  | int32 => exact Int.cast_zero
  | int64 => exact Int.cast_zero
  | float32 => exact reading.number_zero .single
  | float64 => exact reading.number_zero .double

end Reading

/-- The rational number that a datum stands for; zero for infinities and NaNs, which stand for none. -/
def Datum.toRat : Datum → ℚ
  | finite negative significand exponent =>
      let magnitude : ℚ := significand * twoPow exponent.toNat / twoPow (-exponent).toNat
      if negative then -magnitude else magnitude
  | infinite _ | nan _ _ => 0

/-- Finite patterns read as the rational numbers that they stand for. -/
def Reading.rational : Reading ℚ where
  number kind bits := (kind.datum bits).toRat
  number_zero kind := by
    obtain ⟨exponent, hzero⟩ : ∃ exponent, kind.datum 0 = .finite false 0 exponent := by
      cases kind <;> exact ⟨_, rfl⟩
    simp [hzero, Datum.toRat]

/-! ### Memory -/

/-- Memory with an exact number at every address. -/
structure ExactMemory (R : Type) where
  memory : Memory
  numbers : Nat → R

namespace ExactMemory

variable {R : Type} (m : ExactMemory R)

/-- Replaces the number at an address. -/
def put (address : Nat) (x : R) : ExactMemory R :=
  ⟨m.memory, Function.update m.numbers address x⟩

/-- Puts numbers at the addresses of entries of a list, one after the other. Each may depend on those
before it. -/
def putAll {ι : Type} (target : ι → Nat) (value : ι → ExactMemory R → R) (entries : List ι) :
    ExactMemory R :=
  entries.foldl (fun m i => m.put (target i) (value i m)) m

/-- The numbers at some addresses are zero. -/
def ZeroOn [Zero R] (addresses : Nat → Prop) : Prop :=
  ∀ address, addresses address → m.numbers address = 0

/-- Reads a number at an address in a buffer, or an integer or address from the bytes there. -/
def load (type : CType) (address : Int) : Option (Value fun _ => R) :=
  if 0 ≤ address then
    (m.memory.peek address.toNat type.bytes).bind fun bytes =>
      type.ofBytes (fun _ _ => m.numbers address.toNat) bytes
  else none

/-- Writes a number at an address in a buffer. -/
def store (address : Int) (value : Value fun _ => R) : Option (ExactMemory R) :=
  match value with
  | .float kind x =>
      if 0 ≤ address then
        (m.memory.peek address.toNat kind.bytes).map fun _ => m.put address.toNat x
      else none
  | .int _ _ | .pointer _ _ | .void => none

variable {m}

/-- Numbers are put beside the bytes of memory, which stay. -/
theorem memory_putAll {ι : Type} (target : ι → Nat) (value : ι → ExactMemory R → R)
    (entries : List ι) : (m.putAll target value entries).memory = m.memory := by
  induction entries generalizing m with
  | nil => rfl
  | cons i rest ih => exact ih (m := m.put (target i) (value i m))

/-- The number at an address where nothing is put stays. -/
theorem numbers_putAll_of_ne {ι : Type} {target : ι → Nat} {value : ι → ExactMemory R → R}
    {entries : List ι} {address : Nat} (h : ∀ i ∈ entries, address ≠ target i) :
    (m.putAll target value entries).numbers address = m.numbers address := by
  induction entries generalizing m with
  | nil => rfl
  | cons i rest ih =>
    have hfirst : (m.put (target i) (value i m)).numbers address = m.numbers address :=
      Function.update_of_ne (h i List.mem_cons_self) ..
    exact (ih fun j hj => h j (List.mem_cons_of_mem _ hj)).trans hfirst

/-- The number that is put for an entry comes from the numbers before all entries, if it does not
depend on what is put for the others. -/
theorem numbers_putAll_of_mem {ι : Type} {target : ι → Nat} {value : ι → ExactMemory R → R}
    {entries : List ι} {i : ι} (hi : i ∈ entries) (hnodup : (entries.map target).Nodup)
    (hvalue : ∀ now : ExactMemory R,
      (∀ address, (∀ j ∈ entries, target j ≠ target i → address ≠ target j) →
        now.numbers address = m.numbers address) → value i now = value i m) :
    (m.putAll target value entries).numbers (target i) = value i m := by
  obtain ⟨before, after, rfl⟩ := List.append_of_mem hi
  rw [List.map_append, List.map_cons] at hnodup
  obtain ⟨-, hafter, hapart⟩ := List.nodup_append.mp hnodup
  have hbefore : ∀ j ∈ before, target j ≠ target i := fun j hj =>
    hapart _ (List.mem_map_of_mem hj) _ List.mem_cons_self
  have hlater : ∀ j ∈ after, target i ≠ target j := fun j hj heq =>
    (List.nodup_cons.mp hafter).1 (heq ▸ List.mem_map_of_mem hj)
  have hsplit : m.putAll target value (before ++ i :: after) =
      ((m.putAll target value before).put (target i) (value i (m.putAll target value before))).putAll
        target value after := List.foldl_append ..
  rw [hsplit, numbers_putAll_of_ne hlater]
  refine (Function.update_self ..).trans (hvalue _ fun address haddress => ?_)
  exact numbers_putAll_of_ne fun j hj => haddress j (List.mem_append_left _ hj) (hbefore j hj)

/-- A number that is put at an address leaves zeros alone if it is zero or put elsewhere. -/
theorem ZeroOn.put [Zero R] {addresses : Nat → Prop} (h : m.ZeroOn addresses) {address : Nat} {x : R}
    (hx : addresses address → x = 0) : (m.put address x).ZeroOn addresses := by
  intro other hother
  by_cases heq : other = address
  · subst heq
    exact (Function.update_self ..).trans (hx hother)
  · exact (Function.update_of_ne heq ..).trans (h other hother)

/-- Numbers that are put at addresses leave zeros alone if each of them is zero, given zeros, or put
elsewhere. -/
theorem ZeroOn.putAll [Zero R] {ι : Type} {addresses : Nat → Prop} {target : ι → Nat}
    {value : ι → ExactMemory R → R} {entries : List ι} (h : m.ZeroOn addresses)
    (hvalue : ∀ i ∈ entries, addresses (target i) → ∀ m : ExactMemory R, m.ZeroOn addresses →
      value i m = 0) :
    (m.putAll target value entries).ZeroOn addresses := by
  induction entries generalizing m with
  | nil => exact h
  | cons i rest ih =>
    have hfirst := h.put fun haddress => hvalue i List.mem_cons_self haddress m h
    exact ih hfirst fun j hj => hvalue j (List.mem_cons_of_mem _ hj)

end ExactMemory

/-! ### The machine -/

/-- A machine with exact integers and with numbers of a ring, for code that writes nothing but such
numbers, and neither divides them nor compares them by size. Shared iterations and threads run in a
given order. -/
def exactMachine (R : Type) [Ring R] [DecidableEq R] (order : Nat → List Nat) (team : Nat) :
    Machine where
  Real _ := R
  Memory := ExactMemory R
  wrap _ n := n
  ofInt _ n := n
  ofDecimal _ digits _ := digits
  toInt _ _ := 0
  convert _ x := x
  negate x := -x
  add x y := x + y
  sub x y := x - y
  mul x y := x * y
  div x _ := x
  eq x y := x = y
  lt _ _ := false
  le x y := x = y
  load := ExactMemory.load
  store := ExactMemory.store
  order := order
  team := team
  library _ _ := none

section Machine

variable {R : Type} [Ring R] [DecidableEq R] {order : Nat → List Nat} {team : Nat}
  {m : ExactMemory R} {kind : FloatKind} {address : Nat} {bytes : List UInt8}

/-- The machine does not cut integers. -/
theorem exactMachine_isExact : (exactMachine R order team).IsExact := fun _ _ => rfl

/-- Integers and addresses are read from the bytes of memory. -/
theorem exactMachine_sees : (exactMachine R order team).Sees ExactMemory.memory := by
  intro m type address bytes h
  refine ⟨fun _ _ => m.numbers address, ?_⟩
  change (if (0 : Int) ≤ address then (m.memory.peek address type.bytes).bind _ else none) = _
  rw [if_pos (Int.natCast_nonneg _), h, Option.bind_some]
  rfl

/-- A floating-point number is read where memory has room for one. -/
theorem exactMachine_load (h : m.memory.peek address kind.bytes = some bytes) :
    (exactMachine R order team).load m (.float kind) address =
      some (.float kind (m.numbers address)) := by
  change (if (0 : Int) ≤ address then (m.memory.peek address kind.bytes).bind _ else none) = _
  rw [if_pos (Int.natCast_nonneg _), h, Option.bind_some]
  rfl

/-- It is written there, too. -/
theorem exactMachine_store (h : m.memory.peek address kind.bytes = some bytes) (x : R) :
    (exactMachine R order team).store m address (.float kind x) = some (m.put address x) := by
  change (if (0 : Int) ≤ address then (m.memory.peek address kind.bytes).map _ else none) = _
  rw [if_pos (Int.natCast_nonneg _), h, Option.map_some]
  rfl

end Machine

/-! ### Numbers -/

namespace Code

variable {R : Type} [Ring R] [DecidableEq R] {order : Nat → List Nat} {team : Nat}
  {ctx : Context (exactMachine R order team)} {s : RunState (exactMachine R order team)}

/-- A number of a floating-point type. -/
abbrev number (kind : FloatKind) (x : R) : Value (exactMachine R order team).Real := .float kind x

/-- An expression has a number as its value, and leaves the state as it is. -/
def Expr.Equals (e : Expr) (ctx : Context (exactMachine R order team))
    (s : RunState (exactMachine R order team)) (kind : FloatKind) (x : R) : Prop :=
  e.eval ctx s = .ok (number kind x, s)

namespace Expr.Equals

variable {a b : Expr} {kind : FloatKind} {x y : R}

/-- A variable that holds a number equals it. -/
theorem var {name : String} {v : Local (exactMachine R order team)}
    (h : (s.visible ctx).find? (·.name = name) = some v) (hscalar : v.type.isScalar = true)
    (hvalue : v.value = number kind x) : (Expr.var name).Equals ctx s kind x :=
  (eval_var h hscalar).trans (by rw [hvalue])

/-- The entry of an array is the number at its address. -/
theorem element {e : Expr} {address : Nat} {bytes : List UInt8}
    (h : e.IsElement ctx s kind address)
    (hpeek : s.memory.memory.peek address kind.bytes = some bytes) :
    e.Equals ctx s kind (s.memory.numbers address) := by
  obtain ⟨pointer, offset, base, n, rfl, hpointer, hoffset, haddress⟩ := h
  refine hpointer.eval_index hoffset rfl ?_
  change (exactMachine R order team).load s.memory (.float kind) (base + n * kind.bytes) = _
  rw [haddress]
  exact exactMachine_load hpeek

/-- A product equals the product in the ring. -/
theorem mul (ha : a.Equals ctx s kind x) (hb : b.Equals ctx s kind y) :
    (Expr.binary .mul a b).Equals ctx s kind (x * y) := by
  rw [Equals, Expr.eval, run_bind ha, run_bind hb]
  cases kind <;> exact run_liftM rfl

/-- A sum equals the sum in the ring. -/
theorem add (ha : a.Equals ctx s kind x) (hb : b.Equals ctx s kind y) :
    (Expr.binary .add a b).Equals ctx s kind (x + y) := by
  rw [Equals, Expr.eval, run_bind ha, run_bind hb]
  cases kind <;> exact run_liftM rfl

end Expr.Equals

/-- An expression has a number or an integer as its value, which is the same in the ring, and leaves
the state as it is. -/
def Expr.Amounts (e : Expr) (ctx : Context (exactMachine R order team))
    (s : RunState (exactMachine R order team)) (kind : FloatKind) (x : R) : Prop :=
  e.Equals ctx s kind x ∨ ∃ n : Int, e.Counts ctx s n ∧ (n : R) = x

namespace Expr.Amounts

variable {a b : Expr} {kind : FloatKind} {x y : R}

/-- The sum of an integer or a number and a number is a number. -/
theorem add (ha : a.Amounts ctx s kind x) (hb : b.Equals ctx s kind y) :
    (Expr.binary .add a b).Equals ctx s kind (x + y) := by
  rcases ha with ha | ⟨n, ⟨type, ha⟩, rfl⟩
  · exact ha.add hb
  · rw [Equals, Expr.eval, run_bind ha, run_bind hb]
    exact run_liftM rfl

/-- A variable of a floating-point type begins with the number that it is given. -/
theorem declare {name : String} {isConst : Bool} {type : CType} (htype : type = .float kind)
    (h : a.Amounts ctx s kind x) :
    declareVariable ctx ⟨name, type, isConst, some a⟩ s =
      .ok ((), ⟨s.memory, ⟨name, type, number kind x⟩ :: s.locals⟩) := by
  subst htype
  obtain ⟨v, hvalue, hconvert⟩ : ∃ v, a.eval ctx s = .ok (v, s) ∧
      Value.convert (M := exactMachine R order team) (.float kind) v = .ok (number kind x) := by
    rcases h with h | ⟨n, ⟨type, h⟩, rfl⟩
    · exact ⟨_, h, rfl⟩
    · exact ⟨_, h, rfl⟩
  change (a.eval ctx >>= fun v => (liftM (v.convert (.float kind)) : Run _ _) >>= fun value => _) _ = _
  rw [run_bind hvalue, run_bind (run_liftM hconvert)]
  rfl

end Expr.Amounts

/-- A number is compared with zero. -/
theorem Expr.Equals.counts_isZero {a : Expr} {kind : FloatKind} {x : R}
    (h : a.Equals ctx s kind x) :
    (Expr.paren (.binary .eq a (Builtin.intLit 0))).Counts ctx s (if x = 0 then 1 else 0) := by
  have htest : Value.ofBool (M := exactMachine R order team) (decide (x = ((0 : Int) : R))) =
      .int .int (if x = 0 then 1 else 0) := by
    simp only [Value.ofBool, Int.cast_zero, decide_eq_true_eq]
  exact ⟨.int, (eval_isZero h).trans (congrArg (fun v => Except.ok (v, s)) htest)⟩

/-- Which of two numbers is taken depends on a test. -/
theorem Expr.Equals.cond {test yes no : Expr} {kind : FloatKind} {x y : R} {p : Prop} [Decidable p]
    (htest : test.Counts ctx s (if p then 1 else 0)) (hyes : yes.Equals ctx s kind x)
    (hno : no.Equals ctx s kind y) :
    (Expr.cond test yes no).Equals ctx s kind (if p then x else y) := by
  obtain ⟨type, htest⟩ := htest
  rw [Equals, Expr.eval, run_bind htest]
  by_cases hp : p
  · simp only [if_pos hp]
    exact hyes
  · simp only [if_neg hp]
    exact hno

/-- A number that is assigned to the entry of an array is put at its address. -/
theorem exec_assign_element {target value : Expr} {kind : FloatKind} {address : Nat} {x : R}
    {bytes : List UInt8} (htarget : target.IsElement ctx s kind address)
    (hpeek : s.memory.memory.peek address kind.bytes = some bytes)
    (hvalue : value.Equals ctx s kind x) :
    (Stmt.expr (.assign target value)).exec ctx s =
      .ok (.next, ⟨s.memory.put address x, s.locals⟩) := by
  obtain ⟨pointer, offset, base, n, rfl, hpointer, hoffset, haddress⟩ := htarget
  have hplace : (pointer.index offset).place ctx s =
      .ok ((.float kind, .address address), s) := haddress ▸ hpointer.place_index hoffset
  have hassign : (Expr.assign (.index pointer offset) value).eval ctx s =
      .ok (number kind x, ⟨s.memory.put address x, s.locals⟩) := by
    rw [Expr.eval, run_bind hplace, run_bind hvalue]
    exact writePlace_address rfl (exactMachine_store hpeek x)
  exact exec_expr hassign

end Code

/-! ### Runs -/

/-- The number that the bits of a factor stand for. -/
def Reading.factor {R : Type} [Ring R] (reading : Reading R) (kind : FloatKind) (s : Scalar) : R :=
  reading.number kind (ofLittleEndian (Host.slotBytes (.scalar s)))

namespace Host

variable {R : Type} [Ring R]

/-- What a parameter of a type gets for the value of a slot. The bits of a floating-point number
stand for an exact one. -/
def exactArgument (reading : Reading R) (type : CType) (value : SlotValue) : Value fun _ => R :=
  (type.ofBytes (fun kind bytes => reading.number kind (ofLittleEndian bytes))
    (slotBytes value)).getD .void

/-- A 32-bit argument is passed as the integer that it is. -/
theorem exactArgument_int32 (reading : Reading R) (x : Int32) :
    exactArgument reading (.int .int) (.scalar (.int32 x)) = .int .int x.toInt := by
  rw [exactArgument, ofBytes_int32, Option.getD_some]

/-- An address is passed as one. -/
theorem exactArgument_pointer (reading : Reading R) (target : CType) (isConst : Bool) (a : UInt64) :
    exactArgument reading (.pointer target isConst) (.pointer a) =
      .pointer target (.address a.toNat) := by
  rw [exactArgument, ofBytes_pointer, Option.getD_some]

/-- A factor is passed as the element of the ring that it stands for. -/
theorem exactArgument_float (reading : Reading R) {type : CType} {kind : FloatKind}
    (htype : type = .float kind) (s : Scalar) :
    exactArgument reading type (.scalar s) = .float kind (reading.factor kind s) := by
  subst htype
  rfl

variable [DecidableEq R]

/-- What surrounds a kernel over one dimension. -/
abbrev exactContext (R : Type) [Ring R] [DecidableEq R] (order : Nat → List Nat) (limit : Nat) :
    Code.Context (exactMachine R order 1) :=
  ⟨0, .alone, limit, fun _ => none, fun _ _ _ => throw .badOperand⟩

/-- Runs a kernel over one dimension on exact numbers, with its iterations in an order. Loops in the
body repeat less often than a limit. -/
def runExact (reading : Reading R) (order : Nat → List Nat) (limit : Nat) (name : String)
    (args : List Argument) (body : List Stmt) (values : List SlotValue) (m : ExactMemory R) :
    Except Code.Fault (ExactMemory R) :=
  (Program.enter (M := exactMachine R order 1) (loopFunction name args body)
    (exactContext R order limit)
    (List.zipWith (exactArgument reading) (paramTypes 1 args) values) ⟨m, []⟩).map
      fun result => result.2.memory

/-- A run of a kernel is a call with what its parameters get. -/
theorem runExact_of_enter {reading : Reading R} {order : Nat → List Nat} {limit : Nat}
    {name : String} {args : List Argument} {body : List Stmt} {slots : List SlotValue}
    {values : List (Value fun _ => R)} {x : Value fun _ => R} {m m' : ExactMemory R}
    (hvalues : List.zipWith (exactArgument reading) (paramTypes 1 args) slots = values)
    (henter : Program.enter (M := exactMachine R order 1) (loopFunction name args body)
      (exactContext R order limit) values ⟨m, []⟩ = .ok (x, ⟨m', []⟩)) :
    runExact reading order limit name args body slots m = .ok m' := by
  subst hvalues
  exact congrArg (Except.map fun result => result.2.memory) henter

end Host

end KernelForge
