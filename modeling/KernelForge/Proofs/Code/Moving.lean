import KernelForge.Code.Eval
import KernelForge.Proofs.Code.Stepping
import KernelForge.Proofs.Entry.Reading
import KernelForge.Proofs.Storage.Copies

/-!
# Kernels that move elements

Kernels that move data need no arithmetic on what they move. They are run on a machine whose
integers are exact, whose floating-point numbers are their bytes, and which logs what it writes. A
kernel over one dimension is a function whose loop over the elements is shared; on this machine the
assignment of one element to another is the copy of its bytes.
-/

namespace KernelForge

open Code

/-- A machine reads integers and addresses from the bytes of its memory. -/
def Code.Machine.Sees (M : Machine) (bytes : M.Memory → KernelForge.Memory) : Prop :=
  ∀ (m : M.Memory) (type : CType) (address : Nat) (block : List UInt8),
    (bytes m).peek address type.bytes = some block →
      ∃ real, M.load m type address = type.ofBytes real block

/-- The bytes of a value whose floating-point numbers are bytes; integers are cut to their types. -/
def Code.Value.bytes? : Value (fun _ => List UInt8) → Option (List UInt8)
  | .int kind n => some (littleEndian kind.bytes (n % twoPow kind.bits).toNat)
  | .float _ bytes => some bytes
  | .pointer _ (.address a) => some (littleEndian 8 a.toNat)
  | .pointer _ _ | .void => none

/-- A machine with exact integers on logged memory, for code that moves floating-point numbers and
does no arithmetic on them. Shared iterations run in a given order. -/
def movingMachine (order : Nat → List Nat) : Machine where
  Real _ := List UInt8
  Memory := LoggedMemory
  wrap _ n := n
  ofInt _ _ := []
  ofDecimal _ _ _ := []
  toInt _ _ := 0
  convert _ x := x
  negate x := x
  add x _ := x
  sub x _ := x
  mul x _ := x
  div x _ := x
  eq x y := x = y
  lt _ _ := false
  le x y := x = y
  load m type address :=
    if 0 ≤ address then
      (m.memory.peek address.toNat type.bytes).bind fun bytes => type.ofBytes (fun _ b => b) bytes
    else none
  store m address value :=
    if 0 ≤ address then value.bytes?.bind (m.write address.toNat) else none
  order := order
  team := 1
  library _ _ := none

/-- The machine does not cut integers. -/
theorem movingMachine_isExact (order : Nat → List Nat) : (movingMachine order).IsExact :=
  fun _ _ => rfl

/-- A value is loaded from the bytes at its address. -/
theorem movingMachine_load {order : Nat → List Nat} {m : LoggedMemory} {type : CType}
    {address : Nat} {bytes : List UInt8} (h : m.memory.peek address type.bytes = some bytes) :
    (movingMachine order).load m type address = type.ofBytes (fun _ b => b) bytes := by
  change (if (0 : Int) ≤ address then (m.memory.peek address type.bytes).bind _ else none) = _
  rw [if_pos (Int.natCast_nonneg _), h, Option.bind_some]

/-- What it reads depends on memory and not on the log. -/
theorem movingMachine_sees {order : Nat → List Nat} :
    (movingMachine order).Sees LoggedMemory.memory :=
  fun _ _ _ _ h => ⟨fun _ b => b, movingMachine_load h⟩

namespace Host

/-- A kernel over one dimension: the body runs for every value of `_x` below `_nx`, and the
iterations are shared. -/
def loopFunction (name : String) (args : List Argument) (body : List Stmt) : Function where
  name := name
  result := .void
  params := List.zipWith (fun p type => ⟨p.name, type, false⟩) (SourceParameter.ofKernel 1 args)
    (paramTypes 1 args)
  body := [.parallelFor "_x" (.var "_nx") (.block body)]
  isStatic := false

/-- What a parameter of a type gets for the value of a slot. -/
def moved (type : CType) (value : SlotValue) : Value fun _ => List UInt8 :=
  (type.ofBytes (fun _ b => b) (slotBytes value)).getD .void

/-- Runs a kernel over one dimension on the values of its slots, with its iterations in an order.
Loops in the body repeat less often than a limit. -/
def runMoving (order : Nat → List Nat) (limit : Nat) (name : String) (args : List Argument)
    (body : List Stmt) (values : List SlotValue) (m : LoggedMemory) : Except Code.Fault LoggedMemory :=
  (Program.enter (M := movingMachine order) (loopFunction name args body)
    ⟨0, .alone, limit, fun _ => none, fun _ _ _ => throw .badOperand⟩
    (List.zipWith moved (paramTypes 1 args) values) ⟨m, []⟩).map fun result => result.2.memory

end Host

/-! ### Slots -/

/-- A floating-point element type in kernel source. -/
theorem ElementType.exists_floatKind {t : ElementType} (h : t.isFloat = true) :
    ∃ kind, t.cType = .float kind ∧ t.bytes = kind.bytes := by
  cases t with
  | int32 | int64 => cases h
  | float32 => exact ⟨.single, rfl, rfl⟩
  | float64 => exact ⟨.double, rfl, rfl⟩

namespace Host

/-- A 32-bit integer is read as it is, whatever numbers are. -/
theorem ofBytes_int32 {Real : FloatKind → Type}
    (real : (kind : FloatKind) → List UInt8 → Real kind) (x : Int32) :
    (CType.int .int).ofBytes real (slotBytes (.scalar (.int32 x))) = some (.int .int x.toInt) :=
  congrArg (fun n => some (Value.int IntKind.int n)) (wrap_encode_int32 x)

/-- An address is read as it is, whatever numbers are. -/
theorem ofBytes_pointer {Real : FloatKind → Type}
    (real : (kind : FloatKind) → List UInt8 → Real kind) (target : CType) (isConst : Bool)
    (a : UInt64) :
    (CType.pointer target isConst).ofBytes real (slotBytes (.pointer a)) =
      some (.pointer target (.address a.toNat)) := by
  change some (Value.pointer target (.address (ofLittleEndian (littleEndian 8 a.toNat)))) = _
  rw [ofLittleEndian_address]

/-- A 32-bit integer is passed as it is. -/
theorem moved_int32 (x : Int32) : moved (.int .int) (.scalar (.int32 x)) = .int .int x.toInt := by
  rw [moved, ofBytes_int32, Option.getD_some]

/-- An address is passed as it is. -/
theorem moved_pointer (target : CType) (isConst : Bool) (a : UInt64) :
    moved (.pointer target isConst) (.pointer a) = .pointer target (.address a.toNat) := by
  rw [moved, ofBytes_pointer, Option.getD_some]

end Host

/-! ### Calls -/

section Calls

variable {M : Machine} {memory : M.Memory} {locals : List (Local M)}

/-- The local variables that a call begins with, that of the last parameter first. -/
def boundLocals (params : List Parameter) (values : List (Value M.Real)) : List (Local M) :=
  (List.zipWith (fun p v => ⟨p.name, p.type, v⟩) params values).reverse

/-- Arguments that have the types of their parameters become local variables. -/
theorem bindParams_eq_ok {params : List Parameter} {values : List (Value M.Real)}
    (h : List.Forall₂ (fun p v => Value.convert p.type v = .ok v) params values) :
    Program.bindParams params values ⟨memory, locals⟩ =
      .ok ((), ⟨memory, boundLocals params values ++ locals⟩) := by
  induction h generalizing locals with
  | nil => rfl
  | @cons p v params values hconvert _ ih =>
    have hpush : (pushLocal ⟨p.name, p.type, v⟩ : Run M Unit) ⟨memory, locals⟩ =
        .ok ((), ⟨memory, ⟨p.name, p.type, v⟩ :: locals⟩) := rfl
    rw [Program.bindParams, run_bind (run_liftM hconvert), run_bind hpush, ih, boundLocals,
      boundLocals, List.zipWith_cons_cons, List.reverse_cons, List.append_assoc,
      List.singleton_append]

/-- A call whose code ends normally loses the local variables that it added, and may have changed
those of its callers. -/
theorem enter_eq_ok {f : Function} {ctx : Context M} {values : List (Value M.Real)}
    {memory' : M.Memory} (added : List (Local M)) {locals' : List (Local M)}
    (hvalues : List.Forall₂ (fun p v => Value.convert p.type v = .ok v) f.params values)
    (hbody : Stmt.execAll f.body { ctx with frame := locals.length }
      ⟨memory, boundLocals f.params values ++ locals⟩ = .ok (.next, ⟨memory', added ++ locals'⟩))
    (hlength : locals'.length = locals.length) :
    Program.enter f ctx values ⟨memory, locals⟩ = .ok (.zero M f.result, ⟨memory', locals'⟩) := by
  have hget : (get : Run M (RunState M)) ⟨memory, locals⟩ =
      .ok (⟨memory, locals⟩, ⟨memory, locals⟩) := rfl
  have hbind : Program.bindParams f.params values ⟨memory, locals⟩ = _ := bindParams_eq_ok hvalues
  refine inScope_eq_ok added ?_ hlength
  rw [run_bind hget, run_bind hbind]
  exact (run_bind hbody).trans rfl

/-- A call of a function with one statement does the step of the statement. -/
theorem enter_of_performs {f : Function} {statement : Stmt} {ctx : Context M}
    {values : List (Value M.Real)} {inv : M.Memory → Prop} {step : M.Memory → Option M.Memory}
    (hbody : f.body = [statement])
    (hvalues : List.Forall₂ (fun p v => Value.convert p.type v = .ok v) f.params values)
    (hlocals : boundLocals f.params values = locals)
    (hstep : statement.Performs { ctx with frame := 0 } locals inv step) (hinv : inv memory) :
    ∃ memory', step memory = some memory' ∧ inv memory' ∧
      Program.enter f ctx values ⟨memory, []⟩ = .ok (.zero M f.result, ⟨memory', []⟩) := by
  obtain ⟨memory', hmemory', hinv', hexec⟩ := hstep.execAll hinv
  have hrun : Stmt.execAll f.body { ctx with frame := 0 }
      ⟨memory, boundLocals f.params values ++ []⟩ = .ok (.next, ⟨memory', locals ++ []⟩) := by
    rw [hbody, hlocals, List.append_nil]
    exact hexec
  exact ⟨memory', hmemory', hinv', enter_eq_ok locals hvalues hrun rfl⟩

end Calls

/-- A run of a kernel is a call with what its parameters get. -/
theorem Host.runMoving_of_enter {order : Nat → List Nat} {limit : Nat} {name : String}
    {args : List Argument} {body : List Stmt} {slots : List SlotValue}
    {values : List (Value fun _ => List UInt8)} {x : Value fun _ => List UInt8}
    {m m' : LoggedMemory} (hmoved : List.zipWith moved (paramTypes 1 args) slots = values)
    (henter : Program.enter (M := movingMachine order) (loopFunction name args body)
      ⟨0, .alone, limit, fun _ => none, fun _ _ _ => throw .badOperand⟩ values ⟨m, []⟩ =
        .ok (x, ⟨m', []⟩)) :
    runMoving order limit name args body slots m = .ok m' := by
  subst hmoved
  exact congrArg (Except.map fun result => result.2.memory) henter

/-! ### Assignments -/

/-- An expression is the entry of an array of floating-point numbers at an address. -/
def Code.Expr.IsElement {M : Machine} (e : Expr) (ctx : Context M) (s : RunState M)
    (kind : FloatKind) (address : Nat) : Prop :=
  ∃ pointer offset base n, e = .index pointer offset ∧ pointer.Points ctx s (.float kind) base ∧
    offset.Counts ctx s n ∧ base + n * kind.bytes = address

section Assignments

variable {order : Nat → List Nat} {ctx : Context (movingMachine order)}
  {locals : List (Local (movingMachine order))} {m : LoggedMemory}

/-- The assignment of one element to another copies its bytes. -/
theorem performs_assign {target source : Expr} {kind : FloatKind} {c : ElementCopy}
    {inv : LoggedMemory → Prop}
    (htarget : ∀ m, inv m → target.IsElement ctx ⟨m, locals⟩ kind c.target)
    (hsource : ∀ m, inv m → source.IsElement ctx ⟨m, locals⟩ kind c.source)
    (hcopy : ∀ m, inv m → ∃ m', m.copy kind.bytes c = some m' ∧ inv m') :
    (Stmt.expr (.assign target source)).Performs ctx locals inv (·.copy kind.bytes c) := by
  intro m hinv
  obtain ⟨pointer, offset, base, n, rfl, hpointer, hoffset, haddress⟩ := htarget m hinv
  obtain ⟨pointer', offset', base', n', rfl, hpointer', hoffset', haddress'⟩ := hsource m hinv
  obtain ⟨m', hm', hinv'⟩ := hcopy m hinv
  obtain ⟨bytes, hpeek, hwrite⟩ := Option.bind_eq_some_iff.mp hm'
  refine ⟨m', hm', hinv', ?_⟩
  have hplace : (pointer.index offset).place ctx ⟨m, locals⟩ =
      .ok ((.float kind, .address c.target), ⟨m, locals⟩) :=
    haddress ▸ hpointer.place_index hoffset
  have hload : (movingMachine order).load m (.float kind) (base' + n' * kind.bytes) =
      some (.float kind bytes) := by
    rw [haddress']
    exact movingMachine_load hpeek
  have hvalue := hpointer'.eval_index hoffset' rfl hload
  have hstore : (movingMachine order).store m c.target (.float kind bytes) = some m' := by
    change (if (0 : Int) ≤ c.target then (some bytes).bind (m.write c.target) else none) = _
    rw [if_pos (Int.natCast_nonneg _)]
    exact hwrite
  have hassign : (Expr.assign (.index pointer offset) (.index pointer' offset')).eval ctx
      ⟨m, locals⟩ = .ok (.float kind bytes, ⟨m', locals⟩) := by
    rw [Expr.eval, run_bind hplace, run_bind hvalue]
    exact writePlace_address rfl hstore
  exact exec_expr hassign

end Assignments

end KernelForge
