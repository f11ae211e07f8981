import KernelForge.Proofs.Exact.Machine
import KernelForge.Proofs.Product.Reference
import KernelForge.Proofs.Product.Requests

/-!
# Products on exact numbers

A product routine is called with sizes, addresses and factors, and changes numbers. If every call
changes numbers of elements of its result at most, then so does a direct product, which is one call,
and so does a shared product, which is one call for each thread that has columns.
-/

namespace KernelForge

open Code

/-- What the routines of a library do to the numbers at all addresses, given what they are called
with. -/
abbrev ExactRoutine (R : Type) := List (Value fun _ => R) → (Nat → R) → Nat → R

namespace ProductCall

variable {R : Type} (call : ProductCall)

/-- What the routine is called with. -/
def values (kind : FloatKind) (alpha beta : R) : List (Value fun _ => R) :=
  [.int .int Builtin.Product.rowMajor, .int .int Builtin.Product.noTranspose,
    .int .int Builtin.Product.noTranspose, .int .int call.rows, .int .int call.columns,
    .int .int call.inner, .float kind alpha, .pointer (.float kind) (.address call.a),
    .int .int call.leadingA, .pointer (.float kind) (.address call.b), .int .int call.leadingB,
    .float kind beta, .pointer (.float kind) (.address call.out), .int .int call.leadingOut]

/-- Memory in which only numbers of elements of the result may have changed. -/
structure OnlyResult (width : Nat) (before after : ExactMemory R) : Prop where
  memory_eq : after.memory = before.memory
  numbers_eq : ∀ address,
    (∀ i < call.rows, ∀ j < call.columns, address ≠ call.inOut width i j) →
      after.numbers address = before.numbers address

/-- The call for a block of columns passes what a thread passes. -/
theorem values_block {call : ProductCall} {kind : FloatKind} {alpha beta : R} {first last : Nat}
    (h : first ≤ last) :
    (call.block kind.bytes first (last - first)).values kind alpha beta =
      Product.blockValues kind call alpha beta first last := by
  have hcount : ((last - first : Nat) : Int) = last - first := Int.ofNat_sub h
  simp only [values, block, Product.blockValues, hcount]
  push_cast
  rfl

/-- A call for a block of columns changes elements of the result at most. -/
theorem OnlyResult.block {call : ProductCall} {width first count : Nat}
    {before now after : ExactMemory R} (h : call.OnlyResult width before now)
    (hblock : (call.block width first count).OnlyResult width now after)
    (hle : first + count ≤ call.columns) : call.OnlyResult width before after := by
  refine ⟨hblock.memory_eq.trans h.memory_eq, fun address haddress => ?_⟩
  rw [← h.numbers_eq address haddress]
  refine hblock.numbers_eq address fun i hi j hj => ?_
  have hj' : j < count := hj
  rw [inOut_block]
  exact haddress i hi (first + j) (by omega)

end ProductCall

namespace Product

variable {R : Type}

/-- Every call of a routine changes numbers of elements of its result at most. -/
def WritesResult (routine : ExactRoutine R) : Prop :=
  ∀ (call : ProductCall) (kind : FloatKind) (alpha beta : R) (numbers : Nat → R) (address : Nat),
    (∀ i < call.rows, ∀ j < call.columns, address ≠ call.inOut kind.bytes i j) →
      routine (call.values kind alpha beta) numbers address = numbers address

/-- Calls a routine. -/
def multiply (routine : ExactRoutine R) (values : List (Value fun _ => R)) (m : ExactMemory R) :
    ExactMemory R :=
  ⟨m.memory, routine values m.numbers⟩

/-- A product changes its result and nothing else. -/
theorem WritesResult.onlyResult {routine : ExactRoutine R} (h : WritesResult routine)
    (call : ProductCall) (kind : FloatKind) (alpha beta : R) (m : ExactMemory R) :
    call.OnlyResult kind.bytes m (multiply routine (call.values kind alpha beta) m) :=
  ⟨rfl, h call kind alpha beta m.numbers⟩

/-- A call for a block of columns, as a thread makes it, changes elements of the result at most. -/
theorem WritesResult.onlyResult_block {routine : ExactRoutine R} (h : WritesResult routine)
    {call : ProductCall} {kind : FloatKind} {alpha beta : R} {first last : Nat}
    {before now : ExactMemory R} (hnow : call.OnlyResult kind.bytes before now)
    (hfirst : first ≤ last) (hlast : last ≤ call.columns) :
    call.OnlyResult kind.bytes before
      (multiply routine (blockValues kind call alpha beta first last) now) := by
  rw [← ProductCall.values_block hfirst]
  exact hnow.block (h.onlyResult _ kind alpha beta now) (by omega)

section Reference

variable [Ring R]

/-- A row of the left operand times a column of the right one and the old element, weighed with the
factors. -/
def newElement (call : ProductCall) (width : Nat) (alpha beta : R) (numbers : Nat → R) (i j : Nat) :
    R :=
  alpha * ((List.range call.inner).map fun k =>
    numbers (call.inA width i k) * numbers (call.inB width k j)).sum +
      beta * numbers (call.inOut width i j)

/-- The routine that replaces all elements of the result. Calls with other arguments change
nothing. -/
def exactProduct : ExactRoutine R := fun values numbers =>
  match values with
  | [.int _ _, .int _ _, .int _ _, .int _ rows, .int _ columns, .int _ inner, .float kind alpha,
      .pointer _ (.address a), .int _ leadingA, .pointer _ (.address b), .int _ leadingB,
      .float _ beta, .pointer _ (.address out), .int _ leadingOut] =>
      let call : ProductCall := ⟨rows.toNat, columns.toNat, inner.toNat, 0, a.toNat, leadingA.toNat,
        b.toNat, leadingB.toNat, 0, out.toNat, leadingOut.toNat⟩
      let entries := (List.range call.rows).flatMap fun i =>
        (List.range call.columns).map fun j => (i, j)
      fun address =>
        match entries.find? fun e => address = call.inOut kind.bytes e.1 e.2 with
        | some e => newElement call kind.bytes alpha beta numbers e.1 e.2
        | none => numbers address
  | _ => numbers

/-- The exact product writes its result only. -/
theorem writesResult_exactProduct : WritesResult (exactProduct : ExactRoutine R) := by
  intro call kind alpha beta numbers address haddress
  simp only [exactProduct, ProductCall.values, Int.toNat_natCast]
  split
  · next e he =>
    have hfound := List.find?_some he
    obtain ⟨i, hi, hmem⟩ := List.mem_flatMap.mp (List.mem_of_find?_eq_some he)
    obtain ⟨j, hj, rfl⟩ := List.mem_map.mp hmem
    exact absurd (of_decide_eq_true hfound)
      (haddress i (List.mem_range.mp hi) j (List.mem_range.mp hj))
  · rfl

end Reference

variable [Ring R] {reading : Reading R}

/-! ### Direct products -/

/-- The direct product is one call of the routine, on the numbers that the words of the factors stand
for. -/
def runDirect (reading : Reading R) (routine : ExactRoutine R) (k : Host.VendorProduct)
    (m : ExactMemory R) : Option (ExactMemory R) :=
  match ProductCall.ofWords? k.arguments, k.a.elementType.cType with
  | some call, .float kind =>
      some (multiply routine
        (call.values kind (reading.number kind call.alpha) (reading.number kind call.beta)) m)
  | _, _ => none

/-- A direct product changes elements of its result at most. -/
theorem runDirect_onlyResult {routine : ExactRoutine R} {address : UInt64} {a b out : Matrix}
    {alpha beta : Binary64} {m m' : ExactMemory R} (hroutine : WritesResult routine)
    (haccepted : Accepted a b out)
    (hrun : runDirect reading routine
      ⟨address, a, b, out, alpha, beta, .ofLayouts a b out⟩ m = some m') :
    (ProductCall.ofOperands a b out alpha beta).OnlyResult a.elementType.bytes m m' := by
  obtain ⟨kind, hkind, hbytes⟩ := ElementType.exists_floatKind haccepted.isFloat
  have hcall : ProductCall.ofWords? (⟨address, a, b, out, alpha, beta, .ofLayouts a b out⟩ :
      Host.VendorProduct).arguments = some (.ofOperands a b out alpha beta) := by
    rw [haccepted.arguments_eq]
    rfl
  simp only [runDirect, hcall, hkind, Option.some.injEq] at hrun
  subst hrun
  rw [hbytes]
  exact hroutine.onlyResult _ _ _ _ m

/-! ### Shared products -/

variable [DecidableEq R] {order : Nat → List Nat} {team : Nat}

/-- Code of the module calls the routine. -/
def exactCall (routine : ExactRoutine R) (values : List (Value fun _ => R)) :
    Run (exactMachine R order team) (Value fun _ => R) := fun ⟨m, locals⟩ =>
  .ok (.void, ⟨multiply routine values m, locals⟩)

/-- Runs the product kernel on exact numbers, with a team of threads that run in an order. -/
def runExactShared (reading : Reading R) (order : Nat → List Nat) (team : Nat) (address : UInt64)
    (routine : ExactRoutine R) (type : ElementType) (values : List SlotValue) (m : ExactMemory R) :
    Except Fault (ExactMemory R) :=
  (Program.enter (kernelFunction type)
    (sharedContext (exactMachine R order team) address (exactCall routine))
    (List.zipWith (Host.exactArgument reading) (paramTypes 0 (Builtin.Product.arguments type)) values)
    ⟨m, []⟩).map fun result => result.2.memory

/-- A run of the product kernel is a call with what its parameters get. -/
theorem runExactShared_of_enter {address : UInt64} {routine : ExactRoutine R} {type : ElementType}
    {slots : List SlotValue} {values : List (Value fun _ => R)} {x : Value fun _ => R}
    {m m' : ExactMemory R}
    (hvalues : List.zipWith (Host.exactArgument reading)
      (paramTypes 0 (Builtin.Product.arguments type)) slots = values)
    (henter : Program.enter (kernelFunction type)
      (sharedContext (exactMachine R order team) address (exactCall routine)) values ⟨m, []⟩ =
        .ok (x, ⟨m', []⟩)) :
    runExactShared reading order team address routine type slots m = .ok m' := by
  subst hvalues
  exact congrArg (Except.map fun result => result.2.memory) henter

variable {a b out : Matrix} {alpha beta : Binary64} {address : UInt64} {kind : FloatKind}

omit [DecidableEq R] in
/-- A factor of a product is passed as the number that its word stands for. -/
theorem exactArgument_factor {type : ElementType} (h : type.cType = .float kind) (x : Binary64) :
    Host.exactArgument reading (.float kind) (.scalar ((Scalar.float64 x).cast type)) =
      .float kind (reading.number kind (Host.floatWord type x)) := by
  cases type with
  | int32 | int64 => cases h
  | float32 =>
    cases h
    exact congrArg (fun n => (.float .single (reading.number .single n) : Value fun _ => R))
      (ofLittleEndian_encode .float32 x.toBinary32)
  | float64 =>
    cases h
    exact congrArg (fun n => (.float .double (reading.number .double n) : Value fun _ => R))
      (ofLittleEndian_encode .float64 x)

omit [DecidableEq R] in
/-- The product kernel gets its arguments from the values of its slots. -/
theorem Accepted.exactArguments_slotValues (h : Accepted a b out)
    (hkind : a.elementType.cType = .float kind) :
    List.zipWith (Host.exactArgument reading) (paramTypes 0 (Builtin.Product.arguments a.elementType))
        (slotValues address a b out alpha beta (.ofLayouts a b out)) =
      sharedValues kind address (.ofOperands a b out alpha beta)
        (reading.number kind (Host.floatWord a.elementType alpha))
        (reading.number kind (Host.floatWord a.elementType beta)) := by
  obtain ⟨hrows, hcolumns, hinner⟩ := h.sizes_lt
  obtain ⟨hleadingA, hleadingB, hleadingOut⟩ := h.leading_lt
  rw [paramTypes_arguments hkind]
  simp only [slotValues, Host.ProductShape.ofLayouts, List.zipWith_cons_cons, List.zipWith_nil_left,
    Host.exactArgument_int32, Host.exactArgument_pointer, exactArgument_factor hkind,
    Int32.toInt_ofNat_of_lt hrows, Int32.toInt_ofNat_of_lt hcolumns, Int32.toInt_ofNat_of_lt hinner,
    Int32.toInt_ofNat_of_lt hleadingA, Int32.toInt_ofNat_of_lt hleadingB,
    Int32.toInt_ofNat_of_lt hleadingOut]
  rfl

/-- A shared product changes elements of its result at most, in whatever order the threads run. -/
theorem runExactShared_onlyResult {routine : ExactRoutine R} {m : ExactMemory R}
    (hroutine : WritesResult routine) (haccepted : Accepted a b out) (hteam : 0 < team) :
    ∃ m', runExactShared reading order team address routine a.elementType
        (slotValues address a b out alpha beta (.ofLayouts a b out)) m = .ok m' ∧
      (ProductCall.ofOperands a b out alpha beta).OnlyResult a.elementType.bytes m m' := by
  obtain ⟨kind, hkind, hbytes⟩ := ElementType.exists_floatKind haccepted.isFloat
  let c : ProductCall := .ofOperands a b out alpha beta
  let alpha' : R := reading.number kind (Host.floatWord a.elementType alpha)
  let beta' : R := reading.number kind (Host.floatWord a.elementType beta)
  let step (rank : Nat) (now : ExactMemory R) : Option (ExactMemory R) :=
    if begins c.columns team rank < ends c.columns team rank then
      some (multiply routine (blockValues kind c alpha' beta' (begins c.columns team rank)
        (ends c.columns team rank)) now)
    else some now
  have hexact : (exactMachine R order team).IsExact := exactMachine_isExact
  have hthread (rank : Nat) : (Stmt.block Builtin.Product.threadBody).Performs
      (threadContext address (exactCall routine) rank)
      (teamLocals (exactMachine R order team) kind address c alpha' beta')
      (c.OnlyResult kind.bytes m) (step rank) := by
    refine performs_thread hexact hteam (fun hlt now hnow => ?_) fun hnone now => if_neg hnone
    refine ⟨_, if_pos hlt, ?_, fun locals => rfl⟩
    exact hroutine.onlyResult_block hnow (Nat.le_of_lt hlt) (ends_le c.columns team rank)
  obtain ⟨m', -, hresult, henter⟩ := enter_kernel hexact (fun _ => rfl) hkind
    (fun rank _ => hthread rank) ⟨rfl, fun _ _ => rfl⟩
  rw [hbytes]
  exact ⟨m', runExactShared_of_enter (haccepted.exactArguments_slotValues hkind) henter, hresult⟩

end Product

end KernelForge
