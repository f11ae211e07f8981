import KernelForge.Host.Algebra
import KernelForge.Proofs.Product.Partition

/-!
# Running the shared product

Every thread of a team asks for its columns and, if it has some, calls the product routine for them
through the pointer that the kernel got. So a run of the kernel is a list of calls of the routine,
one for each thread that has columns, in the order in which the threads run.
-/

namespace KernelForge

open Code

/-- The word that a value is passed as. -/
def Code.Value.word? (v : Value fun _ => List UInt8) : Option Nat := v.bytes?.map ofLittleEndian

namespace Product

/-- Calls a routine on the words of values. -/
def callRoutine (order : Nat → List Nat) (team : Nat)
    (routine : List Nat → Memory → Option Memory) (values : List (Value fun _ => List UInt8)) :
    Run (teamMachine order team) (Value fun _ => List UInt8) := fun ⟨memory, locals⟩ =>
  match (values.mapM Value.word?).bind fun words => routine words memory with
  | some memory => .ok (.void, ⟨memory, locals⟩)
  | none => .error .badAddress

/-- What code of the module calls: a function by its name, or the routine by its address. -/
def call {order : Nat → List Nat} {team : Nat} (address : UInt64)
    (routine : List Nat → Memory → Option Memory) :
    Callee → Team → List (Value (teamMachine order team).Real) →
      Run (teamMachine order team) (Value (teamMachine order team).Real)
  | .named name, team, args =>
      if name = Builtin.Product.partitionName then
        Program.enter partitionFunction (partitionContext _ team) args
      else Program.callLibrary name team args
  | .at a, _, args =>
      if a = address.toNat then callRoutine order team routine args else throw .badAddress

/-- What surrounds the product kernel. -/
def kernelContext (order : Nat → List Nat) (team : Nat) (address : UInt64)
    (routine : List Nat → Memory → Option Memory) : Context (teamMachine order team) :=
  ⟨0, .alone, 0, global, call address routine⟩

/-- Runs the product kernel on the values of its slots, with a team of threads that run in an
order. -/
def runShared (order : Nat → List Nat) (team : Nat) (address : UInt64)
    (routine : List Nat → Memory → Option Memory) (args : List Argument) (body : List Stmt)
    (values : List SlotValue) (memory : Memory) : Except Fault Memory :=
  (Program.enter (Host.plainFunction Builtin.Product.kernelName args body)
    (kernelContext order team address routine)
    (List.zipWith Host.moved (paramTypes 0 args) values) ⟨memory, []⟩).map
      fun result => result.2.memory

variable {order : Nat → List Nat} {team : Nat}

/-! ### Words -/

/-- An integer that is not negative is its own word. -/
theorem word?_int {n : Nat} (h : n < twoPow 31) :
    (Value.int .int n : Value fun _ => List UInt8).word? = some n := by
  have hlt : n < twoPow 32 := Nat.lt_trans h (by decide)
  have hmod : ((n : Int) % twoPow 32).toNat = n := by
    rw [Int.emod_eq_of_lt (Int.natCast_nonneg n) (Int.ofNat_lt.mpr hlt), Int.toNat_natCast]
  change some (ofLittleEndian (littleEndian 4 ((n : Int) % twoPow 32).toNat)) = _
  rw [hmod, ofLittleEndian_littleEndian, Nat.mod_eq_of_lt hlt]

/-- The bytes of a number are read as the number. -/
theorem word?_float (kind : FloatKind) {n : Nat} (h : n < twoPow (8 * kind.bytes)) :
    (Value.float kind (littleEndian kind.bytes n) : Value fun _ => List UInt8).word? = some n := by
  change some (ofLittleEndian (littleEndian kind.bytes n)) = _
  rw [ofLittleEndian_littleEndian, Nat.mod_eq_of_lt h]

/-- So is an address. -/
theorem word?_address (type : CType) {n : Nat} (h : n < twoPow 64) :
    (Value.pointer type (.address n) : Value fun _ => List UInt8).word? = some n := by
  change some (ofLittleEndian (littleEndian 8 (n : Int).toNat)) = _
  rw [Int.toNat_natCast, ofLittleEndian_littleEndian]
  exact congrArg some (Nat.mod_eq_of_lt h)

/-! ### Threads -/

section Threads

variable {kind : FloatKind} {address : UInt64} {c : ProductCall} {rank : Nat} {memory : Memory}
  {first last : Nat} {routine : List Nat → Memory → Option Memory}

/-- The module calls the routine on the words of what it passes. -/
theorem kernelContext_eq : kernelContext order team address routine =
    sharedContext (teamMachine order team) address (callRoutine order team routine) := by
  refine congrArg (Context.mk 0 .alone 0 global) (funext fun callee => ?_)
  cases callee <;> rfl

/-- Addresses in allocations that are held are words. -/
theorem lt_of_covers {a : Allocation} (h : memory.WellFormed) (ha : memory.Holds a) {n length : Nat}
    (hcovers : a.Covers n length) : n < twoPow 64 := by
  have hend := h.end_le_limit ha
  have hlimit : Memory.limit < twoPow 64 := by decide
  obtain ⟨-, hle⟩ := hcovers
  omega

/-- What a thread passes are the words of a call for its columns, if the operands lie in allocations
that are held. -/
theorem words_of_inside {x y z : Allocation} (h : memory.WellFormed)
    (hheld : memory.Holds x ∧ memory.Holds y ∧ memory.Holds z) (hsized : c.Sized)
    (hinside : c.Inside kind.bytes x y z)
    (hfactors : c.alpha < twoPow (8 * kind.bytes) ∧ c.beta < twoPow (8 * kind.bytes))
    (hlt : first < last) (hle : last ≤ c.columns) :
    (blockValues kind c (littleEndian kind.bytes c.alpha) (littleEndian kind.bytes c.beta) first
        last : List (Value fun _ => List UInt8)).mapM Value.word? =
      some (c.block kind.bytes first (last - first)).words := by
  obtain ⟨hrows, hcolumns, hinner, -⟩ := hsized.positive
  obtain ⟨hrowsSmall, hcolumnsSmall, hinnerSmall, hleadingA, hleadingB, hleadingOut⟩ := hsized.small
  obtain ⟨hx, hy, hz⟩ := hheld
  have hfirst : first < c.columns := Nat.lt_of_lt_of_le hlt hle
  have ha : c.a < twoPow 64 := by
    have hcovers := hinside.inside_a 0 hrows 0 hinner
    rw [ProductCall.inA, Nat.zero_mul, Nat.add_zero, Nat.zero_mul, Nat.add_zero] at hcovers
    exact lt_of_covers h hx hcovers
  have hb : c.b + first * kind.bytes < twoPow 64 := by
    have hcovers := hinside.inside_b 0 hinner first hfirst
    rw [ProductCall.inB, Nat.zero_mul, Nat.zero_add] at hcovers
    exact lt_of_covers h hy hcovers
  have hout : c.out + first * kind.bytes < twoPow 64 := by
    have hcovers := hinside.inside_out 0 hrows first hfirst
    rw [ProductCall.inOut, Nat.zero_mul, Nat.zero_add] at hcovers
    exact lt_of_covers h hz hcovers
  have hcount : (last : Int) - first = (last - first : Nat) := by omega
  have hright : (c.b : Int) + first * kind.bytes = (c.b + first * kind.bytes : Nat) := by
    rw [Int.natCast_add, Int.natCast_mul]
  have hresult : (c.out : Int) + first * kind.bytes = (c.out + first * kind.bytes : Nat) := by
    rw [Int.natCast_add, Int.natCast_mul]
  have hrowMajor : Builtin.Product.rowMajor < twoPow 31 := by decide
  have hnoTranspose : Builtin.Product.noTranspose < twoPow 31 := by decide
  simp only [blockValues, hcount, hright, hresult, List.mapM_cons, List.mapM_nil,
    word?_int hrowMajor, word?_int hnoTranspose, word?_int hrowsSmall,
    word?_int (show last - first < twoPow 31 by omega), word?_int hinnerSmall,
    word?_float kind hfactors.1, word?_float kind hfactors.2, word?_address _ ha,
    word?_address _ hb, word?_address _ hout, word?_int hleadingA, word?_int hleadingB,
    word?_int hleadingOut]
  rfl

/-- The words of a call for a block are those of the block. -/
theorem words_blockValues {x y z : Allocation} (hplaced : c.Placed kind.bytes x y z memory)
    (hfactors : c.alpha < twoPow (8 * kind.bytes) ∧ c.beta < twoPow (8 * kind.bytes))
    (hlt : first < last) (hle : last ≤ c.columns) :
    (blockValues kind c (littleEndian kind.bytes c.alpha) (littleEndian kind.bytes c.beta) first
        last : List (Value fun _ => List UInt8)).mapM Value.word? =
      some (c.block kind.bytes first (last - first)).words :=
  words_of_inside hplaced.wellFormed hplaced.held hplaced.sized hplaced.inside hfactors hlt hle

/-- A call of the routine leaves the memory that the routine leaves. -/
theorem callRoutine_eq_ok {values : List (Value fun _ => List UInt8)} {words : List Nat}
    {memory' : Memory} {locals : List (Local (teamMachine order team))}
    (hwords : values.mapM Value.word? = some words) (hcall : routine words memory = some memory') :
    callRoutine order team routine values ⟨memory, locals⟩ =
      .ok (.void, ⟨memory', locals⟩) := by
  simp only [callRoutine, hwords, Option.bind_some, hcall]

/-- Every thread does its share. -/
theorem performs_share {x y z : Allocation} {rule : ElementRule}
    (hroutine : IsProduct routine kind.bytes rule) (hteam : 0 < team)
    (hfactors : c.alpha < twoPow (8 * kind.bytes) ∧ c.beta < twoPow (8 * kind.bytes)) :
    (Stmt.block Builtin.Product.threadBody).Performs
      (threadContext address (callRoutine order team routine) rank)
      (teamLocals (teamMachine order team) kind address c (littleEndian kind.bytes c.alpha)
        (littleEndian kind.bytes c.beta))
      (fun memory : Memory => c.Placed kind.bytes x y z memory)
      (fun memory : Memory => c.shareStep kind.bytes routine team rank memory) := by
  refine performs_thread teamMachine_isExact hteam (fun hlt memory hplaced => ?_)
    fun hnone memory => if_neg hnone
  obtain ⟨memory', hstep, hcomputes⟩ := hplaced.shareStep hroutine team rank
  refine ⟨memory', hstep, hplaced.later hcomputes.wellFormed hcomputes.older, fun locals => ?_⟩
  exact callRoutine_eq_ok
    (words_blockValues hplaced hfactors hlt (ends_le c.columns team rank))
    ((if_pos hlt).symm.trans hstep)

end Threads

/-! ### Runs -/

section Runs

variable {kind : FloatKind} {address : UInt64} {c : ProductCall} {memory : Memory}
  {routine : List Nat → Memory → Option Memory} {x y z : Allocation} {rule : ElementRule}

/-- The arguments of the product kernel. -/
def kernelValues (kind : FloatKind) (address : UInt64) (c : ProductCall) :
    List (Value fun _ => List UInt8) :=
  sharedValues kind address c (littleEndian kind.bytes c.alpha) (littleEndian kind.bytes c.beta)

/-- A run of a kernel is a call with what its parameters get. -/
theorem runShared_of_enter {args : List Argument} {body : List Stmt} {slots : List SlotValue}
    {values : List (Value fun _ => List UInt8)} {v : Value fun _ => List UInt8} {memory' : Memory}
    (hmoved : List.zipWith Host.moved (paramTypes 0 args) slots = values)
    (henter : Program.enter (M := teamMachine order team)
      (Host.plainFunction Builtin.Product.kernelName args body)
      (kernelContext order team address routine) values ⟨memory, []⟩ = .ok (v, ⟨memory', []⟩)) :
    runShared order team address routine args body slots memory = .ok memory' := by
  subst hmoved
  exact congrArg (Except.map fun result => result.2.memory) henter

/-- A run of the product kernel computes all columns, in whatever order the threads run. -/
theorem runShared_eq_ok {type : ElementType} {slots : List SlotValue}
    (htype : type.cType = .float kind)
    (hmoved : List.zipWith Host.moved (paramTypes 0 (Builtin.Product.arguments type)) slots =
      kernelValues kind address c)
    (hroutine : IsProduct routine kind.bytes rule) (hplaced : c.Placed kind.bytes x y z memory)
    (hfactors : c.alpha < twoPow (8 * kind.bytes) ∧ c.beta < twoPow (8 * kind.bytes))
    (hteam : 0 < team) (horder : (order team).Perm (List.range team)) :
    ∃ memory', runShared order team address routine (Builtin.Product.arguments type)
        Builtin.Product.body slots memory = .ok memory' ∧
      c.Computes kind.bytes rule (List.range c.columns) memory memory' := by
  have hexact : (teamMachine order team).IsExact := teamMachine_isExact
  obtain ⟨memory', hsteps, -, henter⟩ := enter_kernel hexact (fun _ => rfl) htype
    (fun rank _ => performs_share hroutine hteam hfactors) hplaced
  obtain ⟨memory'', hsteps', hcomputes⟩ := hplaced.team hroutine hteam horder
  cases hsteps.symm.trans hsteps'
  rw [← kernelContext_eq] at henter
  exact ⟨memory', runShared_of_enter hmoved henter, hcomputes⟩

end Runs

end Product

end KernelForge
