import KernelForge.Code.Tree

/-!
# Values and machines

A machine says what kernel source computes with: its floating-point numbers, how integers are cut to
their types, what memory holds, in which order iterations that are shared among threads run, and how
many threads a team has. The same source can be run on a machine with bytes and rounding and on one
with exact arithmetic.
-/

namespace KernelForge.Code

/-- Where an object or function is. -/
inductive Location where
  /-- A local variable, counted from the first one of the outermost call. -/
  | slot (index : Nat)
  | address (value : Int)
  | function (name : String)
  deriving DecidableEq, Repr, Inhabited

/-- The values of expressions over given floating-point numbers. -/
inductive Value (Real : FloatKind → Type) where
  | int (kind : IntKind) (value : Int)
  | float (kind : FloatKind) (value : Real kind)
  | pointer (target : CType) (location : Location)
  | void

/-- What source is run on. -/
structure Machine where
  /-- The numbers of a floating-point type. -/
  Real : FloatKind → Type
  Memory : Type
  /-- Cuts an integer to the range of a type. -/
  wrap : IntKind → Int → Int
  ofInt : (kind : FloatKind) → Int → Real kind
  /-- The number `digits * 10 ^ exponent`. -/
  ofDecimal : (kind : FloatKind) → Nat → Int → Real kind
  /-- The integer that a number is converted to. -/
  toInt : {kind : FloatKind} → IntKind → Real kind → Int
  convert : {source : FloatKind} → (target : FloatKind) → Real source → Real target
  negate : {kind : FloatKind} → Real kind → Real kind
  add : {kind : FloatKind} → Real kind → Real kind → Real kind
  sub : {kind : FloatKind} → Real kind → Real kind → Real kind
  mul : {kind : FloatKind} → Real kind → Real kind → Real kind
  div : {kind : FloatKind} → Real kind → Real kind → Real kind
  eq : {kind : FloatKind} → Real kind → Real kind → Bool
  lt : {kind : FloatKind} → Real kind → Real kind → Bool
  le : {kind : FloatKind} → Real kind → Real kind → Bool
  /-- Reads a number or address. -/
  load : Memory → CType → Int → Option (Value Real)
  /-- Writes a number or address. -/
  store : Memory → Int → Value Real → Option Memory
  /-- The order in which so many shared iterations, or threads of a team, run. -/
  order : Nat → List Nat
  /-- The threads of a team. -/
  team : Nat
  /-- The functions of the mathematical library. -/
  library : String → List (Value Real) → Option (Value Real)

/-- Why a run stops. -/
inductive Fault where
  | outOfFuel
  | badAddress
  | badOperand
  | divisionByZero
  | unknownName (name : String)
  | badExit
  deriving DecidableEq, Repr, Inhabited

/-- The team that a thread belongs to, and its number in it. -/
structure Team where
  size : Nat
  rank : Nat
  deriving DecidableEq, Repr

/-- The team of a thread that runs alone. -/
def Team.alone : Team := ⟨1, 0⟩

/-- A local variable; an array takes one for each of its values. -/
structure Local (M : Machine) where
  name : String
  type : CType
  value : Value M.Real

/-- The state of a run: memory, and local variables with the newest one first. -/
structure RunState (M : Machine) where
  memory : M.Memory
  locals : List (Local M)

/-- A run on a machine. -/
abbrev Run (M : Machine) := StateT (RunState M) (Except Fault)

/-- What is called. -/
inductive Callee where
  | named (name : String)
  | at (address : Int)
  deriving DecidableEq, Repr

/-- What surrounds the code that is run. -/
structure Context (M : Machine) where
  /-- The local variables of callers, which the code does not see. -/
  frame : Nat
  team : Team
  /-- How often a loop may repeat. -/
  limit : Nat
  /-- The variables and functions of the source text. -/
  global : String → Option (CType × Location)
  /-- Calls a function from a thread of a team. -/
  call : Callee → Team → List (Value M.Real) → Run M (Value M.Real)

namespace Value

variable {M : Machine}

/-- A truth value as source has it. -/
def ofBool (b : Bool) : Value M.Real := .int .int (if b then 1 else 0)

/-- What a variable without an initial value holds. -/
def zero (M : Machine) : CType → Value M.Real
  | .int kind => .int kind 0
  | .float kind => .float kind (M.ofInt kind 0)
  | .pointer target _ => .pointer target (.address 0)
  | .array element _ => zero M element
  | .void | .function _ => .void

/-- Whether a value counts as true. -/
def truth : Value M.Real → Except Fault Bool
  | .int _ n => .ok (n ≠ 0)
  | .float kind x => .ok (!M.eq x (M.ofInt kind 0))
  | .pointer _ (.address a) => .ok (a ≠ 0)
  | .pointer _ _ => .ok true
  | .void => .error .badOperand

/-- A value brought to a type. -/
def convert (type : CType) (value : Value M.Real) : Except Fault (Value M.Real) :=
  match type, value with
  | .int .bool, value => do return .int .bool (if ← value.truth then 1 else 0)
  | .int kind, .int _ n => .ok (.int kind (M.wrap kind n))
  | .int kind, .float _ x => .ok (.int kind (M.toInt kind x))
  | .int kind, .pointer _ (.address a) => .ok (.int kind (M.wrap kind a))
  | .float kind, .int _ n => .ok (.float kind (M.ofInt kind n))
  | .float kind, .float _ x => .ok (.float kind (M.convert kind x))
  | .pointer target _, .pointer _ location => .ok (.pointer target location)
  | .pointer target _, .int _ n => .ok (.pointer target (.address (M.wrap .unsignedLong n)))
  | .void, _ => .ok .void
  | _, _ => .error .badOperand

end Value

end KernelForge.Code
