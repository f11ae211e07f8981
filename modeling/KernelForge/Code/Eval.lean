import KernelForge.Code.Machine

/-!
# Running source on a machine

Expressions are evaluated to values and, where they denote an object, to places. Calls go through the
context, loops repeat up to its limit, and iterations shared among threads run one after the other in
the order of the machine. The functions are recursive on the tree.

A call runs the body of a function with its arguments as new local variables. What the source text does
not define is a function of the library, which also knows the team of the calling thread.
-/

namespace KernelForge.Code

variable {M : Machine}

/-- An integer operation on operands of one type, before it is cut to the type. -/
def BinaryOp.ofInts (op : BinaryOp) (a b : Int) : Except Fault Int :=
  let bitwise (f : BitVec 64 → BitVec 64 → BitVec 64) : Int :=
    (f (BitVec.ofInt 64 a) (BitVec.ofInt 64 b)).toInt
  let ofBool (b : Bool) : Int := if b then 1 else 0
  match op with
  | mul => .ok (a * b)
  | div => if b = 0 then .error .divisionByZero else .ok (a.tdiv b)
  | rem => if b = 0 then .error .divisionByZero else .ok (a.tmod b)
  | add => .ok (a + b)
  | sub => .ok (a - b)
  | shiftLeft => if b < 0 then .error .badOperand else .ok (a * twoPow b.toNat)
  | shiftRight => if b < 0 then .error .badOperand else .ok (a.fdiv (twoPow b.toNat))
  | lt => .ok (ofBool (a < b))
  | gt => .ok (ofBool (b < a))
  | le => .ok (ofBool (a ≤ b))
  | ge => .ok (ofBool (b ≤ a))
  | eq => .ok (ofBool (a = b))
  | ne => .ok (ofBool (a ≠ b))
  | bitAnd => .ok (bitwise (· &&& ·))
  | bitXor => .ok (bitwise (· ^^^ ·))
  | bitOr => .ok (bitwise (· ||| ·))

/-- Whether an operator compares. -/
def BinaryOp.isComparison : BinaryOp → Bool
  | lt | gt | le | ge | eq | ne => true
  | _ => false

/-- Whether an operator shifts. -/
def BinaryOp.isShift : BinaryOp → Bool
  | shiftLeft | shiftRight => true
  | _ => false

/-- An operation on two integers of any types. -/
def intOperation (M : Machine) (op : BinaryOp) (ka : IntKind) (a : Int) (kb : IntKind) (b : Int) :
    Except Fault (Value M.Real) := do
  if op.isShift then
    let kind := ka.promote
    return .int kind (M.wrap kind (← op.ofInts a b))
  let kind := ka.common kb
  let result ← op.ofInts (M.wrap kind a) (M.wrap kind b)
  return if op.isComparison then .int .int result else .int kind (M.wrap kind result)

/-- An operation on two floating-point numbers of one type. -/
def floatOperation {kind : FloatKind} (op : BinaryOp) (a b : M.Real kind) :
    Except Fault (Value M.Real) :=
  match op with
  | .mul => .ok (.float kind (M.mul a b))
  | .div => .ok (.float kind (M.div a b))
  | .add => .ok (.float kind (M.add a b))
  | .sub => .ok (.float kind (M.sub a b))
  | .lt => .ok (.ofBool (M.lt a b))
  | .gt => .ok (.ofBool (M.lt b a))
  | .le => .ok (.ofBool (M.le a b))
  | .ge => .ok (.ofBool (M.le b a))
  | .eq => .ok (.ofBool (M.eq a b))
  | .ne => .ok (.ofBool (!M.eq a b))
  | _ => .error .badOperand

/-- The place so many objects of a type further on. -/
def Location.shift (type : CType) (n : Int) : Location → Except Fault Location
  | .slot i =>
      let target : Int := i + n * type.cells
      if 0 ≤ target then .ok (.slot target.toNat) else .error .badAddress
  | .address a => .ok (.address (a + n * type.bytes))
  | .function _ => .error .badOperand

/-- Compares or subtracts two positions that are counted in units of `size`. -/
def positionOperation (op : BinaryOp) (a b : Int) (size : Nat) : Except Fault (Value M.Real) :=
  if op.isComparison then do return .int .int (← op.ofInts a b)
  else match op with
    | .sub => if size = 0 then .error .badOperand else .ok (.int .long ((a - b).tdiv size))
    | _ => .error .badOperand

/-- An operation on two values. -/
def BinaryOp.apply (op : BinaryOp) (a b : Value M.Real) : Except Fault (Value M.Real) :=
  match a, b with
  | .int ka a, .int kb b => intOperation M op ka a kb b
  | .float ka a, .float kb b =>
      floatOperation op (M.convert (ka.common kb) a) (M.convert (ka.common kb) b)
  | .float k a, .int _ b => floatOperation op a (M.ofInt k b)
  | .int _ a, .float k b => floatOperation op (M.ofInt k a) b
  | .pointer t a, .int _ n =>
      match op with
      | .add => do return .pointer t (← a.shift t n)
      | .sub => do return .pointer t (← a.shift t (-n))
      | .eq | .ne =>
          match a with
          | .address a => positionOperation op a n 1
          | _ => .error .badOperand
      | _ => .error .badOperand
  | .int _ n, .pointer t b =>
      match op with
      | .add => do return .pointer t (← b.shift t n)
      | _ => .error .badOperand
  | .pointer t (.address a), .pointer _ (.address b) => positionOperation op a b t.bytes
  | .pointer t (.slot a), .pointer _ (.slot b) => positionOperation op a b t.cells
  | _, _ => .error .badOperand

/-- An operation on one value. -/
def UnaryOp.apply (op : UnaryOp) (v : Value M.Real) : Except Fault (Value M.Real) :=
  match op, v with
  | logicalNot, v => do return .ofBool (!(← v.truth))
  | negate, .int k n => .ok (.int k.promote (M.wrap k.promote (-n)))
  | negate, .float k x => .ok (.float k (M.negate x))
  | plus, .int k n => .ok (.int k.promote n)
  | plus, .float k x => .ok (.float k x)
  | complement, .int k n => .ok (.int k.promote (M.wrap k.promote (-n - 1)))
  | _, _ => .error .badOperand

/-- The type that a literal gets: its own if the number fits, else a wider one. -/
def IntKind.ofLiteral (kind : IntKind) (n : Nat) : IntKind :=
  if n ≤ kind.greatest then kind
  else if !kind.isSigned then unsignedLong
  else if n ≤ IntKind.long.greatest then long
  else wide

/-- The place and type that a name stands for. -/
def lookup (ctx : Context M) (name : String) : Run M (CType × Location) := fun s =>
  let visible := s.locals.take (s.locals.length - ctx.frame)
  match visible.findIdx? (·.name = name) with
  | some i =>
      match s.locals[i]? with
      | some v => .ok ((v.type, .slot (s.locals.length - 1 - i)), s)
      | none => .error (.unknownName name)
  | none =>
      match ctx.global name with
      | some place => .ok (place, s)
      | none => .error (.unknownName name)

/-- The value at a place; an array or function is known by its address. -/
def readPlace : CType × Location → Run M (Value M.Real)
  | (.array element _, location) => pure (.pointer element location)
  | (.function result, location) => pure (.pointer (.function result) location)
  | (type, .address a) => fun s =>
      match M.load s.memory type a with
      | some v => .ok (v, s)
      | none => .error .badAddress
  | (_, .slot i) => fun s =>
      if i < s.locals.length then
        match s.locals[s.locals.length - 1 - i]? with
        | some v => .ok (v.value, s)
        | none => .error .badAddress
      else .error .badAddress
  | (_, .function _) => throw .badOperand

/-- Puts a value, brought to the type of the place, into a place. -/
def writePlace (place : CType × Location) (value : Value M.Real) : Run M (Value M.Real) :=
  match value.convert place.1 with
  | .error fault => throw fault
  | .ok value =>
      match place.2 with
      | .address a => fun ⟨memory, locals⟩ =>
          match M.store memory a value with
          | some memory => .ok (value, ⟨memory, locals⟩)
          | none => .error .badAddress
      | .slot i => fun ⟨memory, locals⟩ =>
          if i < locals.length then
            .ok (value,
              ⟨memory, locals.modify (locals.length - 1 - i) fun v => { v with value := value }⟩)
          else .error .badAddress
      | .function _ => throw .badOperand

/-- The place that a pointer leads to. -/
def pointerTarget : Value M.Real → Except Fault (CType × Location)
  | .pointer type location => .ok (type, location)
  | _ => .error .badOperand

/-- The function that a pointer leads to. -/
def calleeOf : Value M.Real → Except Fault Callee
  | .pointer _ (.function name) => .ok (.named name)
  | .pointer _ (.address a) => .ok (.at a)
  | _ => .error .badOperand

/-- Counts a place up or down by one. -/
def countPlace (up yieldsOld : Bool) (place : CType × Location) : Run M (Value M.Real) := do
  let old ← readPlace place
  let new ← writePlace place (← (if up then BinaryOp.add else .sub).apply old (.int .int 1))
  return if yieldsOld then old else new

mutual

/-- The value of an expression. -/
def Expr.eval : Expr → Context M → Run M (Value M.Real)
  | .intLit n kind, _ => pure (.int (kind.ofLiteral n) n)
  | .floatLit digits exponent kind, _ => pure (.float kind (M.ofDecimal kind digits exponent))
  | .var name, ctx => do readPlace (← lookup ctx name)
  | .paren inner, ctx => inner.eval ctx
  | .unary op operand, ctx => do op.apply (← operand.eval ctx)
  | .deref pointer, ctx => do readPlace (← pointerTarget (← pointer.eval ctx))
  | .addressOf place, ctx => do
      let (type, location) ← place.place ctx
      return .pointer type location
  | .index pointer offset, ctx => do
      let base ← pointer.eval ctx
      let n ← offset.eval ctx
      readPlace (← pointerTarget (← BinaryOp.add.apply base n))
  | .binary op left right, ctx => do
      let a ← left.eval ctx
      let b ← right.eval ctx
      op.apply a b
  | .logic .and left right, ctx => do
      if ← (← left.eval ctx).truth then return .ofBool (← (← right.eval ctx).truth)
      else return .ofBool false
  | .logic .or left right, ctx => do
      if ← (← left.eval ctx).truth then return .ofBool true
      else return .ofBool (← (← right.eval ctx).truth)
  | .cond test yes no, ctx => do
      if ← (← test.eval ctx).truth then yes.eval ctx else no.eval ctx
  | .assign place value, ctx => do
      let target ← place.place ctx
      writePlace target (← value.eval ctx)
  | .update op place value, ctx => do
      let target ← place.place ctx
      let v ← value.eval ctx
      writePlace target (← op.apply (← readPlace target) v)
  | .count up yieldsOld place, ctx => do countPlace up yieldsOld (← place.place ctx)
  | .cast type operand, ctx => do (← operand.eval ctx).convert type
  | .call callee args, ctx => do
      let f ← calleeOf (← callee.eval ctx)
      ctx.call f ctx.team (← Expr.evalAll args ctx)
  | .comma first second, ctx => do
      let _ ← first.eval ctx
      second.eval ctx
  | .sizeOf type, _ => pure (.int .unsignedLong type.bytes)

/-- The object that an expression denotes. -/
def Expr.place : Expr → Context M → Run M (CType × Location)
  | .var name, ctx => lookup ctx name
  | .paren inner, ctx => inner.place ctx
  | .deref pointer, ctx => do pointerTarget (← pointer.eval ctx)
  | .index pointer offset, ctx => do
      let base ← pointer.eval ctx
      let n ← offset.eval ctx
      pointerTarget (← BinaryOp.add.apply base n)
  | _, _ => throw .badOperand

/-- The values of expressions, from the first to the last. -/
def Expr.evalAll : List Expr → Context M → Run M (List (Value M.Real))
  | [], _ => pure []
  | e :: rest, ctx => do
      let v ← e.eval ctx
      return v :: (← Expr.evalAll rest ctx)

end

/-- How a statement ends. -/
inductive Flow (M : Machine) where
  | next
  | break
  | continue
  | return (value : Option (Value M.Real))

/-- Adds a local variable. -/
def pushLocal (v : Local M) : Run M Unit :=
  modify fun ⟨memory, locals⟩ => ⟨memory, v :: locals⟩

/-- Runs code and takes away the local variables that it added. -/
def inScope {α : Type} (run : Run M α) : Run M α := do
  let height := (← get).locals.length
  let a ← run
  modify fun ⟨memory, locals⟩ => ⟨memory, locals.drop (locals.length - height)⟩
  return a

/-- Adds a declared variable with its initial value, or zero. -/
def declareVariable (ctx : Context M) (v : Variable) : Run M Unit := do
  let value ← match v.init with
    | some e => do (← e.eval ctx).convert v.type
    | none => pure (.zero M v.type)
  pushLocal ⟨v.name, v.type, value⟩
  (List.range (v.type.cells - 1)).forM fun _ => pushLocal ⟨"", .void, .zero M v.type⟩

/-- Repeats a step until it gives a result. -/
def repeatUntil {α : Type} : Nat → Run M (Option α) → Run M α
  | 0, _ => throw .outOfFuel
  | fuel + 1, step => do
      match ← step with
      | some a => return a
      | none => repeatUntil fuel step

/-- What a loop does after its body ended: a result ends the loop. -/
def Flow.afterBody : Flow M → Option (Flow M)
  | .break => some .next
  | .return value => some (.return value)
  | .next | .continue => none

/-- Refuses to leave code that threads share. -/
def Flow.expectNext : Flow M → Run M Unit
  | .next | .continue => pure ()
  | .break | .return _ => throw .badExit

/-- Whether the test of a loop holds; no test always does. -/
def testHolds (test : Option Expr) (ctx : Context M) : Run M Bool := do
  match test with
  | some e => (← e.eval ctx).truth
  | none => return true

mutual

/-- Runs a statement. -/
def Stmt.exec : Stmt → Context M → Run M (Flow M)
  | .empty, _ => pure .next
  | .expr e, ctx => do
      let _ ← e.eval ctx
      return .next
  | .declare vars, ctx => do
      vars.forM (declareVariable ctx)
      return .next
  | .block body, ctx => inScope (Stmt.execAll body ctx)
  | .ifElse test yes no, ctx => do
      if ← (← test.eval ctx).truth then inScope (yes.exec ctx) else inScope (no.exec ctx)
  | .while test body, ctx =>
      repeatUntil ctx.limit do
        if ← (← test.eval ctx).truth then return (← inScope (body.exec ctx)).afterBody
        else return some .next
  | .doWhile body test, ctx =>
      repeatUntil ctx.limit do
        match (← inScope (body.exec ctx)).afterBody with
        | some flow => return some flow
        | none => if ← (← test.eval ctx).truth then return none else return some .next
  | .for init test step body, ctx =>
      inScope do
        let _ ← init.exec ctx
        repeatUntil ctx.limit do
          if ← testHolds test ctx then
            match (← inScope (body.exec ctx)).afterBody with
            | some flow => return some flow
            | none =>
                if let some e := step then
                  let _ ← e.eval ctx
                return none
          else return some .next
  | .return none, _ => pure (.return none)
  | .return (some e), ctx => do return .return (some (← e.eval ctx))
  | .break, _ => pure .break
  | .continue, _ => pure .continue
  | .parallelFor index bound body, ctx => do
      match ← bound.eval ctx with
      | .int _ n =>
          (M.order n.toNat).forM fun i => inScope do
            pushLocal ⟨index, .int .int, .int .int i⟩
            (← body.exec ctx).expectNext
          return .next
      | _ => throw .badOperand
  | .parallel body, ctx => do
      (M.order M.team).forM fun rank => do
        (← inScope (body.exec { ctx with team := ⟨M.team, rank⟩ })).expectNext
      return .next

/-- Runs statements until one of them does not end normally. -/
def Stmt.execAll : List Stmt → Context M → Run M (Flow M)
  | [], _ => pure .next
  | s :: rest, ctx => do
      match ← s.exec ctx with
      | .next => Stmt.execAll rest ctx
      | flow => return flow

end

/-! ### Calls of functions -/

namespace Program

variable {M : Machine}

/-- Makes the arguments of a call local variables; arguments beyond the parameters are dropped. -/
def bindParams : List Parameter → List (Value M.Real) → Run M Unit
  | [], _ => pure ()
  | _ :: _, [] => throw .badOperand
  | p :: params, v :: values => do
      pushLocal ⟨p.name, p.type, ← v.convert p.type⟩
      bindParams params values

/-- Runs the body of a function on arguments. -/
def enter (f : Function) (ctx : Context M) (args : List (Value M.Real)) : Run M (Value M.Real) :=
  inScope do
    let frame := (← get).locals.length
    bindParams f.params args
    match ← Stmt.execAll f.body { ctx with frame := frame } with
    | .return (some v) => v.convert f.result
    | _ => return .zero M f.result

/-- A function that the source text does not define. -/
def callLibrary (name : String) (team : Team) (args : List (Value M.Real)) :
    Run M (Value M.Real) :=
  match name with
  | "omp_get_num_threads" => pure (.int .int team.size)
  | "omp_get_thread_num" => pure (.int .int team.rank)
  | "omp_get_max_threads" => pure (.int .int M.team)
  | _ =>
      match M.library name args with
      | some v => pure v
      | none => throw (.unknownName name)

end Program

end KernelForge.Code
