import KernelForge.Compiler.Declaration

/-!
# Blocks for threads

A block that a team of threads runs becomes a function inside the function around it, so that the team
shares the variables around the block. A variable that each thread has for itself is a new variable of
the block. The iterations of a shared loop are numbered; every thread takes its part of the numbers.
-/

namespace KernelForge.Compiler

open Code

/-- What a directive for threads says besides its name. -/
structure Clauses where
  threads : Option Term
  condition : Option Term
  privates : List String
  copied : List String
  lasting : List String
  shared : List String
  /-- Operators and the variables that they collect values in. -/
  reductions : List (String × String)
  /-- Whether every variable has to be named. -/
  isStrict : Bool
  /-- What the iterations of a loop are cut into; nothing for equal parts. -/
  chunk : Option (Option Term)
  depth : Nat
  isOrdered : Bool
  isEager : Bool
  setup : Term
  words : List String
  deriving Inhabited

/-- A loop with a number of iterations that is known when it starts. -/
structure CountedLoop where
  name : String
  slot : Nat
  type : SourceType
  first : Term
  step : Term
  count : Term
  setup : Term
  /-- The variable of the same name around the loop. -/
  outer : Option Value
  deriving Inhabited

/-- The words that directives for threads are made of. -/
def directiveWords : List String :=
  ["parallel", "for", "sections", "section", "single", "master", "masked", "critical", "atomic", "barrier",
    "flush", "ordered", "task", "taskwait", "taskyield", "taskgroup", "taskloop", "simd", "target", "teams",
    "distribute", "loop", "threadprivate", "declare", "cancel", "cancellation", "scope", "data", "enter",
    "exit", "update", "end", "requires", "point", "error", "nothing", "assume", "assumes", "allocate",
    "depobj", "scan", "variant", "begin", "metadirective", "tile", "unroll"]

/-- Directives in which clauses of a name may stand. -/
def clausePlaces : List (String × List String) :=
  [("num_threads", ["parallel"]), ("nowait", ["for", "sections", "single", "scope", "target", "taskwait"]),
    ("schedule", ["for"]), ("ordered", ["for"]), ("collapse", ["for", "simd", "taskloop", "distribute", "loop"]),
    ("copyprivate", ["single"]), ("lastprivate", ["for", "sections", "simd", "taskloop", "distribute", "loop"]),
    ("reduction", ["parallel", "for", "sections", "simd", "taskloop", "teams", "taskgroup", "scope", "loop"]),
    ("default", ["parallel", "task", "teams", "taskloop"]), ("shared", ["parallel", "task", "teams", "taskloop"]),
    ("copyin", ["parallel"]), ("proc_bind", ["parallel"]), ("firstprivate", ["parallel", "for", "sections",
      "single", "task", "taskloop", "teams", "target", "distribute", "scope"]),
    ("private", ["parallel", "for", "sections", "single", "task", "taskloop", "teams", "target", "distribute",
      "simd", "loop", "scope"]), ("safelen", ["simd"]), ("simdlen", ["simd"]), ("aligned", ["simd"]),
    ("linear", ["simd", "for"]), ("if", ["parallel", "task", "taskloop", "simd", "target", "cancel"])]

namespace Compile

variable {α : Type}

/-- The kind of words for positions and counts of iterations. -/
def countScalar : WordType := .int .long

/-- An operation on counts. -/
def countTwo (op : Operator) (a b : Term) : Term := Term.applyTwo op countScalar a b

/-- A count. -/
def countTerm (n : Int) : Term := .int .long n

/-- An integer or address as a count. -/
def countOf (v : Value) : Compile Term := do
  let v ← read v
  match v.type.scalar? with
  | some (.int k) => return Term.converted (.int k) countScalar v.term
  | _ => refuse "a count that is no integer"

/-- What is inside the parentheses of a clause. -/
def inParentheses (p : Compile α) : Compile α := do
  expect "("
  let r ← p
  expect ")"
  return r

/-- Names between commas. -/
def nameList : Nat → List String → Compile (List String)
  | 0, _ => refuse "too many names"
  | fuel + 1, done => do
      let name ← expectName
      if ← atMark "[" then refuse "a part of an array in a clause"
      if (← find? name).isNone then refuse ("an undeclared name: " ++ name)
      if ← accept "," then nameList fuel (name :: done) else return (name :: done).reverse

/-- The operator of a clause that collects values. -/
def reductionOperator : Compile String := do
  let a ← next
  let op := a.text
  if ! ["+", "-", "*", "&", "|", "^", "&&", "||", "min", "max"].contains op then
    refuse "an unknown operator of a clause"
  return op

/-- Reads clauses up to the end of the line. -/
def clauses (g : Grammar) : Nat → Clauses → Compile Clauses
  | 0, _ => refuse "too many clauses"
  | fuel + 1, c => do
      let a ← peek
      if a.kind = .lineEnd then
        skip
        return c
      else if ← accept "," then clauses g fuel c
      else
        let word := a.text
        if a.kind ≠ .name && a.kind ≠ .keyword then refuse "a malformed clause"
        match clausePlaces.lookup word with
        | some places =>
            if !(places.any c.words.contains) then refuse "a clause in a directive that does not take it"
            if word = "nowait" && c.words.contains "parallel" && !c.words.contains "target" then
              refuse "a clause in a directive that does not take it"
        | none => pure ()
        skip
        let names (keep : List String → Clauses) : Compile Clauses := do
          let names ← inParentheses (nameList 10000 [])
          clauses g fuel (keep names)
        let count (keep : Term → Clauses) : Compile Clauses := do
          let t ← inParentheses do countOf (← g .expression)
          clauses g fuel (keep t)
        match word with
        | "num_threads" => count fun t => { c with threads := some t }
        | "if" =>
            let t ← inParentheses do
              if (← peekAt 1).isMark ":" then
                skip
                skip
              truth (← read (← g .expression))
            clauses g fuel { c with condition := some t }
        | "private" => names fun l => { c with privates := c.privates ++ l }
        | "firstprivate" => names fun l => { c with copied := c.copied ++ l }
        | "lastprivate" =>
            let l ← inParentheses do
              if (← peek).text = "conditional" && (← peekAt 1).isMark ":" then
                skip
                skip
              nameList 10000 []
            clauses g fuel { c with lasting := c.lasting ++ l }
        | "shared" => names fun l => { c with shared := c.shared ++ l }
        | "reduction" =>
            let (op, l) ← inParentheses do
              if (← peekAt 1).isMark "," then
                skip
                skip
              let op ← reductionOperator
              expect ":"
              pure (op, ← nameList 10000 [])
            clauses g fuel { c with reductions := c.reductions ++ l.map (op, ·) }
        | "default" =>
            let kind ← inParentheses do pure (← next).text
            if ! ["none", "shared", "private", "firstprivate"].contains kind then refuse "an unknown default"
            clauses g fuel { c with isStrict := kind = "none" }
        | "schedule" =>
            let chunk ← inParentheses do
              if (← peekAt 1).isMark ":" || (← peekAt 1).isMark "," && ["monotonic", "nonmonotonic", "simd"].contains (← peek).text then
                skipModifiers 10
              let kind := (← next).text
              if ! ["static", "dynamic", "guided", "runtime", "auto"].contains kind then refuse "an unknown schedule"
              if ← accept "," then
                if kind = "runtime" || kind = "auto" then refuse "a schedule without parts"
                let t ← countOf (← g .expression)
                if t.intValue?.any (· ≤ 0) then warn "" "a part without iterations"
                pure (some (some t))
              else pure (if kind = "dynamic" || kind = "guided" then some none else none)
            clauses g fuel { c with chunk := chunk }
        | "collapse" =>
            let n ← inParentheses (constantInt g)
            if n < 1 then refuse "a clause with a wrong number"
            clauses g fuel { c with depth := n.toNat }
        | "ordered" =>
            if ← atMark "(" then skipParentheses
            clauses g fuel { c with isOrdered := true }
        | "nowait" => clauses g fuel { c with isEager := true }
        | "copyprivate" | "copyin" =>
            let _ ← inParentheses (nameList 10000 [])
            clauses g fuel c
        | "linear" | "aligned" | "safelen" | "simdlen" | "proc_bind" | "map" | "depend" | "untied" | "mergeable"
        | "final" | "priority" | "grainsize" | "num_tasks" | "nogroup" | "device" | "is_device_ptr"
        | "use_device_ptr" | "num_teams" | "thread_limit" | "dist_schedule" | "nontemporal" | "order" | "hint"
        | "seq_cst" | "acq_rel" | "acquire" | "release" | "relaxed" | "read" | "write" | "capture" | "compare" | "weak"
        | "fail" | "inbranch" | "notinbranch" | "uniform" | "bind" | "filter" | "defaultmap" | "allocate"
        | "in_reduction" | "task_reduction" | "threads" | "detach" | "to" | "from" | "link" | "device_type"
        | "has_device_addr" | "use_device_addr" | "doacross" | "update" =>
            skipParentheses
            clauses g fuel { c with words := c.words ++ [word] }
        | _ => refuse ("an unknown clause: " ++ word)
where
  /-- Modifiers of a schedule. -/
  skipModifiers : Nat → Compile Unit
    | 0 => refuse "too many modifiers"
    | fuel + 1 => do
        skip
        if ← accept ":" then pure ()
        else
          expect ","
          skipModifiers fuel

/-- The words at the start of a directive. -/
def leadingWords : Nat → List String → Compile (List String)
  | 0, done => return done.reverse
  | fuel + 1, done => do
      let a ← peek
      if (a.kind = .name || a.kind = .keyword) && directiveWords.contains a.text &&
          !(a.text = "update" && done = ["atomic"]) then
        skip
        leadingWords fuel (a.text :: done)
      else return done.reverse

/-- Reads a block that jumps do not leave. -/
def structured (kind : String) (p : Compile α) : Compile α := do
  let number ← modifyGet fun s => (s.regions, { s with regions := s.regions + 1 })
  let saved ← function?
  modifyFunction fun f => { f with
    breaks := .barred :: f.breaks, continues := .barred :: f.continues, selections := []
    regions := number :: f.regions, kinds := kind :: f.kinds }
  let r ← p
  match saved with
  | some old => modifyFunction fun f => { f with
      breaks := old.breaks, continues := old.continues, selections := old.selections
      regions := old.regions, kinds := old.kinds }
  | none => pure ()
  return r

/-- Refuses a directive right inside blocks of some kinds. -/
def forbidInside (kinds : List String) : Compile Unit := do
  match ← function? with
  | some f =>
      let near := f.kinds.takeWhile (· ≠ "parallel")
      if near.any kinds.contains then refuse "a directive inside a block that does not take it"
  | none => refuse "a directive outside of functions"

/-- A new variable for a thread, which hides the one that a name stands for. -/
def newPrivate (name : String) : Compile (Value × Value) := do
  let outer ← nameValue name
  if !outer.isObject then refuse "a clause about something that is no variable"
  let type := outer.type
  if type.isCounted then refuse "an array of computed length in a clause"
  let slot ← newVariable name type.unqualified 1
  modifyVariable slot fun v => { v with isKept := true, hasInitial := true }
  declare name (.object slot)
  return (outer, ⟨type.unqualified, .variable_ slot, true, false, false, "", name⟩)

/-- Copies a whole object. -/
def copyObject (target source : Value) : Compile Term := do
  if target.type.isArray then
    let size ← sizeOf target.type
    return .copy (← addressOf target) (← addressOf source) (.address size)
  else return effectOf (← writeTo { target with type := target.type.unqualified } (← read { source with type := source.type.unqualified }))

/-- The value that collecting starts with. -/
def neutralValue (op : String) (type : SourceType) : Compile Value := do
  let type := type.plain
  let number (n : Int) : Compile Value := do convertNumber type (Value.ofInt (.int .int) n)
  match op with
  | "+" | "-" | "|" | "^" | "||" => number 0
  | "*" | "&&" => number 1
  | "&" => number (-1)
  | _ =>
      match type.scalar? with
      | some (.int k) => return Value.ofInt type (if op = "min" then k.greatest else k.least)
      | some (.float k) => return Value.ofTerm type (.word (.float k) (k.ofDatum (.infinite (op = "max"))))
      | none => refuse "a clause about something that is no number"

/-- Collects a value. -/
def collect (op : String) (total part : Value) : Compile Term := do
  let total := { total with type := total.type.unqualified }
  match op with
  | "&&" | "||" =>
      let t ← truth (← read total)
      let u ← truth (← read part)
      let joined := Value.ofTerm (.int .int) (if op = "&&" then Term.both t u else .either t u)
      return effectOf (← assign total joined)
  | "min" | "max" =>
      let less ← binary (if op = "min" then "<" else ">") part total
      let found ← conditional (← truth less) false part total
      return effectOf (← assign total found)
  | "-" => return effectOf (← assignWith "+" total part)
  | op => return effectOf (← assignWith op total part)

/-- Gives the current thread its own variables; gives what is done first and what is done last. -/
def shareData (c : Clauses) : Compile (Term × Term × List (Value × Value)) := do
  let lists := c.privates ++ c.copied.filter (fun n => !c.lasting.contains n) ++ c.lasting ++ c.reductions.map (·.2)
  if lists.eraseDups.length ≠ lists.length then refuse "a variable in two clauses"
  let mut before := Term.nothing
  let mut behind := Term.nothing
  let mut lasting : List (Value × Value) := []
  for name in c.privates do
    let _ ← newPrivate name
  for name in (c.copied ++ c.lasting).eraseDups do
    let (outer, inner) ← newPrivate name
    if c.copied.contains name then before := before.andThen (← copyObject inner outer)
    if c.lasting.contains name then lasting := lasting ++ [(outer, inner)]
  for (op, name) in c.reductions do
    let (outer, inner) ← newPrivate name
    if !inner.type.isArithmetic then refuse "a clause about something that is no number"
    if inner.type.isFloat && ["&", "|", "^"].contains op then refuse "an operation on integers"
    before := before.andThen (effectOf (← writeTo inner (← neutralValue op inner.type)))
    behind := behind.andThen (← collect op outer inner)
  return (before, behind, lasting)

/-- Bars all variables of the functions around that clauses do not name. -/
def barUnnamed (c : Clauses) : Compile Unit := do
  if c.isStrict then
    let named := c.privates ++ c.copied ++ c.lasting ++ c.shared ++ c.reductions.map (·.2)
    let s ← get
    let mut seen : List String := named
    for scope in s.scopes do
      for (name, entity, _) in scope.entities.toList do
        if !seen.contains name then
          match entity with
          | .object _ =>
              seen := name :: seen
              declare name .barred
          | .global key type =>
              seen := name :: seen
              if !type.isFunction && !((s.globals[key]?).any (·.isThreadLocal)) then declare name .barred
          | _ => seen := name :: seen

/-- A block that a team runs. -/
def teamBlock (c : Clauses) (body : Compile Term) : Compile Term := do
  let number ← newFunctionNumber
  let contexts := (← get).current
  match contexts with
  | [] => refuse "a block for threads outside of functions"
  | around :: _ =>
      for name in c.shared do
        if (← find? name).isNone then refuse "an undeclared name in a clause"
      let region ← modifyGet fun s => (s.regions, { s with regions := s.regions + 1 })
      let context : FunctionContext := { (default : FunctionContext) with
        number := number, name := around.name, result := .void, isRegion := true
        regions := [region], kinds := ["parallel"] }
      openScope true
      let (body, context) ← inFunction context body
      closeBlockScope
      for label in context.labels do
        if !label.isDefined then refuse "a jump out of a block for threads"
      let symbol ← newSymbol ".team"
      addGlobal symbol { (default : Global) with
        symbol := symbol, type := .function .void .noParams .exact, isFunction := true, isStatic := true
        isDefined := true, isUsed := true, isNested := true, isDeclared := true }
      let code : FunctionCode := ⟨number, symbol, contexts.map (·.number), [], false, body⟩
      modify fun s => { s with functions := s.functions.push code }
      let closure := Term.request .closure (.args [.ofSymbol symbol])
      let threads := c.threads.getD (countTerm 0)
      let condition := c.condition.getD (.int .int 1)
      return c.setup.andThen (.request .fork (.args [closure, threads, condition]))

/-- The variable and first value of a counted loop. -/
def loopStart (g : Grammar) : Compile CountedLoop := do
  if ← beginsDeclaration (← peek) then
    let spec ← g .specifiers
    let d ← g (.declarator spec.type)
    expect "="
    let slot ← newVariable d.name d.type 1
    modifyVariable slot fun v => { v with isKept := true, hasInitial := true }
    let first ← g .assignment
    declare d.name (.object slot)
    expect ";"
    return { (default : CountedLoop) with
      name := d.name, slot := slot, type := d.type.unqualified, first := (← assigned d.type.unqualified (← read first)).term }
  else
    let name ← expectName
    let outer ← nameValue name
    expect "="
    let first ← g .assignment
    expect ";"
    let slot ← newVariable name outer.type.unqualified 1
    modifyVariable slot fun v => { v with isKept := true, hasInitial := true }
    declare name (.object slot)
    return { (default : CountedLoop) with
      name := name, slot := slot, type := outer.type.unqualified, outer := some outer
      first := (← assigned outer.type.unqualified (← read first)).term }

/-- The comparison that ends a counted loop: its operator and bound. -/
def loopBound (g : Grammar) (name : String) : Compile (String × Value) := do
  let isRelation (a : Lexeme) : Bool := a.kind = .mark && ["<", "<=", ">", ">=", "!="].contains a.text
  let turned : String → String
    | "<" => ">"
    | "<=" => ">="
    | ">" => "<"
    | ">=" => "<="
    | op => op
  if (← peek).text = name && isRelation (← peekAt 1) then
    skip
    let op := (← next).text
    let bound ← read (← g .choice)
    return (op, bound)
  else
    let first ← g .cast
    let bound ← operators g 100000 8 first
    let a ← next
    if !isRelation a || (← peek).text ≠ name then refuse "a loop that cannot be counted"
    skip
    return (turned a.text, ← read bound)

/-- How much a counted loop adds to its variable each time. -/
def loopStep (g : Grammar) (name : String) : Compile Value := do
  let one := Value.ofInt (.int .int) 1
  let a ← next
  let b ← peek
  if a.isMark "++" && b.text = name then
    skip
    return one
  else if a.isMark "--" && b.text = name then
    skip
    unary "-" one
  else if a.text ≠ name then refuse "a loop that cannot be counted"
  else
    skip
    match b.text with
    | "++" => return one
    | "--" => unary "-" one
    | "+=" => read (← g .assignment)
    | "-=" => unary "-" (← read (← g .assignment))
    | "=" =>
        if (← peek).text = name then
          skip
          if ← accept "+" then read (← g .assignment)
          else if ← accept "-" then unary "-" (← read (← g .assignment))
          else refuse "a loop that cannot be counted"
        else
          let first ← g .cast
          let step ← operators g 100000 10 first
          expect "+"
          if (← peek).text ≠ name then refuse "a loop that cannot be counted"
          skip
          read step
    | _ => refuse "a loop that cannot be counted"

/-- Reads the head of a counted loop. -/
def loopHead (g : Grammar) : Compile CountedLoop := do
  if !(← acceptKeyword "for") then refuse "a loop is expected"
  expect "("
  let loop ← loopStart g
  let scalar := (loop.type.scalar?).getD (.int .int)
  if !loop.type.isInteger && !loop.type.isPointer then refuse "a loop that cannot be counted"
  if ← atMark ";" then refuse "a loop that cannot be counted"
  let (op, bound) ← loopBound g loop.name
  expect ";"
  if ← atMark ")" then refuse "a loop that cannot be counted"
  let step ← loopStep g loop.name
  expect ")"
  let unit ← match loop.type.target? with
    | some target => do pure (countTerm (← sizeOf target))
    | none => pure (countTerm 1)
  let (s1, first) ← repeatable countScalar (Term.converted scalar countScalar loop.first)
  let bound ← match bound.type.scalar? with
    | some (.int k) => pure (Term.converted (.int k) countScalar bound.term)
    | _ => refuse "a loop that cannot be counted"
  let (s2, bound) ← repeatable countScalar bound
  let (s3, step) ← repeatable countScalar (countTwo .mul (← countOf step) unit)
  let one := countTerm 1
  let up (limit : Term) : Term :=
    Term.chosen (countTwo .lt first limit)
      (countTwo .div (countTwo .sub (countTwo .add (countTwo .sub limit first) step) one) step) (countTerm 0)
  let down (limit : Term) : Term :=
    Term.chosen (countTwo .gt first limit)
      (countTwo .div (countTwo .sub (countTwo .sub (countTwo .sub first limit) step) one)
        (Term.applyOne .negate countScalar step)) (countTerm 0)
  let count := match op with
    | "<" => up bound
    | "<=" => up (countTwo .add bound one)
    | ">" => down bound
    | ">=" => down (countTwo .sub bound one)
    | _ => countTwo .div (countTwo .sub bound first) step
  let (s4, count) ← repeatable countScalar count
  return { loop with
    first := first, step := step, count := count, setup := s1.andThen (s2.andThen (s3.andThen s4)) }

/-- The heads of loops inside loops. -/
def loopHeads (g : Grammar) : Nat → Compile (List CountedLoop)
  | 0 => return []
  | depth + 1 => do
      let loop ← loopHead g
      return loop :: (← loopHeads g depth)

/-- Gives the variables of loops their values in an iteration. -/
def loopValues (loops : List CountedLoop) (iteration : Term) : Term :=
  let rec values : List CountedLoop → Term
    | [] => .nothing
    | loop :: rest =>
        let inner := rest.foldl (fun t l => countTwo .mul t l.count) (countTerm 1)
        let index := if rest.isEmpty then iteration else countTwo .div iteration inner
        let index := if loops.length = 1 then index else countTwo .mod index loop.count
        let value := countTwo .add loop.first (countTwo .mul index loop.step)
        let scalar := (loop.type.scalar?).getD (.int .int)
        (Term.sequence (.set loop.slot (Term.converted countScalar scalar value)) .nothing).andThen (values rest)
  values loops

/-- The variable of a block's thread that says which iteration it is in. -/
def iterationName : String := ".iteration"

/-- Reads a loop whose iterations are shared by the threads of the team, or run by one thread. -/
def sharedLoop (g : Grammar) (c : Clauses) (isShared : Bool) (kind : String) : Compile Term := do
  openScope false
  let loopNames := c
  let loops ← loopHeads g (max 1 c.depth)
  let names := loops.map (·.name)
  let dropped (l : List String) : List String := l.filter fun n => !names.contains n
  if c.reductions.any fun r => names.contains r.2 then refuse "the variable of a loop in a clause"
  if c.copied.any names.contains then refuse "the variable of a loop in a clause"
  let _ := loopNames
  let (before, behind, lasting) ← shareData
    { c with privates := dropped c.privates, lasting := dropped c.lasting }
  let total := loops.foldl (fun t l => countTwo .mul t l.count) (countTerm 1)
  let (s1, total) ← repeatable countScalar total
  let k ← newTemporary countScalar
  let last ← newTemporary countScalar
  let setup := (Term.all (loops.map (·.setup))).andThen s1
  let cont ← newLabel
  openScope false
  let slot ← newTemporary countScalar
  declare iterationName (.object slot)
  let body ← structured (if c.isOrdered then kind ++ " ordered" else kind) do
    modifyFunction fun f => { f with continues := .to cont f.cleanups.length :: f.continues }
    let t ← g .statement
    return t
  closeScope
  let ends := countTwo .eq (.get k) (countTwo .sub total (countTerm 1))
  let finals ← lasting.mapM fun (outer, inner) => copyObject outer inner
  let loopFinals ← loops.mapM fun l => do
    match l.outer with
    | some outer =>
        if c.lasting.contains l.name || !isShared then
          let scalar := (l.type.scalar?).getD (.int .int)
          let value := countTwo .add l.first (countTwo .mul l.count l.step)
          return effectOf (← writeTo { outer with type := outer.type.unqualified }
            (Value.ofTerm l.type (Term.converted countScalar scalar value)))
        else return .nothing
    | none => return .nothing
  let final := (Term.all finals).andThen (Term.all loopFinals)
  let finish := if final matches .nothing then Term.nothing else Term.choose ends final .nothing
  let turn := if c.isOrdered && isShared then
      (Term.request .awaitTurn (.args [.get k])).andThen (.request .passTurn .nothing)
    else .nothing
  let top ← newLabel
  let test ← newLabel
  let set (v : Nat) (t : Term) : Term := .sequence (.set v t) .nothing
  let loop := Term.all [.jump test, .label top, set slot (.get k), loopValues loops (.get k), body, .label cont, finish,
    turn, set k (countTwo .add (.get k) (countTerm 1)), .label test,
    .branch false (countTwo .lt (.get k) (.get last)) top]
  let code ← if !isShared then pure (Term.all [set k (countTerm 0), set last total, loop])
    else do
      let signed (t : Term) : Term := Term.converted (.int .int) countScalar t
      let (s2, rank) ← repeatable countScalar (signed (.request .threadNumber .nothing))
      let (s3, team) ← repeatable countScalar (signed (.request .threadCount .nothing))
      let starts := if c.isOrdered then
          Term.choose (.request .isFirst (.args [.int .int 0])) (.request .startTurns (.args [countTerm 0])) .nothing
        else .nothing
      match c.chunk with
      | none =>
          let share := countTwo .div total team
          let rest := countTwo .mod total team
          let (s4, share) ← repeatable countScalar share
          let (s5, rest) ← repeatable countScalar rest
          let bonus := countTwo .lt rank rest
          let begin_ := countTwo .add (countTwo .mul rank share) (Term.chosen bonus rank rest)
          pure (Term.all [starts, s2, s3, s4, s5, set k begin_,
            set last (countTwo .add (.get k) (countTwo .add share (signed bonus))), loop])
      | some size =>
          let (s4, size) ← repeatable countScalar (size.getD (countTerm 1))
          let base ← newTemporary countScalar
          let outerTop ← newLabel
          let outerTest ← newLabel
          let limit := countTwo .add (.get base) size
          pure (Term.all [starts, s2, s3, s4, set base (countTwo .mul rank size), .jump outerTest, .label outerTop,
            set k (.get base), set last (Term.chosen (countTwo .lt limit total) limit total), loop,
            set base (countTwo .add (.get base) (countTwo .mul team size)), .label outerTest,
            .branch false (countTwo .lt (.get base) total) outerTop])
  closeBlockScope
  let barrier := if isShared && !c.isEager then Term.request .barrier .nothing else .nothing
  return c.setup.andThen (setup.andThen (before.andThen (code.andThen (behind.andThen barrier))))

/-- Reads the sections of a block up to its closing brace. -/
def sectionList (g : Grammar) : Nat → List Term → Term → Bool → Compile (List Term)
  | 0, _, _, _ => refuse "too many sections"
  | fuel + 1, done, current, isStarted => do
      if ← accept "\x7d" then return (if isStarted then current :: done else done).reverse
      else if (← atThreadDirective) && (← peekAt 2).text = "section" && (← peekAt 3).kind = .lineEnd then
        let _ ← directiveLexemes
        let done := if isStarted then current :: done else done
        let t ← structured "sections" (g .statement)
        sectionList g fuel done t true
      else if (← peek).kind = .nothing then refuse "a brace is not closed"
      else
        let t ← structured "sections" (g .statement)
        if isStarted && !done.isEmpty then refuse "a statement outside of sections"
        sectionList g fuel done (current.andThen t) true

/-- Reads a block of sections. -/
def sharedSections (g : Grammar) (c : Clauses) : Compile Term := do
  openScope false
  let (before, behind, lasting) ← shareData c
  expect "\x7b"
  let found ← sectionList g 100000 [] .nothing false
  let finals ← lasting.mapM fun (outer, inner) => copyObject outer inner
  let count := found.length
  let signed (t : Term) : Term := Term.converted (.int .int) countScalar t
  let (s1, rank) ← repeatable countScalar (signed (.request .threadNumber .nothing))
  let (s2, team) ← repeatable countScalar (signed (.request .threadCount .nothing))
  let parts := found.zipIdx.map fun (t, i) =>
    let mine := countTwo .eq (countTwo .mod (countTerm i) team) rank
    let t := if i + 1 = count then t.andThen (Term.all finals) else t
    Term.choose mine (t.andThen .nothing) .nothing
  closeBlockScope
  let barrier := if c.isEager then .nothing else Term.request .barrier .nothing
  return Term.all ([c.setup, before, s1, s2] ++ parts ++ [behind, barrier])

/-- The names of variables of the current function that a statement mentions. -/
def mentioned : Compile (List String) := do
  let s ← get
  let number := (s.current.head?.map (·.number)).getD 0
  let names := (statementLexemes s.input).filterMap fun a => if a.kind = .name then some a.text else none
  let found ← names.eraseDups.filterM fun name => do
    match ← find? name with
    | some (.object slot) => do
        let v ← variableOf slot
        return v.info.owner = number && !v.type.isCounted
    | _ => return false
  return found
where
  /-- The lexemes up to the end of the next statement, or more. -/
  statementLexemes (input : List Lexeme) : List Lexeme :=
    let rec go (depth : Nat) (done : List Lexeme) : List Lexeme → List Lexeme
      | [] => done
      | a :: rest =>
          let depth' := if a.isMark "\x7b" || a.isMark "(" then depth + 1
            else if a.isMark "\x7d" || a.isMark ")" then depth - 1 else depth
          if depth' = 0 && (a.isMark ";" || a.isMark "\x7d") then a :: done
          else go depth' (a :: done) rest
    go 0 [] input

/-- Checks the statement of a change at once. -/
def checkAtomic (words : List String) : Compile Unit := do
  let input := ((← get).input.takeWhile fun a => !a.isMark ";").map (·.text)
  let plain := !words.any ["read", "write", "capture", "compare"].contains
  if plain then
    let left := input.takeWhile fun t => t ≠ "=" && (computingMarks.lookup t).isNone
    match input.drop left.length with
    | "=" :: right =>
        let isPart := right.take left.length = left || right.drop (right.length - left.length) = left
        if !isPart then refuse "a statement that is no change of one object"
    | _ :: _ => pure ()
    | [] => if !(input.contains "++" || input.contains "--") then refuse "a statement that is no change of one object"
  else if words.contains "read" || words.contains "write" then
    if !input.contains "=" then refuse "a statement that is no change of one object"

/-- The blocks that shared loops, sections and barriers may not be right inside of. -/
def closedKinds : List String :=
  ["for", "for ordered", "sections", "single", "critical", "ordered", "master", "task", "taskloop"]

/-- Reads what a directive for threads stands in front of, and gives its code. -/
def threadStatement (g : Grammar) (c : Clauses) : Compile Term := do
  let words := c.words.filter fun w => ! ["target", "teams", "distribute"].contains w
  let has (w : String) : Bool := words.contains w
  if has "parallel" then
    let rest := { c with
      words := words.filter (· ≠ "parallel"), setup := .nothing, threads := none, condition := none }
    teamBlock c do
      barUnnamed c
      if rest.words.any ["for", "sections", "loop", "simd"].contains then
        if has "sections" then sharedSections g { rest with isEager := true }
        else if has "for" || has "loop" then sharedLoop g { rest with isEager := true } true "for"
        else sharedLoop g rest false "simd"
      else
        let (before, behind, _) ← shareData c
        let body ← if has "master" || has "masked" then do
            let t ← structured "master" (g .statement)
            pure (Term.choose (Term.applyOne .not (.int .int) (.request .threadNumber .nothing)) t .nothing)
          else g .statement
        return before.andThen (body.andThen behind)
  else if has "for" || (has "loop" && !has "simd") then
    forbidInside closedKinds
    sharedLoop g c true "for"
  else if has "sections" then
    forbidInside closedKinds
    sharedSections g c
  else if has "simd" || has "taskloop" || c.words.contains "distribute" then sharedLoop g c false "simd"
  else if has "single" then
    forbidInside closedKinds
    openScope false
    let (before, _, _) ← shareData c
    let t ← structured "single" (g .statement)
    closeBlockScope
    let first := Term.request .isFirst (.args [.int .int 1])
    let barrier := if c.isEager then .nothing else Term.request .barrier .nothing
    return (Term.choose first (before.andThen t) .nothing).andThen barrier
  else if has "master" || has "masked" then
    forbidInside ["for", "for ordered", "sections", "single", "task", "taskloop"]
    let t ← structured "master" (g .statement)
    return .choose (Term.applyOne .not (.int .int) (.request .threadNumber .nothing)) t .nothing
  else if has "critical" then structured "critical" (g .statement)
  else if has "ordered" then
    match ← function? with
    | some f =>
        let near := f.kinds.takeWhile (· ≠ "parallel")
        if near.any ["for", "critical", "ordered", "task"].contains then refuse "an order outside of an ordered loop"
        let wait ← if near.contains "for ordered" then do
            match ← find? iterationName with
            | some (.object slot) => pure (Term.request .awaitTurn (.args [.get slot]))
            | _ => pure .nothing
          else pure .nothing
        let t ← structured "ordered" (g .statement)
        return wait.andThen t
    | none => refuse "a directive outside of functions"
  else if has "atomic" then
    checkAtomic words
    structured "critical" (g .statement)
  else if has "task" then
    openScope false
    let given := c.privates ++ c.copied ++ c.shared
    let names := (← mentioned).filter fun n => !given.contains n
    barUnnamed c
    let (before, _, _) ← shareData { c with copied := c.copied ++ names }
    let t ← structured "task" (g .statement)
    closeBlockScope
    return c.setup.andThen (before.andThen t)
  else
    openScope false
    let (before, behind, _) ← shareData c
    let t ← structured "block" (g .statement)
    closeBlockScope
    return c.setup.andThen (before.andThen (t.andThen behind))

/-- Names of variables that each thread has for itself. -/
def ownNames : Compile Unit := do
  let names ← inParentheses (nameList 10000 [])
  for name in names do
    match ← find? name with
    | some (.global key type) =>
        if type.isFunction then refuse "a function in a directive about variables"
        if ((← global? key).map (·.isUsed)).getD false then refuse "a variable of threads is used before it is declared so"
        modifyGlobal key fun x => { x with isThreadLocal := true }
    | _ => refuse "a local variable cannot be one of threads"

/-- Reads a directive for threads inside a function. -/
def threadDirective (g : Grammar) : Compile Term := do
  skip
  skip
  let words ← leadingWords 20 []
  let alone (t : Term) : Compile Term := do
    let c ← clauses g 1000 { (default : Clauses) with words := words }
    let _ := c
    return t
  match words with
  | [] => refuse "an unknown directive for threads"
  | ["barrier"] =>
      if (← peek).kind ≠ .lineEnd then refuse "a malformed directive"
      skip
      forbidInside closedKinds
      return .request .barrier .nothing
  | ["taskwait"] | ["taskyield"] | ["nothing"] => alone .nothing
  | ["flush"] =>
      let _ ← rest
      return .nothing
  | ["section"] => refuse "a section outside of sections"
  | ["threadprivate"] =>
      ownNames
      if (← peek).kind ≠ .lineEnd then refuse "a malformed directive"
      skip
      return .nothing
  | "declare" :: _ | "end" :: _ | "requires" :: _ | "cancel" :: _ | "cancellation" :: _ | "allocate" :: _
  | "depobj" :: _ | "assumes" :: _ | "begin" :: _ | "error" :: _ =>
      let _ ← rest
      return .nothing
  | ["target", "enter", "data"] | ["target", "exit", "data"] | ["target", "update"] =>
      let _ ← rest
      return .nothing
  | ["critical"] =>
      if ← accept "(" then
        let _ ← expectName
        expect ")"
      let c ← clauses g 1000 { (default : Clauses) with words := words }
      threadStatement g c
  | words =>
      let saved ← takeSetup
      let c ← clauses g 1000 { (default : Clauses) with words := words }
      let setup ← takeSetup
      let t ← threadStatement g { c with setup := setup }
      return saved.andThen t
where
  /-- The rest of the line. -/
  rest : Compile (List Lexeme) := do
    let input := (← get).input
    let inside := input.takeWhile fun a => a.kind ≠ .lineEnd
    modify fun s => { s with input := (input.drop inside.length).drop 1 }
    return inside

/-- Reads a directive for threads outside of functions. -/
def outerThreadDirective (g : Grammar) : Compile Unit := do
  let next ← peekAt 2
  if ["threadprivate", "declare", "end", "requires", "begin", "assumes", "allocate", "nothing", "error"].contains next.text then
    let _ ← threadDirective g
  else refuse "a directive for threads outside of functions"

end Compile

end KernelForge.Compiler
