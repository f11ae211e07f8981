import KernelForge.Host.Library

/-!
# The processor

Instructions run on a stack of words. A call puts the slots of its function on top of its arguments and
takes memory for its objects from the stack segment of its thread. The threads of a team run one after
the other: the next one runs when a thread ends or has to wait.
-/

namespace KernelForge.Host

open Code Compiler

/-- A module that has been loaded: its code and where its names are. -/
structure LinkedModule where
  code : Array Instruction
  functions : Array FunctionInfo
  symbols : Std.HashMap String Nat
  deriving Inhabited

/-- The modules of a program, by number. -/
abbrev Program := Array LinkedModule

/-- The distance between the addresses of functions. -/
def functionStep : Nat := 16

/-- The addresses of the code of one module. -/
def moduleSpan : Nat := 0x100000000

/-- Labels have addresses above the functions of their module. -/
def labelBase : Nat := 0x80000000

/-- Functions of the library have addresses above all modules. -/
def libraryBase : Nat := codeBase + 0x400000000000

/-- Functions with surroundings have addresses above those. -/
def closureBase : Nat := codeBase + 0x600000000000

/-- The address of a function of a module. -/
def functionAddress (module function : Nat) : Nat := codeBase + module * moduleSpan + function * functionStep

/-- A caller that waits for a result. -/
structure Caller where
  code : Array Instruction
  module : Nat
  pc : Nat
  slots : Nat
  floor : Nat
  /-- How many words are left on the stack. -/
  height : Nat
  frame : Nat
  top : Nat
  link : Nat
  wants : Bool
  deriving Inhabited

/-- Where a thread is in its work. -/
structure Registers where
  module : Nat
  /-- The position of the first slot. -/
  slots : Nat
  /-- The position of the first word above the slots. -/
  floor : Nat
  frame : Nat
  top : Nat
  /-- The address of the frame around the current one. -/
  link : Nat
  callers : List Caller
  deriving Inhabited

/-- A thread that does not run. -/
structure Thread where
  code : Array Instruction
  pc : Nat
  stack : Array Nat
  registers : Registers
  segment : Nat
  /-- How often it has asked whether it is the first. -/
  meetings : Nat
  deriving Inhabited

/-- What a thread waits for. -/
inductive Waiting where
  | nothing
  | barrier
  | turn (n : Nat)
  | finished
  deriving DecidableEq, Repr, Inhabited

/-- A team of threads. -/
structure Team where
  size : Nat
  threads : Array (Thread × Waiting)
  rank : Nat
  /-- How often a thread was the first. -/
  firsts : Nat
  turn : Nat
  /-- The segment of its first thread. -/
  segment : Nat
  parent : Thread
  deriving Inhabited

/-- What belongs to the running thread and its teams. -/
structure Context where
  registers : Registers
  segment : Nat
  meetings : Nat
  teams : List Team
  closures : Array (Nat × Nat × Nat)
  deriving Inhabited

/-- Everything that runs. -/
structure Processor where
  code : Array Instruction
  pc : Nat
  stack : Array Nat
  space : Space
  context : Context
  deriving Inhabited

namespace Processor

/-- The number of the current thread and the size of its team. -/
def rankAndSize (context : Context) : Nat × Nat :=
  match context.teams with
  | t :: _ => (t.rank, t.size)
  | [] => (0, 1)

/-- The stack of a thread can be so large. -/
def stackLimit : Nat := 0x800000

/-- How deep calls may nest. -/
def callLimit : Nat := 100000

/-- Puts words on the stack. -/
def pushZeros (stack : Array Nat) (count : Nat) : Array Nat := count.fold (fun _ _ s => s.push 0) stack

/-- Takes words from the stack, the last one first. -/
def popWords (done : List Nat) : Nat → Array Nat → List Nat × Array Nat
  | 0, stack => (done, stack)
  | n + 1, stack =>
      let w := stack.back?.getD 0
      popWords (w :: done) n stack.pop

/-- Words with zeros under the topmost ones. -/
def padWords (stack : Array Nat) (count missing : Nat) : Array Nat :=
  let (top, rest) := popWords [] count stack
  top.foldl (fun s w => s.push w) (pushZeros rest missing)

/-- Goes into a function. -/
def enter (program : Program) (module function count : Nat) (wants : Bool) (link : Nat) :
    Processor → Except Fault Processor
  | ⟨code, pc, stack, space, ⟨r, segment, meetings, teams, closures⟩⟩ =>
      let m := program.getD module default
      if h : function < m.functions.size then
        let f := m.functions[function]
        let height := stack.size - count
        let stack := if count < f.params then padWords stack count (f.params - count) else stack
        let slots := stack.size - f.params
        let stack := pushZeros stack (f.slots - f.params)
        let caller : Caller :=
          ⟨code, r.module, pc, r.slots, r.floor, height, r.frame, r.top, r.link, wants⟩
        let top := r.top + f.frameBytes
        let used := top - segmentAddress segment 0
        if stackLimit < used || callLimit < stack.size / 4 then .error .outOfStack
        else
          let space := if f.frameBytes = 0 then space else space.ensure segment used
          let space := if f.isInner then
              match space.write? r.top 8 (UInt64.ofNat link) with
              | some space => space
              | none => default
            else space
          .ok ⟨m.code, f.entry, stack, space,
            ⟨⟨module, slots, slots + f.slots, r.top, top, link, caller :: r.callers⟩, segment, meetings, teams,
              closures⟩⟩
      else .error .badInstruction

/-- The address of a frame some levels around the current one. -/
def outerFrame (space : Space) (link : Nat) : Nat → Option Nat
  | 0 => none
  | 1 => some link
  | n + 2 =>
      match space.read? link 8 with
      | some next => outerFrame space next.toNat (n + 1)
      | none => none

/-- Calls the function at an address. -/
def callAddress (program : Program) (address count : Nat) (wants : Bool) (p : Processor) : Except Fault Processor :=
  if address < codeBase then .error (.badAddress address)
  else if closureBase ≤ address then
    match p.context.closures[(address - closureBase) / functionStep]? with
    | some (module, function, link) => enter program module function count wants link p
    | none => .error (.badAddress address)
  else if libraryBase ≤ address then
    match p with
    | ⟨code, pc, stack, space, context⟩ =>
        let (args, stack) := popWords [] count stack
        let (rank, size) := rankAndSize context
        match Library.call ((address - libraryBase) / functionStep) args.reverse ⟨rank, size, context.teams.length⟩ space with
        | .ok (w, space) => .ok ⟨code, pc, if wants then stack.push w else stack, space, context⟩
        | .error e => .error e
  else
    let offset := address - codeBase
    enter program (offset / moduleSpan) (offset % moduleSpan / functionStep) count wants 0 p

/-- The thread that runs, put aside. -/
def park : Processor → Thread × Space × List Team × Array (Nat × Nat × Nat)
  | ⟨code, pc, stack, space, ⟨registers, segment, meetings, teams, closures⟩⟩ =>
      (⟨code, pc, stack, registers, segment, meetings⟩, space, teams, closures)

/-- Lets a thread run. -/
def unpark (t : Thread) (space : Space) (teams : List Team) (closures : Array (Nat × Nat × Nat)) : Processor :=
  ⟨t.code, t.pc, t.stack, space, ⟨t.registers, t.segment, t.meetings, teams, closures⟩⟩

/-- Lets the next thread of a team run, or the one that the team belongs to. -/
def schedule (team : Team) (rest : List Team) (space : Space) (closures : Array (Nat × Nat × Nat)) :
    Except Fault Processor :=
  let isReady (w : Waiting) : Bool := w = .nothing || w = .turn team.turn
  let open_ := team.threads.filter fun (_, w) => w ≠ .finished
  if open_.isEmpty then .ok (unpark team.parent (space.drop team.segment) rest closures)
  else
    let threads := if open_.all fun (_, w) => w = .barrier then
        team.threads.map fun (t, w) => (t, if w = .barrier then .nothing else w)
      else team.threads
    match threads.findIdx? fun (_, w) => isReady w with
    | some i =>
        let t := (threads.getD i default).1
        let team := { team with threads := threads.set! i (default, .nothing), rank := i }
        .ok (unpark t space (team :: rest) closures)
    | none => .error .stopped

/-- Lets the running thread wait. -/
def wait (what : Waiting) (p : Processor) : Except Fault Processor :=
  match park p with
  | (t, space, team :: rest, closures) =>
      schedule { team with threads := team.threads.set! team.rank (t, what) } rest space closures
  | (t, space, [], closures) => .ok (unpark t space [] closures)

/-- Starts a team on a function with surroundings. -/
def fork (program : Program) (closure asked condition : Nat) (p : Processor) : Except Fault Processor :=
  match p.context.closures[(closure - closureBase) / functionStep]? with
  | none => .error (.badAddress closure)
  | some (module, function, link) =>
      match park p with
      | (parent, space, teams, closures) =>
          let active := (teams.filter fun t => 1 < t.size).length
          let wanted := if asked = 0 || twoPow 31 ≤ asked then space.threads else asked
          let size := if condition = 0 || space.levels ≤ active then 1 else max 1 (min wanted 64)
          let m := program.getD module default
          let f := m.functions.getD function default
          let first := space.segments.size
          let start (i : Nat) : Thread :=
            let segment := first + i
            let base := segmentAddress segment 0
            ⟨m.code, f.entry, pushZeros #[] f.slots,
              ⟨module, 0, f.slots, base, base + f.frameBytes, link, []⟩, segment, 0⟩
          let space := (List.range size).foldl
            (fun (space : Space) i =>
              let space := space.ensure (first + i) (max 16 f.frameBytes)
              match space.write? (segmentAddress (first + i) 0) 8 (UInt64.ofNat link) with
              | some space => space
              | none => default) space
          schedule ⟨size, (Array.range size).map fun i => (start i, .nothing), 0, 0, 0, first, parent⟩ teams space closures

/-- Ends the running thread of a team. -/
def finishThread (p : Processor) : Except Fault Processor :=
  match park p with
  | (_, space, team :: rest, closures) =>
      schedule { team with threads := team.threads.set! team.rank (default, .finished) } rest space closures
  | (t, space, [], closures) => .ok (unpark t space [] closures)

/-- What the threads of a team and the frames of functions are asked. -/
def request (program : Program) (r : Request) : Processor → Except Fault Processor
  | ⟨code, pc, stack, space, context⟩ =>
      let (args, stack) := popWords [] r.shape.1 stack
      let give (w : Nat) (space : Space) (context : Context) : Except Fault Processor :=
        .ok ⟨code, pc, stack.push w, space, context⟩
      let (rank, size) := rankAndSize context
      match r, args with
      | .threadNumber, _ => give rank space context
      | .threadCount, _ => give size space context
      | .top, _ => give context.registers.top space context
      | .setTop, [a] =>
          match context with
          | ⟨r, segment, meetings, teams, closures⟩ =>
              .ok ⟨code, pc, stack, space, ⟨{ r with top := a }, segment, meetings, teams, closures⟩⟩
      | .allocate, [n] =>
          match context with
          | ⟨r, segment, meetings, teams, closures⟩ =>
              let top := r.top + roundUp n 64
              let used := top - segmentAddress segment 0
              if stackLimit < used then .error .outOfStack
              else
                .ok ⟨code, pc, stack.push r.top, space.ensure segment used,
                  ⟨{ r with top := top }, segment, meetings, teams, closures⟩⟩
      | .closure, [address, link] =>
          let offset := address - codeBase
          let entry := (offset / moduleSpan, offset % moduleSpan / functionStep, link)
          match context.closures.findIdx? (· = entry) with
          | some i => give (closureBase + i * functionStep) space context
          | none =>
              give (closureBase + context.closures.size * functionStep) space
                { context with closures := context.closures.push entry }
      | .threadPlace, [address, stride] => give (address + rank * stride) space context
      | .isFirst, _ =>
          match context with
          | ⟨registers, segment, meetings, team :: teams, closures⟩ =>
              if team.firsts ≤ meetings then
                .ok ⟨code, pc, stack.push 1, space,
                  ⟨registers, segment, meetings + 1, { team with firsts := meetings + 1 } :: teams, closures⟩⟩
              else
                .ok ⟨code, pc, stack.push 0, space, ⟨registers, segment, meetings + 1, team :: teams, closures⟩⟩
          | context => give 1 space context
      | .barrier, _ =>
          if size = 1 then .ok ⟨code, pc, stack, space, context⟩
          else wait .barrier ⟨code, pc, stack, space, context⟩
      | .startTurns, [n] =>
          match context with
          | ⟨registers, segment, meetings, team :: teams, closures⟩ =>
              .ok ⟨code, pc, stack, space, ⟨registers, segment, meetings, { team with turn := n } :: teams, closures⟩⟩
          | context => .ok ⟨code, pc, stack, space, context⟩
      | .passTurn, _ =>
          match context with
          | ⟨registers, segment, meetings, team :: teams, closures⟩ =>
              .ok ⟨code, pc, stack, space,
                ⟨registers, segment, meetings, { team with turn := team.turn + 1 } :: teams, closures⟩⟩
          | context => .ok ⟨code, pc, stack, space, context⟩
      | .awaitTurn, [n] =>
          if size = 1 || (context.teams.head?).any (·.turn = n) then .ok ⟨code, pc, stack, space, context⟩
          else wait (.turn n) ⟨code, pc, stack, space, context⟩
      | .fork, [closure, n, condition] => fork program closure n condition ⟨code, pc, stack, space, context⟩
      | .frameOf, _ => give context.registers.frame space context
      | .trap, _ => .error .stopped
      | _, _ => .error .badInstruction

/-- Goes back to the caller, with a word or none. -/
def leave (hasWord : Bool) : Processor → Except Fault (Bool × Processor)
  | ⟨code, pc, stack, space, ⟨r, segment, meetings, teams, closures⟩⟩ =>
      let w := if hasWord then stack.back?.getD 0 else 0
      match r.callers with
      | c :: rest =>
          let stack := stack.shrink c.height
          let stack := if c.wants then stack.push w else stack
          .ok (false, ⟨c.code, c.pc, stack, space,
            ⟨⟨c.module, c.slots, c.floor, c.frame, c.top, c.link, rest⟩, segment, meetings, teams, closures⟩⟩)
      | [] =>
          match teams with
          | [] => .ok (true, ⟨code, pc, #[w], space, ⟨r, segment, meetings, [], closures⟩⟩)
          | team :: rest =>
              match finishThread ⟨code, pc, stack, space, ⟨r, segment, meetings, team :: rest, closures⟩⟩ with
              | .ok p => .ok (false, p)
              | .error e => .error e

/-- The case that a number selects. -/
def selectCase (n : Int) (otherwise : Nat) : List (Int × Int × Nat) → Nat
  | [] => otherwise
  | (a, b, target) :: rest => if a ≤ n && n ≤ b then target else selectCase n otherwise rest

/-- Runs instructions until the first function ends. -/
def run (program : Program) :
    Nat → Array Instruction → Nat → Array Nat → Space → Context → Except Fault (Nat × Space)
  | 0, _, _, _, _, _ => .error .outOfFuel
  | fuel + 1, code, pc, stack, space, context =>
      if h : pc < code.size then
        match code[pc] with
        | .word w => run program fuel code (pc + 1) (stack.push w) space context
        | .get i =>
            let w := stack.getD (context.registers.slots + i) 0
            run program fuel code (pc + 1) (stack.push w) space context
        | .set i =>
            let w := stack.back?.getD 0
            run program fuel code (pc + 1) (stack.pop.setIfInBounds (context.registers.slots + i) w) space context
        | .keep i =>
            let w := stack.back?.getD 0
            run program fuel code (pc + 1) (stack.setIfInBounds (context.registers.slots + i) w) space context
        | .drop => run program fuel code (pc + 1) stack.pop space context
        | .frame offset =>
            run program fuel code (pc + 1) (stack.push (context.registers.frame + offset)) space context
        | .outer levels offset =>
            match outerFrame space context.registers.link levels with
            | some a => run program fuel code (pc + 1) (stack.push (a + offset)) space context
            | none => .error .badInstruction
        | .two op s =>
            let b := stack.back?.getD 0
            let stack := stack.pop
            let a := stack.back?.getD 0
            let stack := stack.pop
            match op.result? s a b with
            | some w => run program fuel code (pc + 1) (stack.push w) space context
            | none => .error .stopped
        | .one op s =>
            let a := stack.back?.getD 0
            run program fuel code (pc + 1) (stack.pop.push (op.apply s a)) space context
        | .convert s t =>
            let a := stack.back?.getD 0
            run program fuel code (pc + 1) (stack.pop.push (s.convert t a)) space context
        | .load s =>
            let a := stack.back?.getD 0
            match space.load? s a with
            | some w => run program fuel code (pc + 1) (stack.pop.push w) space context
            | none => .error (.badAddress a)
        | .store s =>
            let w := stack.back?.getD 0
            let stack := stack.pop
            let a := stack.back?.getD 0
            match space.store? s a w with
            | some space => run program fuel code (pc + 1) stack.pop space context
            | none => .error (.badAddress a)
        | .storeKeep s =>
            let w := stack.back?.getD 0
            let stack := stack.pop
            let a := stack.back?.getD 0
            match space.store? s a w with
            | some space => run program fuel code (pc + 1) (stack.pop.push w) space context
            | none => .error (.badAddress a)
        | .jump target => run program fuel code target stack space context
        | .jumpAt depth target =>
            run program fuel code target (stack.shrink (context.registers.floor + depth)) space context
        | .branch onZero target =>
            let w := stack.back?.getD 0
            run program fuel code (if (w = 0) = onZero then target else pc + 1) stack.pop space context
        | .select kind cases otherwise =>
            let w := stack.back?.getD 0
            run program fuel code (selectCase (kind.value w) otherwise cases) stack.pop space context
        | .jumpTo =>
            let w := stack.back?.getD 0
            run program fuel code ((w - codeBase) % moduleSpan - labelBase) stack.pop space context
        | .labelAddress target =>
            let w := codeBase + context.registers.module * moduleSpan + labelBase + target
            run program fuel code (pc + 1) (stack.push w) space context
        | .copy =>
            let n := stack.back?.getD 0
            let stack := stack.pop
            let source := stack.back?.getD 0
            let stack := stack.pop
            let target := stack.back?.getD 0
            match space.copy? target source n with
            | some space => run program fuel code (pc + 1) stack.pop space context
            | none => .error (.badAddress target)
        | .clear =>
            let n := stack.back?.getD 0
            let stack := stack.pop
            let target := stack.back?.getD 0
            match space.set? target n 0 with
            | some space => run program fuel code (pc + 1) stack.pop space context
            | none => .error (.badAddress target)
        | .callNear module function count wants =>
            match enter program module function count wants 0 ⟨code, pc + 1, stack, space, context⟩ with
            | .ok ⟨code, pc, stack, space, context⟩ => run program fuel code pc stack space context
            | .error e => .error e
        | .callLibrary function count wants =>
            let (args, stack) := popWords [] count stack
            let (rank, size) := rankAndSize context
            match Library.call function args.reverse ⟨rank, size, context.teams.length⟩ space with
            | .ok (w, space) =>
                run program fuel code (pc + 1) (if wants then stack.push w else stack) space context
            | .error e => .error e
        | .call count wants =>
            let a := stack.back?.getD 0
            match callAddress program a count wants ⟨code, pc + 1, stack.pop, space, context⟩ with
            | .ok ⟨code, pc, stack, space, context⟩ => run program fuel code pc stack space context
            | .error e => .error e
        | .callInner function count wants =>
            let link := stack.back?.getD 0
            match enter program context.registers.module function count wants link
                ⟨code, pc + 1, stack.pop, space, context⟩ with
            | .ok ⟨code, pc, stack, space, context⟩ => run program fuel code pc stack space context
            | .error e => .error e
        | .leave hasWord =>
            match leave hasWord ⟨code, pc, stack, space, context⟩ with
            | .ok (false, ⟨code, pc, stack, space, context⟩) => run program fuel code pc stack space context
            | .ok (true, p) => .ok (p.stack.getD 0 0, p.space)
            | .error e => .error e
        | .request r =>
            match request program r ⟨code, pc + 1, stack, space, context⟩ with
            | .ok ⟨code, pc, stack, space, context⟩ => run program fuel code pc stack space context
            | .error e => .error e
        | .symbol _ _ | .callSymbol _ _ _ => .error .badInstruction
      else .error .badInstruction

/-- Calls the function at an address on words, and gives its word. -/
def start (program : Program) (fuel address : Nat) (args : List Nat) (space : Space) : Except Fault (Nat × Space) :=
  let segment := 1
  let base := segmentAddress segment 0
  let context : Context := ⟨⟨0, 0, 0, base, base, 0, []⟩, segment, 0, [], #[]⟩
  let stack := args.reverse.toArray
  match callAddress program address args.length true ⟨#[.leave true], 0, stack, space.ensure segment 16, context⟩ with
  | .ok p =>
      match run program fuel p.code p.pc p.stack p.space p.context with
      | .ok (w, space) => .ok (w, space.drop 1)
      | .error e => .error e
  | .error e => .error e

end Processor

end KernelForge.Host
