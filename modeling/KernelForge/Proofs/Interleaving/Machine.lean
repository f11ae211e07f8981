import KernelForge.Kernel.Cache
import Mathlib.Logic.Function.Basic

/-!
# Requests in atomic steps

Several threads make requests on one cache. A request goes through stages, each of which is one
atomic step: a lock is taken or given back, a table is looked at or changed, a counter is counted
up, or a handle on a gate ends. The steps of different threads come in any order. A builder may make
requests on the same cache, and end with any value or failure; nothing else is assumed of it.
-/

namespace KernelForge.Interleaving

/-- A gate, by its number. -/
abbrev Gate := Nat

/-- The locks of a cache: one for each of two tables, and one in every gate. -/
inductive Lock where
  | gates
  | marks
  | gate (g : Gate)
  deriving DecidableEq

/-- What a builder or a request ends with. -/
abbrev Outcome (V : Type) := Except KernelError V

/-- A table of values by key. -/
abbrev Table (K A : Type) := List (K × A)

namespace Table

variable {K A : Type} [DecidableEq K]

/-- Takes a key out of a table. -/
def remove (table : Table K A) (key : K) : Table K A := table.filter fun e => e.1 ≠ key

/-- Gives a key a value, replacing an earlier one. -/
def put (table : Table K A) (key : K) (a : A) : Table K A := (key, a) :: table.remove key

end Table

/-- What the threads share: the tables, counters and locks of a cache, and the number of handles on
every gate. -/
structure Shared (K V T : Type) where
  name : String
  entries : Table K V
  gates : Table K Gate
  /-- The keys that are being built, with the thread that builds each. -/
  marks : Table K T
  hits : Nat
  builds : Nat
  locked : Lock → Bool
  handles : Gate → Nat
  /-- How many gates were made; this is the number of the next one. -/
  made : Nat

namespace Shared

variable {K V T : Type} [DecidableEq K]

/-- A cache without values that nobody uses. -/
def empty (name : String) : Shared K V T := ⟨name, [], [], [], 0, 0, fun _ => false, fun _ => 0, 0⟩

variable (m : Shared K V T)

/-- The cache as requests from outside see it. -/
def cache : BuildCache K V :=
  ⟨m.name, m.entries, m.gates.map Prod.fst, m.marks.map Prod.fst, m.hits, m.builds⟩

/-- The cache with a lock taken. -/
def hold (l : Lock) : Shared K V T := { m with locked := Function.update m.locked l true }

/-- Takes a lock that is free. -/
def acquire (l : Lock) : Option (Shared K V T) := if m.locked l then none else some (m.hold l)

/-- Gives a lock back. -/
def release (l : Lock) : Shared K V T := { m with locked := Function.update m.locked l false }

/-- Ends a handle on a gate. -/
def drop (g : Gate) : Shared K V T :=
  { m with handles := Function.update m.handles g (m.handles g - 1) }

/-- Gives a new handle on a gate. -/
def share (g : Gate) : Shared K V T :=
  { m with handles := Function.update m.handles g (m.handles g + 1) }

/-- Puts a new gate into the table, on which the table has the only handle. -/
def makeGate (key : K) : Shared K V T :=
  { m with gates := m.gates.put key m.made,
           handles := Function.update m.handles m.made 1,
           made := m.made + 1 }

end Shared

/-- What a request does next. A request that took a gate carries it along, and one whose builder
ended carries what it ended with. -/
inductive Stage (V : Type) where
  /-- Looks the key up. -/
  | look
  | countHit (v : V)
  | lockMarks
  /-- Looks whether its own thread is building the key. -/
  | readMark
  | unlockMarks (own : Bool)
  | lockGates
  /-- Takes a handle on the gate of the key, which is made if there is none. -/
  | takeGate
  | unlockGates (g : Gate)
  | lockGate (g : Gate)
  /-- Looks the key up again, now that no other request has the gate. -/
  | lookAgain (g : Gate)
  | countLateHit (g : Gate) (v : V)
  | lockMarksToSet (g : Gate)
  | setMark (g : Gate)
  | unlockMarksSet (g : Gate)
  /-- The builder runs. -/
  | building (g : Gate)
  | lockMarksToClear (g : Gate) (outcome : Outcome V)
  | clearMark (g : Gate) (outcome : Outcome V)
  | unlockMarksCleared (g : Gate) (outcome : Outcome V)
  | store (g : Gate) (v : V)
  | countBuild (g : Gate) (v : V)
  | lockGatesToLeave (g : Gate) (outcome : Outcome V)
  /-- After a failure, looks how many handles there are on the gate in the table. -/
  | countHandles (g : Gate) (error : KernelError)
  | removeGate (g : Gate) (outcome : Outcome V)
  /-- Ends the handle that the table had. -/
  | dropRemoved (g : Gate) (removed : Option Gate) (outcome : Outcome V)
  | unlockGatesLeft (g : Gate) (outcome : Outcome V)
  | unlockGate (g : Gate) (outcome : Outcome V)
  | dropHandle (g : Gate) (outcome : Outcome V)
  | done (outcome : Outcome V)

/-- What can be told of a step. -/
inductive Action (V : Type) where
  /-- A request is made. -/
  | ask
  /-- A value that was found is counted. -/
  | hit
  /-- A request of a thread that is building the key itself is refused. -/
  | refuse
  /-- A gate is made. -/
  | make
  /-- A builder begins. -/
  | start
  /-- A builder ends. -/
  | finish (outcome : Outcome V)
  /-- A value becomes the entry of its key. -/
  | store (v : V)
  /-- After a failure, the handles on the gate in the table were counted. -/
  | judge (handles : Option Nat)
  /-- A request ends. -/
  | answer (outcome : Outcome V)
  | other

/-- A step of a thread, for a key. -/
structure Event (K V T : Type) where
  thread : T
  key : K
  action : Action V

section Advance

variable {K V T : Type} [DecidableEq K] [DecidableEq T]

/-- The next step of a request of a thread for a key. There is none while a lock is held elsewhere,
while the builder runs, and after the end. -/
def advance (t : T) (key : K) (m : Shared K V T) :
    Stage V → Option (Shared K V T × Stage V × Action V)
  | .look =>
      match m.entries.lookup key with
      | some v => some (m, .countHit v, .other)
      | none => some (m, .lockMarks, .other)
  | .countHit v => some ({ m with hits := m.hits + 1 }, .done (.ok v), .hit)
  | .lockMarks => (m.acquire .marks).map fun m => (m, .readMark, .other)
  | .readMark => some (m, .unlockMarks (m.marks.lookup key = some t), .other)
  | .unlockMarks own =>
      if own then some (m.release .marks, .done (.error (.reentrantBuild m.name)), .refuse)
      else some (m.release .marks, .lockGates, .other)
  | .lockGates => (m.acquire .gates).map fun m => (m, .takeGate, .other)
  | .takeGate =>
      match m.gates.lookup key with
      | some g => some (m.share g, .unlockGates g, .other)
      | none => some ((m.makeGate key).share m.made, .unlockGates m.made, .make)
  | .unlockGates g => some (m.release .gates, .lockGate g, .other)
  | .lockGate g => (m.acquire (.gate g)).map fun m => (m, .lookAgain g, .other)
  | .lookAgain g =>
      match m.entries.lookup key with
      | some v => some (m, .countLateHit g v, .other)
      | none => some (m, .lockMarksToSet g, .other)
  | .countLateHit g v => some ({ m with hits := m.hits + 1 }, .unlockGate g (.ok v), .hit)
  | .lockMarksToSet g => (m.acquire .marks).map fun m => (m, .setMark g, .other)
  | .setMark g => some ({ m with marks := m.marks.put key t }, .unlockMarksSet g, .other)
  | .unlockMarksSet g => some (m.release .marks, .building g, .start)
  | .building _ => none
  | .lockMarksToClear g outcome =>
      (m.acquire .marks).map fun m => (m, .clearMark g outcome, .other)
  | .clearMark g outcome =>
      some ({ m with marks := m.marks.remove key }, .unlockMarksCleared g outcome, .other)
  | .unlockMarksCleared g outcome =>
      match outcome with
      | .ok v => some (m.release .marks, .store g v, .other)
      | .error error => some (m.release .marks, .lockGatesToLeave g (.error error), .other)
  | .store g v => some ({ m with entries := m.entries.put key v }, .countBuild g v, .store v)
  | .countBuild g v => some ({ m with builds := m.builds + 1 }, .lockGatesToLeave g (.ok v), .other)
  | .lockGatesToLeave g outcome =>
      match outcome with
      | .ok v => (m.acquire .gates).map fun m => (m, .removeGate g (.ok v), .other)
      | .error error => (m.acquire .gates).map fun m => (m, .countHandles g error, .other)
  | .countHandles g error =>
      let handles := (m.gates.lookup key).map m.handles
      if handles.any (· ≤ 2) then some (m, .removeGate g (.error error), .judge handles)
      else some (m, .unlockGatesLeft g (.error error), .judge handles)
  | .removeGate g outcome =>
      some ({ m with gates := m.gates.remove key },
        .dropRemoved g (m.gates.lookup key) outcome, .other)
  | .dropRemoved g removed outcome =>
      match removed with
      | some old => some (m.drop old, .unlockGatesLeft g outcome, .other)
      | none => some (m, .unlockGatesLeft g outcome, .other)
  | .unlockGatesLeft g outcome => some (m.release .gates, .unlockGate g outcome, .other)
  | .unlockGate g outcome => some (m.release (.gate g), .dropHandle g outcome, .other)
  | .dropHandle g outcome => some (m.drop g, .done outcome, .other)
  | .done _ => none

end Advance

/-- A request for a key, and where it stands. -/
structure Request (K V : Type) where
  key : K
  stage : Stage V

/-- The shared cache, and the requests of every thread, the innermost first: each but the last was
made by the builder of the one after it. -/
structure State (K V T : Type) where
  shared : Shared K V T
  threads : T → List (Request K V)

/-- What happens next: the innermost request of a thread goes on, a thread that is idle or runs a
builder makes a request, or the innermost builder of a thread ends. -/
inductive Choice (K V T : Type) where
  | go (t : T)
  | ask (t : T) (key : K)
  | finish (t : T) (outcome : Outcome V)

namespace State

variable {K V T : Type} [DecidableEq K] [DecidableEq T]

/-- A cache without values and threads without requests. -/
def start (name : String) : State K V T := ⟨.empty name, fun _ => []⟩

variable (s : State K V T)

/-- Gives a thread other requests. -/
def setThread (t : T) (requests : List (Request K V)) : State K V T :=
  { s with threads := Function.update s.threads t requests }

/-- What the step that is chosen does, if it can be made. -/
def step? : Choice K V T → Option (Event K V T × State K V T)
  | .ask t key =>
      match s.threads t with
      | [] => some (⟨t, key, .ask⟩, s.setThread t [⟨key, .look⟩])
      | ⟨outer, .building g⟩ :: rest =>
          some (⟨t, key, .ask⟩, s.setThread t (⟨key, .look⟩ :: ⟨outer, .building g⟩ :: rest))
      | _ => none
  | .finish t outcome =>
      match s.threads t with
      | ⟨key, .building g⟩ :: rest =>
          some (⟨t, key, .finish outcome⟩,
            s.setThread t (⟨key, .lockMarksToClear g outcome⟩ :: rest))
      | _ => none
  | .go t =>
      match s.threads t with
      | [] => none
      | ⟨key, .done outcome⟩ :: rest => some (⟨t, key, .answer outcome⟩, s.setThread t rest)
      | ⟨key, stage⟩ :: rest =>
          (advance t key s.shared stage).map fun next =>
            (⟨t, key, next.2.2⟩, { s.setThread t (⟨key, next.2.1⟩ :: rest) with shared := next.1 })

/-- What the steps that are chosen do, if all of them can be made. -/
def perform (s : State K V T) :
    List (Choice K V T) → Option (List (Event K V T) × State K V T)
  | [] => some ([], s)
  | choice :: rest =>
      (s.step? choice).bind fun next =>
        (next.2.perform rest).map fun result => (next.1 :: result.1, result.2)

/-- Whether no request is in flight. -/
def Idle : Prop := ∀ t, s.threads t = []

end State

/-- What a number of steps does, one after the other, and what is told of them. -/
inductive Run {K V T : Type} [DecidableEq K] [DecidableEq T] :
    State K V T → List (Event K V T) → State K V T → Prop
  | nil (s : State K V T) : Run s [] s
  | snoc {s s' s'' : State K V T} {trace : List (Event K V T)} {choice : Choice K V T}
      {e : Event K V T} : Run s trace s' → s'.step? choice = some (e, s'') →
      Run s (trace ++ [e]) s''

section Run

variable {K V T : Type} [DecidableEq K] [DecidableEq T] {s s' s'' : State K V T}
  {trace trace' : List (Event K V T)}

/-- A run goes on by another one. -/
theorem Run.append (h : Run s trace s') (h' : Run s' trace' s'') : Run s (trace ++ trace') s'' := by
  induction h' with
  | nil => rwa [List.append_nil]
  | snoc _ hstep ih => exact List.append_assoc .. ▸ ih.snoc hstep

/-- Steps that can be made as they are chosen are a run. -/
theorem State.run_of_perform {choices : List (Choice K V T)}
    (h : s.perform choices = some (trace, s')) : Run s trace s' := by
  induction choices generalizing s trace with
  | nil =>
    cases h
    exact .nil _
  | cons choice rest ih =>
    obtain ⟨⟨e, next⟩, hstep, hrest⟩ := Option.bind_eq_some_iff.mp h
    obtain ⟨⟨events, last⟩, hperform, heq⟩ := Option.map_eq_some_iff.mp hrest
    cases heq
    exact ((Run.nil _).snoc hstep).append (ih hperform)

end Run

end KernelForge.Interleaving
