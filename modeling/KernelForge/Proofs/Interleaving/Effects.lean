import KernelForge.Proofs.Interleaving.Machine
import Mathlib.Data.List.Nodup

/-!
# What one step changes

A step changes the request at one position and leaves those at all others as they are.
`Effect.locks` and `Effect.tables` say what it can do to the locks, and to the entries, gates and
handles, so that no invariant about these has to go through the stages.
-/

namespace KernelForge.Interleaving

variable {K V T : Type}

/-! ### Tables -/

namespace Table

variable {A : Type} [DecidableEq K]

/-- A key that was removed is not found, and every other one as before. -/
theorem lookup_remove (table : Table K A) (key k : K) :
    (table.remove key).lookup k = if k = key then none else table.lookup k := by
  unfold remove
  induction table with
  | nil => simp
  | cons e rest ih =>
    obtain ⟨other, a⟩ := e
    by_cases hother : other = key
    · rw [List.filter_cons_of_neg (by simpa using hother), ih]
      by_cases hk : k = key
      · simp [hk]
      · rw [if_neg hk, if_neg hk, List.lookup_cons,
          beq_false_of_ne fun heq => hk (heq.trans hother)]
    · rw [List.filter_cons_of_pos (by simpa using hother), List.lookup_cons, List.lookup_cons, ih]
      by_cases hk : k = other
      · simp [hk, hother]
      · rw [beq_false_of_ne hk]

/-- A key that was put is found with its new value. -/
theorem lookup_put (table : Table K A) (key : K) (a : A) (k : K) :
    (table.put key a).lookup k = if k = key then some a else table.lookup k := by
  rw [put, List.lookup_cons, lookup_remove]
  by_cases h : k = key
  · simp [h]
  · rw [beq_false_of_ne h, if_neg h, if_neg h]

/-- A key that was removed is not listed. -/
theorem notMem_keys_remove (table : Table K A) (key : K) :
    key ∉ (table.remove key).map Prod.fst := by
  simp [remove]

/-- Removing a key lists no key twice. -/
theorem nodup_remove {table : Table K A} (h : (table.map Prod.fst).Nodup) (key : K) :
    ((table.remove key).map Prod.fst).Nodup :=
  h.sublist (List.filter_sublist.map _)

/-- Neither does putting one, which replaces what was there. -/
theorem nodup_put {table : Table K A} (h : (table.map Prod.fst).Nodup) (key : K) (a : A) :
    ((table.put key a).map Prod.fst).Nodup :=
  List.nodup_cons.mpr ⟨table.notMem_keys_remove key, nodup_remove h key⟩

/-- Nothing is taken out of a table that does not have the key. -/
theorem remove_of_lookup_eq_none {table : Table K A} {key : K} (h : table.lookup key = none) :
    table.remove key = table := by
  rw [List.lookup_eq_none_iff] at h
  exact List.filter_eq_self.mpr fun e he => by simpa using fun heq => by simpa [heq] using h e he

/-- Takes out again what was put under a new key. -/
theorem remove_put {table : Table K A} {key : K} (a : A) (h : table.lookup key = none) :
    (table.put key a).remove key = table := by
  rw [put, remove_of_lookup_eq_none h, remove, List.filter_cons_of_neg (by simp)]
  exact remove_of_lookup_eq_none h

/-- The keys that stay when one is taken out of a table without repetitions. -/
theorem keys_remove {table : Table K A} (h : (table.map Prod.fst).Nodup) (key : K) :
    (table.remove key).map Prod.fst = (table.map Prod.fst).erase key := by
  rw [h.erase_eq_filter, List.filter_map, remove]
  congr 1
  refine List.filter_congr fun e _ => ?_
  by_cases he : e.1 = key <;> simp [he]

/-- A table has values for its keys, and for no others. -/
theorem lookup_eq_none {table : Table K A} {key : K} :
    table.lookup key = none ↔ key ∉ table.map Prod.fst := by
  rw [List.lookup_eq_none_iff]
  constructor
  · intro h hmem
    obtain ⟨e, he, rfl⟩ := List.mem_map.mp hmem
    simpa using h e he
  · intro h e he
    exact bne_iff_ne.mpr fun heq => h (heq ▸ List.mem_map_of_mem he)

end Table

/-! ### Positions -/

/-- A place for a request: a thread, and how many requests of the thread are around it. -/
abbrev Position (T : Type) := T × Nat

/-- Requests are numbered from the outermost one, so a new one has the next number. -/
private theorem getElem?_reverse_cons {A : Type} (a : A) (rest : List A) (n : Nat) :
    (a :: rest).reverse[n]? = if n = rest.length then some a else rest.reverse[n]? := by
  rw [List.reverse_cons, List.getElem?_append, List.length_reverse]
  by_cases heq : n = rest.length
  · simp [heq]
  · by_cases hlt : n < rest.length
    · rw [if_pos hlt, if_neg heq]
    · rw [if_neg hlt, if_neg heq, List.getElem?_eq_none (by simp; omega),
        List.getElem?_eq_none (by simp; omega)]

namespace State

variable [DecidableEq T]

/-- The request at a position. -/
def request? (s : State K V T) (p : Position T) : Option (Request K V) :=
  (s.threads p.1).reverse[p.2]?

/-- The requests of one thread change, and those of the others stay. -/
theorem request?_setThread (s : State K V T) (t : T) (requests : List (Request K V))
    (p : Position T) :
    (s.setThread t requests).request? p =
      if p.1 = t then requests.reverse[p.2]? else s.request? p := by
  unfold request? setThread
  by_cases h : p.1 = t <;> simp [h]

/-- A new innermost request leaves those around it where they are. -/
theorem request?_setThread_cons (s : State K V T) (t : T) (r : Request K V)
    (rest : List (Request K V)) {p : Position T} (hp : p ≠ (t, rest.length)) :
    (s.setThread t (r :: rest)).request? p = (s.setThread t rest).request? p := by
  rw [request?_setThread, request?_setThread, getElem?_reverse_cons]
  by_cases h : p.1 = t
  · rw [if_pos h, if_pos h, if_neg fun heq => hp (Prod.ext h heq)]
  · rw [if_neg h, if_neg h]

/-- The innermost request of a thread has all others of the thread around it. -/
theorem request?_setThread_top (s : State K V T) (t : T) (r : Request K V)
    (rest : List (Request K V)) :
    (s.setThread t (r :: rest)).request? (t, rest.length) = some r := by
  rw [request?_setThread, if_pos rfl, getElem?_reverse_cons, if_pos rfl]

/-- Giving a thread the requests that it has changes nothing. -/
theorem setThread_threads {s : State K V T} {t : T} {requests : List (Request K V)}
    (h : s.threads t = requests) : s.setThread t requests = s := by
  rw [← h, setThread, Function.update_eq_self]

end State

/-! ### What a request holds -/

namespace Stage

/-- Whether a request at a stage holds the lock of the marks. -/
@[simp] def holdsMarks : Stage V → Bool
  | .readMark | .unlockMarks _ | .setMark _ | .unlockMarksSet _ | .clearMark _ _
  | .unlockMarksCleared _ _ => true
  | _ => false

/-- Whether a request at a stage holds the lock of the table of gates. -/
@[simp] def holdsGates : Stage V → Bool
  | .takeGate | .unlockGates _ | .countHandles _ _ | .removeGate _ _ | .dropRemoved _ _ _
  | .unlockGatesLeft _ _ => true
  | _ => false

/-- The gate that a request at a stage holds the lock of. -/
@[simp] def entered? : Stage V → Option Gate
  | .lookAgain g | .countLateHit g _ | .lockMarksToSet g | .setMark g | .unlockMarksSet g
  | .building g | .lockMarksToClear g _ | .clearMark g _ | .unlockMarksCleared g _ | .store g _
  | .countBuild g _ | .lockGatesToLeave g _ | .countHandles g _ | .removeGate g _
  | .dropRemoved g _ _ | .unlockGatesLeft g _ | .unlockGate g _ => some g
  | _ => none

/-- Whether a request at a stage holds a lock. -/
@[simp] def holds (stage : Stage V) : Lock → Bool
  | .marks => stage.holdsMarks
  | .gates => stage.holdsGates
  | .gate g => stage.entered? = some g

/-- The gate that a request at a stage has a handle on. -/
@[simp] def handle? : Stage V → Option Gate
  | .unlockGates g | .lockGate g | .lookAgain g | .countLateHit g _ | .lockMarksToSet g
  | .setMark g | .unlockMarksSet g | .building g | .lockMarksToClear g _ | .clearMark g _
  | .unlockMarksCleared g _ | .store g _ | .countBuild g _ | .lockGatesToLeave g _
  | .countHandles g _ | .removeGate g _ | .dropRemoved g _ _ | .unlockGatesLeft g _
  | .unlockGate g _ | .dropHandle g _ => some g
  | _ => none

/-- The gate whose handle a request at a stage took over from the table. -/
@[simp] def removed? : Stage V → Option Gate
  | .dropRemoved _ removed _ => removed
  | _ => none

/-- How many handles on a gate a request at a stage has. -/
@[simp] def handlesOn (stage : Stage V) (g : Gate) : Nat :=
  (if stage.handle? = some g then 1 else 0) + if stage.removed? = some g then 1 else 0

end Stage

/-- Whether the request at a position, if there is one, holds a lock. -/
def holdsAt (r : Option (Request K V)) (l : Lock) : Bool := r.any (·.stage.holds l)

/-- Where no request is, no lock is held. -/
@[simp] theorem holdsAt_none (l : Lock) : holdsAt (none : Option (Request K V)) l = false := rfl

/-- A request holds what its stage does. -/
@[simp] theorem holdsAt_some (r : Request K V) (l : Lock) :
    holdsAt (some r) l = r.stage.holds l := rfl

/-- How many handles on a gate the request at a position, if there is one, has. -/
def handlesAt (r : Option (Request K V)) (g : Gate) : Nat := r.elim 0 (·.stage.handlesOn g)

/-- Where no request is, there are no handles. -/
@[simp] theorem handlesAt_none (g : Gate) : handlesAt (none : Option (Request K V)) g = 0 := rfl

/-- A request has the handles of its stage. -/
@[simp] theorem handlesAt_some (r : Request K V) (g : Gate) :
    handlesAt (some r) g = r.stage.handlesOn g := rfl

/-! ### Steps -/

variable [DecidableEq K] [DecidableEq T]

/-- The steps of a request one by one: from which stage, what is told of it, and to which shared
cache and stage it leads. -/
inductive Move (t : T) (key : K) (m : Shared K V T) :
    Stage V → Action V → Shared K V T → Stage V → Prop
  | found {v : V} : m.entries.lookup key = some v → Move t key m .look .other m (.countHit v)
  | missed : m.entries.lookup key = none → Move t key m .look .other m .lockMarks
  | countHit (v : V) :
      Move t key m (.countHit v) .hit { m with hits := m.hits + 1 } (.done (.ok v))
  | lockMarks : m.locked .marks = false → Move t key m .lockMarks .other (m.hold .marks) .readMark
  | readMark : Move t key m .readMark .other m (.unlockMarks (m.marks.lookup key = some t))
  | refused : Move t key m (.unlockMarks true) .refuse (m.release .marks)
      (.done (.error (.reentrantBuild m.name)))
  | admitted : Move t key m (.unlockMarks false) .other (m.release .marks) .lockGates
  | lockGates : m.locked .gates = false → Move t key m .lockGates .other (m.hold .gates) .takeGate
  | shareGate {g : Gate} : m.gates.lookup key = some g →
      Move t key m .takeGate .other (m.share g) (.unlockGates g)
  | makeGate : m.gates.lookup key = none →
      Move t key m .takeGate .make ((m.makeGate key).share m.made) (.unlockGates m.made)
  | unlockGates (g : Gate) :
      Move t key m (.unlockGates g) .other (m.release .gates) (.lockGate g)
  | lockGate {g : Gate} : m.locked (.gate g) = false →
      Move t key m (.lockGate g) .other (m.hold (.gate g)) (.lookAgain g)
  | foundLate {g : Gate} {v : V} : m.entries.lookup key = some v →
      Move t key m (.lookAgain g) .other m (.countLateHit g v)
  | missedLate {g : Gate} : m.entries.lookup key = none →
      Move t key m (.lookAgain g) .other m (.lockMarksToSet g)
  | countLateHit (g : Gate) (v : V) :
      Move t key m (.countLateHit g v) .hit { m with hits := m.hits + 1 } (.unlockGate g (.ok v))
  | lockMarksToSet {g : Gate} : m.locked .marks = false →
      Move t key m (.lockMarksToSet g) .other (m.hold .marks) (.setMark g)
  | setMark (g : Gate) :
      Move t key m (.setMark g) .other { m with marks := m.marks.put key t } (.unlockMarksSet g)
  | unlockMarksSet (g : Gate) :
      Move t key m (.unlockMarksSet g) .start (m.release .marks) (.building g)
  | lockMarksToClear {g : Gate} {outcome : Outcome V} : m.locked .marks = false →
      Move t key m (.lockMarksToClear g outcome) .other (m.hold .marks) (.clearMark g outcome)
  | clearMark (g : Gate) (outcome : Outcome V) :
      Move t key m (.clearMark g outcome) .other { m with marks := m.marks.remove key }
        (.unlockMarksCleared g outcome)
  | unlockMarksBuilt (g : Gate) (v : V) :
      Move t key m (.unlockMarksCleared g (.ok v)) .other (m.release .marks) (.store g v)
  | unlockMarksFailed (g : Gate) (error : KernelError) :
      Move t key m (.unlockMarksCleared g (.error error)) .other (m.release .marks)
        (.lockGatesToLeave g (.error error))
  | store (g : Gate) (v : V) :
      Move t key m (.store g v) (.store v) { m with entries := m.entries.put key v }
        (.countBuild g v)
  | countBuild (g : Gate) (v : V) :
      Move t key m (.countBuild g v) .other { m with builds := m.builds + 1 }
        (.lockGatesToLeave g (.ok v))
  | lockGatesBuilt {g : Gate} {v : V} : m.locked .gates = false →
      Move t key m (.lockGatesToLeave g (.ok v)) .other (m.hold .gates) (.removeGate g (.ok v))
  | lockGatesFailed {g : Gate} {error : KernelError} : m.locked .gates = false →
      Move t key m (.lockGatesToLeave g (.error error)) .other (m.hold .gates)
        (.countHandles g error)
  | fewHandles {g : Gate} {error : KernelError} :
      ((m.gates.lookup key).map m.handles).any (· ≤ 2) = true →
      Move t key m (.countHandles g error) (.judge ((m.gates.lookup key).map m.handles)) m
        (.removeGate g (.error error))
  | manyHandles {g : Gate} {error : KernelError} :
      ((m.gates.lookup key).map m.handles).any (· ≤ 2) = false →
      Move t key m (.countHandles g error) (.judge ((m.gates.lookup key).map m.handles)) m
        (.unlockGatesLeft g (.error error))
  | removeGate (g : Gate) (outcome : Outcome V) :
      Move t key m (.removeGate g outcome) .other { m with gates := m.gates.remove key }
        (.dropRemoved g (m.gates.lookup key) outcome)
  | dropRemoved (g old : Gate) (outcome : Outcome V) :
      Move t key m (.dropRemoved g (some old) outcome) .other (m.drop old)
        (.unlockGatesLeft g outcome)
  | dropNothing (g : Gate) (outcome : Outcome V) :
      Move t key m (.dropRemoved g none outcome) .other m (.unlockGatesLeft g outcome)
  | unlockGatesLeft (g : Gate) (outcome : Outcome V) :
      Move t key m (.unlockGatesLeft g outcome) .other (m.release .gates) (.unlockGate g outcome)
  | unlockGate (g : Gate) (outcome : Outcome V) :
      Move t key m (.unlockGate g outcome) .other (m.release (.gate g)) (.dropHandle g outcome)
  | dropHandle (g : Gate) (outcome : Outcome V) :
      Move t key m (.dropHandle g outcome) .other (m.drop g) (.done outcome)

omit [DecidableEq K] [DecidableEq T] in
/-- A lock is taken just if it is free. -/
theorem Shared.map_acquire_eq_some {R : Type} {m : Shared K V T} {l : Lock} {f : Shared K V T → R}
    {r : R} : (m.acquire l).map f = some r ↔ m.locked l = false ∧ f (m.hold l) = r := by
  unfold acquire
  by_cases hlocked : m.locked l = true <;> simp [hlocked]

/-- A request goes on exactly by these steps. -/
theorem advance_eq_some {t : T} {key : K} {m m' : Shared K V T} {stage stage' : Stage V}
    {action : Action V} :
    advance t key m stage = some (m', stage', action) ↔ Move t key m stage action m' stage' := by
  constructor
  · intro h
    cases stage
    case look | takeGate | lookAgain =>
      simp only [advance] at h
      split at h
      all_goals
        cases h
        constructor
        assumption
    case countHandles g error =>
      simp only [advance] at h
      split at h
      · next hfew => cases h; exact .fewHandles hfew
      · next hmany => cases h; exact .manyHandles (by simpa using hmany)
    case lockMarks | lockGates | lockGate | lockMarksToSet | lockMarksToClear =>
      simp only [advance, Shared.map_acquire_eq_some] at h
      obtain ⟨hfree, ⟨⟩⟩ := h
      constructor
      exact hfree
    case lockGatesToLeave g outcome =>
      cases outcome
      all_goals
        simp only [advance, Shared.map_acquire_eq_some] at h
        obtain ⟨hfree, ⟨⟩⟩ := h
        constructor
        exact hfree
    case unlockMarks own => cases own <;> cases h <;> constructor
    case unlockMarksCleared g outcome => cases outcome <;> cases h <;> constructor
    case dropRemoved g removed outcome => cases removed <;> cases h <;> constructor
    all_goals
      cases h
      try constructor
  · intro h
    cases h
    all_goals simp [advance, Shared.acquire, *]

/-- What a step of a thread does to the shared cache and to the request at the position where it is
made: before the step, and after it. -/
inductive Effect (t : T) (m : Shared K V T) :
    Option (Request K V) → K → Action V → Shared K V T → Option (Request K V) → Prop
  | ask (key : K) : Effect t m none key .ask m (some ⟨key, .look⟩)
  | move {key : K} {stage stage' : Stage V} {m' : Shared K V T} {action : Action V} :
      Move t key m stage action m' stage' →
      Effect t m (some ⟨key, stage⟩) key action m' (some ⟨key, stage'⟩)
  | finish {key : K} {g : Gate} (outcome : Outcome V) :
      Effect t m (some ⟨key, .building g⟩) key (.finish outcome) m
        (some ⟨key, .lockMarksToClear g outcome⟩)
  | answer {key : K} {outcome : Outcome V} :
      Effect t m (some ⟨key, .done outcome⟩) key (.answer outcome) m none

/-- A step from one state to another that is made at a position. -/
structure StepAt (s : State K V T) (e : Event K V T) (s' : State K V T) (p : Position T) :
    Prop where
  thread_eq : p.1 = e.thread
  effect : Effect e.thread s.shared (s.request? p) e.key e.action s'.shared (s'.request? p)
  /-- The requests at all other positions stay where they are. -/
  frame : ∀ q, q ≠ p → s'.request? q = s.request? q

/-- What a step leaves alone at its own position it leaves alone everywhere. -/
theorem StepAt.same {A : Type} {f : Option (Request K V) → A} {s s' : State K V T}
    {e : Event K V T} {p : Position T} (hat : StepAt s e s' p)
    (hsame : f (s'.request? p) = f (s.request? p)) (q : Position T) :
    f (s'.request? q) = f (s.request? q) := by
  by_cases hq : q = p
  · rw [hq, hsame]
  · rw [hat.frame q hq]

/-- A step changes what is at one position, and is an effect there. -/
theorem step_at {s s' : State K V T} {choice : Choice K V T} {e : Event K V T}
    (h : s.step? choice = some (e, s')) : ∃ p, StepAt s e s' p := by
  cases choice with
  | ask t key =>
    have hpush (rest : List (Request K V)) (hrest : s.threads t = rest) :
        Effect t s.shared (s.request? (t, rest.length)) key .ask s.shared
          ((s.setThread t (⟨key, .look⟩ :: rest)).request? (t, rest.length)) ∧
        ∀ p, p ≠ (t, rest.length) →
          (s.setThread t (⟨key, .look⟩ :: rest)).request? p = s.request? p := by
      refine ⟨?_, fun p hp => ?_⟩
      · rw [State.request?_setThread_top, State.request?, hrest, List.getElem?_eq_none (by simp)]
        exact .ask key
      · rw [State.request?_setThread_cons s t _ rest hp, State.setThread_threads hrest]
    simp only [State.step?] at h
    split at h
    · cases h
      obtain ⟨heffect, hframe⟩ := hpush [] ‹_›
      exact ⟨_, rfl, heffect, hframe⟩
    · cases h
      obtain ⟨heffect, hframe⟩ := hpush _ ‹_›
      exact ⟨_, rfl, heffect, hframe⟩
    · cases h
  | finish t outcome =>
    simp only [State.step?] at h
    split at h
    · next key g rest heq =>
      cases h
      refine ⟨(t, rest.length), rfl, ?_, fun p hp => ?_⟩
      · rw [State.request?_setThread_top, State.request?, heq, getElem?_reverse_cons, if_pos rfl]
        exact .finish outcome
      · rw [State.request?_setThread_cons s t _ rest hp,
          ← State.request?_setThread_cons s t _ rest hp, State.setThread_threads heq]
    · cases h
  | go t =>
    simp only [State.step?] at h
    split at h
    · cases h
    · next key outcome rest heq =>
      cases h
      refine ⟨(t, rest.length), rfl, ?_, fun p hp => ?_⟩
      · rw [State.request?_setThread, if_pos rfl, List.getElem?_eq_none (by simp), State.request?,
          heq, getElem?_reverse_cons, if_pos rfl]
        exact .answer
      · rw [← State.request?_setThread_cons s t _ rest hp, State.setThread_threads heq]
    · next key stage rest _ heq =>
      obtain ⟨⟨m', stage', action⟩, hadvance, hnext⟩ := Option.map_eq_some_iff.mp h
      cases hnext
      refine ⟨(t, rest.length), rfl, ?_, fun p hp => ?_⟩
      · rw [State.request?, heq, getElem?_reverse_cons, if_pos rfl]
        exact (s.request?_setThread_top t _ rest).symm ▸ .move (advance_eq_some.mp hadvance)
      · have hother := s.request?_setThread_cons t ⟨key, stage'⟩ rest hp
        rw [← s.request?_setThread_cons t _ rest hp, s.setThread_threads heq] at hother
        exact hother

/-- A step is made for the request of its key. -/
theorem Effect.key_eq {t : T} {m m' : Shared K V T} {o o' : Option (Request K V)} {key : K}
    {action : Action V} (h : Effect t m o key action m' o') :
    (∀ r, o = some r → r.key = key) ∧ ∀ r', o' = some r' → r'.key = key := by
  cases h
  all_goals
    constructor
    · rintro r ⟨⟩
      try rfl
    · rintro r' ⟨⟩
      try rfl

/-! ### Locks -/

/-- A step leaves the locks alone, takes one that is free, or gives one back that its own request
held. -/
theorem Effect.locks {t : T} {m m' : Shared K V T} {o o' : Option (Request K V)} {key : K}
    {action : Action V} (h : Effect t m o key action m' o') :
    (m'.locked = m.locked ∧ ∀ l, holdsAt o' l = holdsAt o l) ∨
      (∃ l, m.locked l = false ∧ m'.locked = Function.update m.locked l true ∧
        ∀ l', holdsAt o' l' = if l' = l then true else holdsAt o l') ∨
      (∃ l, holdsAt o l = true ∧ m'.locked = Function.update m.locked l false ∧
        ∀ l', holdsAt o' l' = if l' = l then false else holdsAt o l') := by
  cases h with
  | ask | finish | answer => exact .inl ⟨rfl, fun l => by cases l <;> rfl⟩
  | move h =>
    cases h
    case lockMarks hfree | lockGates hfree | lockGate hfree | lockMarksToSet hfree |
        lockMarksToClear hfree | lockGatesBuilt hfree | lockGatesFailed hfree =>
      exact .inr (.inl ⟨_, hfree, rfl, fun l => by cases l <;> simp [eq_comm]⟩)
    case refused | admitted | unlockGates | unlockMarksSet | unlockMarksBuilt | unlockMarksFailed |
        unlockGatesLeft | unlockGate =>
      refine .inr (.inr ⟨_, ?_, rfl, fun l => by cases l <;> simp [eq_comm]⟩)
      simp
    all_goals exact .inl ⟨rfl, fun l => by cases l <;> rfl⟩

/-! ### Entries, gates and handles -/

/-- What a step can do to the entries, the gates and the handles. -/
inductive TableChange (m : Shared K V T) (key : K) :
    Option (Request K V) → Action V → Shared K V T → Option (Request K V) → Prop
  | same {o o' : Option (Request K V)} {action : Action V} {m' : Shared K V T} :
      m'.entries = m.entries → m'.gates = m.gates → m'.made = m.made → m'.handles = m.handles →
      (∀ g, handlesAt o' g = handlesAt o g) → TableChange m key o action m' o'
  | store (g : Gate) (v : V) :
      TableChange m key (some ⟨key, .store g v⟩) (.store v)
        { m with entries := m.entries.put key v } (some ⟨key, .countBuild g v⟩)
  | share {g : Gate} : m.gates.lookup key = some g →
      TableChange m key (some ⟨key, .takeGate⟩) .other (m.share g) (some ⟨key, .unlockGates g⟩)
  | make : m.gates.lookup key = none →
      TableChange m key (some ⟨key, .takeGate⟩) .make ((m.makeGate key).share m.made)
        (some ⟨key, .unlockGates m.made⟩)
  | remove (g : Gate) (outcome : Outcome V) :
      TableChange m key (some ⟨key, .removeGate g outcome⟩) .other
        { m with gates := m.gates.remove key }
        (some ⟨key, .dropRemoved g (m.gates.lookup key) outcome⟩)
  | drop {o o' : Option (Request K V)} (g : Gate) :
      (∀ g', handlesAt o g' = handlesAt o' g' + if g' = g then 1 else 0) →
      TableChange m key o .other (m.drop g) o'

/-- A step changes at most one of the entries, the gates and the handles, or makes a gate with two
handles. -/
theorem Effect.tables {t : T} {m m' : Shared K V T} {o o' : Option (Request K V)} {key : K}
    {action : Action V} (h : Effect t m o key action m' o') : TableChange m key o action m' o' := by
  cases h with
  | ask | finish | answer => exact .same rfl rfl rfl rfl fun g => by simp
  | move h =>
    cases h
    case store g v => exact .store g v
    case shareGate hgate => exact .share hgate
    case makeGate hgate => exact .make hgate
    case removeGate g outcome => exact .remove g outcome
    case dropHandle g outcome | dropRemoved g' g outcome =>
      exact .drop g fun g' => by simp [eq_comm]
    all_goals exact .same rfl rfl rfl rfl fun g => by simp

end KernelForge.Interleaving
