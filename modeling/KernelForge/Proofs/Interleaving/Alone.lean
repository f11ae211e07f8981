import KernelForge.Proofs.Interleaving.Effects
import KernelForge.Proofs.Provider.Keeps
import Mathlib.Logic.Relation

/-!
# A thread at work alone

While no other thread has a lock, a thread can always go on. A request that it makes goes through
steps to its answer or to its builder, and from the end of the builder to its answer. What it leaves
is the cache that `CacheSlot.request` enters and closes; the gate and the mark that it made are gone
again.
-/

namespace KernelForge.Interleaving

variable {K V T : Type} [DecidableEq K]

/-! ### Steps of one request -/

section Goes

variable [DecidableEq T]

/-- A step of a request of a thread for a key, whatever is told of it. -/
def Goes (t : T) (key : K) (a b : Shared K V T × Stage V) : Prop :=
  ∃ action, Move t key a.1 a.2 action b.1 b.2

/-- A step is one whatever is told of it. -/
theorem Move.goes {t : T} {key : K} {m m' : Shared K V T} {stage stage' : Stage V}
    {action : Action V} (h : Move t key m stage action m' stage') :
    Goes t key (m, stage) (m', stage') :=
  ⟨action, h⟩

/-- A number of steps of a request of a thread for a key. -/
abbrev Reaches (t : T) (key : K) : Shared K V T × Stage V → Shared K V T × Stage V → Prop :=
  Relation.ReflTransGen (Goes t key)

/-- The innermost request of a thread goes on as it is told to. -/
theorem State.step?_go {s : State K V T} {t : T} {key : K} {stage stage' : Stage V}
    {rest : List (Request K V)} {m' : Shared K V T} {action : Action V}
    (hthread : s.threads t = ⟨key, stage⟩ :: rest)
    (hmove : Move t key s.shared stage action m' stage') :
    s.step? (.go t) = some (⟨t, key, action⟩,
      { s.setThread t (⟨key, stage'⟩ :: rest) with shared := m' }) := by
  simp only [State.step?, hthread]
  split
  · next heq => cases heq
  · next heq =>
    cases heq
    cases hmove
  · next heq =>
    cases heq
    rw [advance_eq_some.mpr hmove]
    rfl

end Goes

/-! ### A cache that no other thread uses -/

namespace Shared

variable {m : Shared K V T} {l : Lock}

omit [DecidableEq K] in
/-- A lock that was free is so again when it was taken and given back. -/
theorem update_locked (h : m.locked l = false) :
    Function.update (Function.update m.locked l true) l false = m.locked := by
  rw [Function.update_idem, ← h, Function.update_eq_self]

omit [DecidableEq K] in
/-- Nothing is left of a free lock that was taken and given back. -/
theorem release_hold (h : m.locked l = false) : (m.hold l).release l = m := by
  rw [release, hold, update_locked h]

end Shared

/-- No request has the lock of a table, the gates of the keys that have one are of builds of a
single thread, and these keys have no value yet. -/
structure Quiet (t : T) (m : Shared K V T) : Prop where
  marks_free : m.locked .marks = false
  gates_free : m.locked .gates = false
  fresh_free : ∀ g, m.made ≤ g → m.locked (.gate g) = false
  keys_eq : m.gates.map Prod.fst = m.marks.map Prod.fst
  nodup : (m.marks.map Prod.fst).Nodup
  own : ∀ {key}, m.marks.lookup key ≠ none → m.marks.lookup key = some t
  absent : ∀ {key}, m.marks.lookup key ≠ none → m.entries.lookup key = none

/-- What work of a thread that is alone leaves as it was: all but the values and the counters. -/
structure Kept (m m' : Shared K V T) : Prop where
  locked : m'.locked = m.locked
  gates : m'.gates = m.gates
  marks : m'.marks = m.marks
  made_le : m.made ≤ m'.made
  handles : ∀ g, g < m.made → m'.handles g = m.handles g
  absent : ∀ {key}, m.marks.lookup key ≠ none → m.entries.lookup key = none →
    m'.entries.lookup key = none

namespace Kept

variable {m m' m'' : Shared K V T}

/-- Doing nothing leaves everything as it was. -/
theorem refl (m : Shared K V T) : Kept m m where
  locked := rfl
  gates := rfl
  marks := rfl
  made_le := Nat.le_refl _
  handles _ _ := rfl
  absent _ h := h

/-- What is left alone twice is left alone. -/
theorem trans (h : Kept m m') (h' : Kept m' m'') : Kept m m'' where
  locked := h'.locked.trans h.locked
  gates := h'.gates.trans h.gates
  marks := h'.marks.trans h.marks
  made_le := Nat.le_trans h.made_le h'.made_le
  handles g hg := (h'.handles g (Nat.lt_of_lt_of_le hg h.made_le)).trans (h.handles g hg)
  absent hmarked habsent := h'.absent (h.marks ▸ hmarked) (h.absent hmarked habsent)

/-- A cache that no other thread uses stays one. -/
theorem quiet {t : T} (h : Kept m m') (hm : Quiet t m) : Quiet t m' where
  marks_free := h.locked ▸ hm.marks_free
  gates_free := h.locked ▸ hm.gates_free
  fresh_free g hg := h.locked ▸ hm.fresh_free g (Nat.le_trans h.made_le hg)
  keys_eq := by rw [h.gates, h.marks, hm.keys_eq]
  nodup := h.marks ▸ hm.nodup
  own := h.marks ▸ hm.own
  absent hmarked := h.absent (h.marks ▸ hmarked) (hm.absent (h.marks ▸ hmarked))

end Kept

/-- A new cache is used by nobody. -/
theorem quiet_empty (t : T) (name : String) : Quiet t (.empty name : Shared K V T) where
  marks_free := rfl
  gates_free := rfl
  fresh_free _ _ := rfl
  keys_eq := rfl
  nodup := .nil
  own h := absurd rfl h
  absent h := absurd rfl h

/-- Keys without a mark have no gate. -/
theorem Quiet.gates_lookup_eq_none {t : T} {m : Shared K V T} {key : K} (hm : Quiet t m)
    (hmark : m.marks.lookup key = none) : m.gates.lookup key = none := by
  rw [Table.lookup_eq_none, hm.keys_eq]
  exact Table.lookup_eq_none.mp hmark

/-! ### The way of a request -/

namespace Shared

variable (m : Shared K V T)

/-- The cache when the builder of a key begins: the thread has its gate, with the handle of the
table and its own, and its mark is set. -/
def begun (t : T) (key : K) : Shared K V T :=
  { (m.makeGate key).share m.made with
    marks := m.marks.put key t, locked := Function.update m.locked (.gate m.made) true }

/-- The gate is that of the key. -/
theorem lookup_gates_begun (t : T) (key : K) :
    (m.begun t key).gates.lookup key = some m.made := by
  simp [begun, makeGate, share, Table.lookup_put]

/-- The mark names the thread, and the others stay. -/
theorem lookup_marks_begun (t : T) (key k : K) :
    (m.begun t key).marks.lookup k = if k = key then some t else m.marks.lookup k :=
  Table.lookup_put ..

/-- The gate has two handles, and the others have theirs. -/
theorem handles_begun (t : T) (key : K) (g : Gate) :
    (m.begun t key).handles g = if g = m.made then 2 else m.handles g := by
  by_cases h : g = m.made <;> simp [begun, makeGate, share, h]

/-- A value that was built is stored and counted. -/
def stored (key : K) : Outcome V → Shared K V T
  | .ok v => { m with entries := m.entries.put key v, builds := m.builds + 1 }
  | .error _ => m

/-- The cache when a request for a key that had a gate is over: gate and mark are gone. -/
def left (key : K) (g : Gate) (outcome : Outcome V) : Shared K V T :=
  { m.stored key outcome with
    gates := m.gates.remove key, marks := m.marks.remove key,
    handles := Function.update m.handles g 0,
    locked := Function.update m.locked (.gate g) false }

end Shared

section Way

variable [DecidableEq T] {t : T} {key : K} {m : Shared K V T}

/-- A request that finds its value counts it, and is over. -/
theorem reaches_hit {v : V} (hvalue : m.entries.lookup key = some v) :
    Reaches t key (m, .look) ({ m with hits := m.hits + 1 }, .done (.ok v)) :=
  .head (Move.found hvalue).goes (.single (Move.countHit v).goes)

/-- A request that finds no value reads the mark of its key. -/
theorem reaches_unlockMarks (habsent : m.entries.lookup key = none)
    (hfree : m.locked .marks = false) :
    Reaches t key (m, .look) (m.hold .marks, .unlockMarks (m.marks.lookup key = some t)) :=
  .head (Move.missed habsent).goes (.head (Move.lockMarks hfree).goes (.single Move.readMark.goes))

/-- A request for a key that its own thread is building is refused, and changes nothing. -/
theorem reaches_refused (habsent : m.entries.lookup key = none)
    (hfree : m.locked .marks = false) (hown : m.marks.lookup key = some t) :
    Reaches t key (m, .look) (m, .done (.error (.reentrantBuild m.name))) := by
  have hread := reaches_unlockMarks (t := t) habsent hfree
  have hrefuse : Move t key (m.hold .marks) (.unlockMarks true) .refuse
      ((m.hold .marks).release .marks) (.done (.error (.reentrantBuild m.name))) := .refused
  rw [decide_eq_true hown] at hread
  rw [Shared.release_hold hfree] at hrefuse
  exact hread.tail hrefuse.goes

/-- A request for a key without a gate makes one and enters it. -/
theorem Quiet.reaches_lookAgain (hm : Quiet t m) (hgate : m.gates.lookup key = none) :
    Reaches t key (m, .lockGates)
      (((m.makeGate key).share m.made).hold (.gate m.made), .lookAgain m.made) := by
  have hrelease : (((m.hold .gates).makeGate key).share m.made).release .gates =
      (m.makeGate key).share m.made := by
    simp only [Shared.hold, Shared.makeGate, Shared.share, Shared.release,
      Shared.update_locked hm.gates_free]
  have hmake : Move t key (m.hold .gates) .takeGate .make
      (((m.hold .gates).makeGate key).share m.made) (.unlockGates m.made) := .makeGate hgate
  have hunlock : Move t key (((m.hold .gates).makeGate key).share m.made) (.unlockGates m.made)
      .other ((m.makeGate key).share m.made) (.lockGate m.made) := hrelease ▸ .unlockGates m.made
  have hfree : ((m.makeGate key).share m.made).locked (.gate m.made) = false :=
    hm.fresh_free m.made (Nat.le_refl _)
  exact .head (Move.lockGates hm.gates_free).goes
    (.head hmake.goes (.head hunlock.goes (.single (Move.lockGate hfree).goes)))

/-- A request that has its gate and finds no value sets its mark and starts the builder. -/
theorem reaches_building {g : Gate} (habsent : m.entries.lookup key = none)
    (hfree : m.locked .marks = false) :
    Reaches t key (m, .lookAgain g) ({ m with marks := m.marks.put key t }, .building g) := by
  have hset : Move t key (m.hold .marks) (.setMark g) .other
      { m.hold .marks with marks := m.marks.put key t } (.unlockMarksSet g) := .setMark g
  have hrelease : Shared.release { m.hold .marks with marks := m.marks.put key t } .marks =
      { m with marks := m.marks.put key t } := by
    simp only [Shared.hold, Shared.release, Shared.update_locked hfree]
  have hunlock : Move t key { m.hold .marks with marks := m.marks.put key t } (.unlockMarksSet g)
      .start { m with marks := m.marks.put key t } (.building g) := hrelease ▸ .unlockMarksSet g
  exact .head (Move.missedLate habsent).goes (.head (Move.lockMarksToSet hfree).goes
    (.head hset.goes (.single hunlock.goes)))

/-- A request for a key that nobody is building makes a gate, sets its mark and starts the
builder. -/
theorem Quiet.reaches_begun (hm : Quiet t m) (habsent : m.entries.lookup key = none)
    (hmark : m.marks.lookup key = none) :
    Reaches t key (m, .look) (m.begun t key, .building m.made) := by
  have hread := reaches_unlockMarks (t := t) habsent hm.marks_free
  have hadmit : Move t key (m.hold .marks) (.unlockMarks false) .other
      ((m.hold .marks).release .marks) .lockGates := .admitted
  rw [hmark] at hread
  rw [Shared.release_hold hm.marks_free] at hadmit
  have henter := hm.reaches_lookAgain (hm.gates_lookup_eq_none hmark)
  exact ((hread.tail hadmit.goes).trans henter).trans (reaches_building habsent hm.marks_free)

/-- A request whose builder ended takes its mark away. -/
theorem reaches_clearMark {g : Gate} {outcome : Outcome V} (hfree : m.locked .marks = false) :
    Reaches t key (m, .lockMarksToClear g outcome)
      ({ m.hold .marks with marks := m.marks.remove key }, .unlockMarksCleared g outcome) :=
  .head (Move.lockMarksToClear hfree).goes (.single (Move.clearMark g outcome).goes)

/-- A request that has the only handle on its gate besides the table takes the gate out of the table
and is over. -/
theorem reaches_gateLeft {g : Gate} {outcome : Outcome V} (hfree : m.locked .gates = false)
    (hgate : m.gates.lookup key = some g) (hhandles : m.handles g = 2) :
    Reaches t key (m, .lockGatesToLeave g outcome)
      ({ m with gates := m.gates.remove key,
                handles := Function.update m.handles g 0,
                locked := Function.update m.locked (.gate g) false }, .done outcome) := by
  have hlock : Reaches t key (m, .lockGatesToLeave g outcome)
      (m.hold .gates, .removeGate g outcome) := by
    cases outcome with
    | ok v => exact .single (Move.lockGatesBuilt hfree).goes
    | error error =>
      have hfew : (((m.hold .gates).gates.lookup key).map (m.hold .gates).handles).any (· ≤ 2) =
          true := by
        change ((m.gates.lookup key).map m.handles).any (· ≤ 2) = true
        rw [hgate, Option.map_some, hhandles]
        rfl
      exact .head (Move.lockGatesFailed hfree).goes (.single (Move.fewHandles hfew).goes)
  let removed : Shared K V T := { m with gates := m.gates.remove key }
  have hremove : Move t key (m.hold .gates) (.removeGate g outcome) .other (removed.hold .gates)
      (.dropRemoved g (some g) outcome) := hgate ▸ .removeGate g outcome
  have hdrop : Move t key (removed.hold .gates) (.dropRemoved g (some g) outcome) .other
      ((removed.hold .gates).drop g) (.unlockGatesLeft g outcome) := .dropRemoved g g outcome
  have hrelease : ((removed.hold .gates).drop g).release .gates = removed.drop g := by
    simp only [removed, Shared.hold, Shared.drop, Shared.release, Shared.update_locked hfree]
  have hunlock : Move t key ((removed.hold .gates).drop g) (.unlockGatesLeft g outcome) .other
      (removed.drop g) (.unlockGate g outcome) := hrelease ▸ .unlockGatesLeft g outcome
  have hend : ((removed.drop g).release (.gate g)).drop g =
      { m with gates := m.gates.remove key,
               handles := Function.update m.handles g 0,
               locked := Function.update m.locked (.gate g) false } := by
    simp only [removed, Shared.drop, Shared.release, Function.update_self, Function.update_idem,
      hhandles]
  rw [← hend]
  exact hlock.trans (.head hremove.goes (.head hdrop.goes (.head hunlock.goes
    (.head (Move.unlockGate g outcome).goes (.single (Move.dropHandle g outcome).goes)))))

/-- A request whose builder ended stores and counts the value, if there is one, and is over. -/
theorem Quiet.reaches_left {g : Gate} {outcome : Outcome V} (hm : Quiet t m)
    (hgate : m.gates.lookup key = some g) (hhandles : m.handles g = 2) :
    Reaches t key (m, .lockMarksToClear g outcome) (m.left key g outcome, .done outcome) := by
  let cleared : Shared K V T := { m with marks := m.marks.remove key }
  have hrelease : Shared.release { m.hold .marks with marks := m.marks.remove key } .marks =
      cleared := by
    simp only [cleared, Shared.hold, Shared.release, Shared.update_locked hm.marks_free]
  refine (reaches_clearMark hm.marks_free).trans ?_
  cases outcome with
  | ok v =>
    have hunlock : Move t key { m.hold .marks with marks := m.marks.remove key }
        (.unlockMarksCleared g (.ok v)) .other cleared (.store g v) :=
      hrelease ▸ .unlockMarksBuilt g v
    exact .head hunlock.goes (.head (Move.store g v).goes (.head (Move.countBuild g v).goes
      (reaches_gateLeft hm.gates_free hgate hhandles)))
  | error error =>
    have hunlock : Move t key { m.hold .marks with marks := m.marks.remove key }
        (.unlockMarksCleared g (.error error)) .other cleared
        (.lockGatesToLeave g (.error error)) := hrelease ▸ .unlockMarksFailed g error
    exact .head hunlock.goes (reaches_gateLeft hm.gates_free hgate hhandles)

end Way

/-! ### The cache before and after a build -/

section Build

variable {t : T} {key : K} {m m' : Shared K V T}

/-- The cache that a builder finds is the one that was entered for its key. -/
theorem Quiet.cache_begun (hm : Quiet t m) (hmark : m.marks.lookup key = none) :
    (m.begun t key).cache = m.cache.enter key := by
  simp only [Shared.cache, Shared.begun, Shared.makeGate, Shared.share, BuildCache.enter, Table.put,
    Table.remove_of_lookup_eq_none hmark,
    Table.remove_of_lookup_eq_none (hm.gates_lookup_eq_none hmark), List.map_cons]

/-- A builder that begins finds a cache that no other thread uses. -/
theorem Quiet.begun (hm : Quiet t m) (habsent : m.entries.lookup key = none)
    (hmark : m.marks.lookup key = none) : Quiet t (m.begun t key) := by
  have hmarks := m.lookup_marks_begun t key
  have hkeys {A : Type} {table : Table K A} (h : table.lookup key = none) (a : A) :
      (table.put key a).map Prod.fst = key :: table.map Prod.fst := by
    rw [Table.put, Table.remove_of_lookup_eq_none h, List.map_cons]
  refine ⟨hm.marks_free, hm.gates_free, fun g hg => ?_, ?_, ?_, fun {k} hk => ?_, fun {k} hk => ?_⟩
  · have hne : Lock.gate g ≠ .gate m.made := by
      rintro ⟨⟩
      exact absurd hg (Nat.not_succ_le_self _)
    exact (Function.update_of_ne hne ..).trans (hm.fresh_free g (Nat.le_of_succ_le hg))
  · change (m.gates.put key m.made).map Prod.fst = (m.marks.put key t).map Prod.fst
    rw [hkeys hmark, hkeys (hm.gates_lookup_eq_none hmark), hm.keys_eq]
  · exact Table.nodup_put hm.nodup key t
  · rw [hmarks] at hk ⊢
    split
    · rfl
    · next hne =>
      rw [if_neg hne] at hk
      exact hm.own hk
  · rw [hmarks] at hk
    by_cases heq : k = key
    · exact heq ▸ habsent
    · rw [if_neg heq] at hk
      exact hm.absent hk

/-- When a build of a marked key is over, the cache has its value, if there is one, and was left. -/
theorem Quiet.cache_left (hm : Quiet t m) (hmark : m.marks.lookup key ≠ none) (g : Gate)
    (outcome : Outcome V) :
    (m.left key g outcome).cache = m.cache.close key outcome := by
  have hgates := Table.keys_remove (hm.keys_eq ▸ hm.nodup) key
  have hmarks := Table.keys_remove hm.nodup key
  cases outcome with
  | ok v =>
    simp only [Shared.cache, Shared.left, Shared.stored, BuildCache.close, BuildCache.keep,
      BuildCache.leave, hgates, hmarks, Table.put, Table.remove_of_lookup_eq_none (hm.absent hmark)]
  | error error =>
    simp only [Shared.cache, Shared.left, Shared.stored, BuildCache.close, BuildCache.leave, hgates,
      hmarks]

/-- A build that keeps what its builder found leaves what the request found. -/
theorem Quiet.kept_left (hm : Quiet t m) (hmark : m.marks.lookup key = none)
    (h : Kept (m.begun t key) m') (outcome : Outcome V) :
    Kept m (m'.left key m.made outcome) := by
  refine ⟨?_, ?_, ?_, ?_, fun g hg => ?_, fun {k} hk hkabsent => ?_⟩
  · change Function.update m'.locked (.gate m.made) false = _
    rw [h.locked]
    exact Shared.update_locked (hm.fresh_free m.made (Nat.le_refl _))
  · change m'.gates.remove key = _
    rw [h.gates]
    exact Table.remove_put _ (hm.gates_lookup_eq_none hmark)
  · change m'.marks.remove key = _
    rw [h.marks]
    exact Table.remove_put _ hmark
  · cases outcome <;> exact Nat.le_of_succ_le h.made_le
  · change Function.update m'.handles m.made 0 g = _
    rw [Function.update_of_ne (Nat.ne_of_lt hg), h.handles g (Nat.lt_succ_of_lt hg),
      Shared.handles_begun, if_neg (Nat.ne_of_lt hg)]
  · have hne : k ≠ key := fun heq => hk (heq ▸ hmark)
    have hbegun : (m.begun t key).marks.lookup k ≠ none := by
      rw [Shared.lookup_marks_begun, if_neg hne]
      exact hk
    have hkept := h.absent hbegun hkabsent
    cases outcome with
    | ok v =>
      change (m'.entries.put key v).lookup k = none
      rw [Table.lookup_put, if_neg hne]
      exact hkept
    | error error => exact hkept

end Build

/-! ### Requests that can be made -/

variable [DecidableEq T]

/-- A thread that has no request, or runs a builder, and so can make a request. -/
def State.Ready (s : State K V T) (t : T) : Prop :=
  s.threads t = [] ∨ ∃ key g rest, s.threads t = ⟨key, .building g⟩ :: rest

/-- A thread that can make a request makes it. -/
theorem State.Ready.ask {s : State K V T} {t : T} (h : s.Ready t) (key : K) :
    s.step? (.ask t key) =
      some (⟨t, key, .ask⟩, s.setThread t (⟨key, .look⟩ :: s.threads t)) := by
  rcases h with h | ⟨outer, g, rest, h⟩ <;> simp only [State.step?, h]

end KernelForge.Interleaving
