import KernelForge.Proofs.Interleaving.Waiting

/-!
# Requests come to their end

A request that cannot go on wants a lock that is taken. Who holds the lock of a table goes on. Who
holds a gate may have to wait as well, but then a builder of its key made a request that waits for
the gate of a smaller key. Keys do not get smaller for ever, so somebody goes on at all times. Every
step but a new request leaves fewer steps to make, so that the requests in flight can all be ended.
-/

namespace KernelForge.Interleaving

variable {K V T : Type}

/-! ### Locks that are wanted -/

namespace Stage

/-- The lock that a request at a stage takes next. -/
@[simp] def wanted? : Stage V → Option Lock
  | .lockMarks | .lockMarksToSet _ | .lockMarksToClear _ _ => some .marks
  | .lockGates | .lockGatesToLeave _ _ => some .gates
  | .lockGate g => some (.gate g)
  | _ => none

/-- Only one stage wants the lock of a gate. -/
theorem eq_lockGate_of_wanted? {stage : Stage V} {g : Gate} (h : stage.wanted? = some (.gate g)) :
    stage = .lockGate g := by
  cases stage <;> cases h
  rfl

/-- A request that holds the lock of a table neither runs its builder nor wants another lock. -/
theorem wanted?_of_holds {stage : Stage V} {l : Lock} (hl : ∀ g, l ≠ .gate g)
    (h : stage.holds l = true) : stage.wanted? = none ∧ ∀ g, stage ≠ .building g := by
  cases l with
  | gate g => exact absurd rfl (hl g)
  | marks | gates => cases stage <;> simp at h ⊢

end Stage

variable [DecidableEq K] [DecidableEq T]

/-- A request that does not run its builder and has not ended goes on unless it wants a lock that is
taken. -/
theorem Move.of_free (t : T) (key : K) {m : Shared K V T} {stage : Stage V}
    (hbuilding : ∀ g, stage ≠ .building g) (hdone : ∀ outcome, stage ≠ .done outcome)
    (hfree : ∀ l, stage.wanted? = some l → m.locked l = false) :
    ∃ action m' stage', Move t key m stage action m' stage' := by
  suffices h : (advance t key m stage).isSome by
    obtain ⟨⟨m', stage', action⟩, hadvance⟩ := Option.isSome_iff_exists.mp h
    exact ⟨action, m', stage', advance_eq_some.mp hadvance⟩
  cases stage
  case building g => exact absurd rfl (hbuilding g)
  case done outcome => exact absurd rfl (hdone outcome)
  case look | takeGate | lookAgain | countHandles =>
    simp only [advance]
    split <;> rfl
  case lockMarks | lockGates | lockGate | lockMarksToSet | lockMarksToClear =>
    simp [advance, Shared.acquire, hfree _ rfl]
  case lockGatesToLeave g outcome =>
    cases outcome <;> simp [advance, Shared.acquire, hfree _ rfl]
  case unlockMarks own => cases own <;> rfl
  case unlockMarksCleared g outcome => cases outcome <;> rfl
  case dropRemoved g removed outcome => cases removed <;> rfl
  all_goals rfl

/-- Whether the innermost request of a thread can make its next step, or is one whose builder runs,
which may ask for keys and end with anything. -/
def State.Advances (s : State K V T) (t : T) : Prop :=
  (∃ e s', s.step? (.go t) = some (e, s')) ∨
    ∃ key g rest, s.threads t = ⟨key, .building g⟩ :: rest

section Advances

variable {name : String} {s : State K V T} {t : T} {key : K} {stage : Stage V}
  {rest : List (Request K V)}

/-- A thread with a request advances unless the innermost one wants a lock that is taken. -/
theorem State.advances_or_wants (hthread : s.threads t = ⟨key, stage⟩ :: rest) :
    s.Advances t ∨ ∃ l, stage.wanted? = some l ∧ s.shared.locked l = true := by
  by_cases hbuilding : ∃ g, stage = .building g
  · obtain ⟨g, rfl⟩ := hbuilding
    exact .inl (.inr ⟨key, g, rest, hthread⟩)
  · by_cases hdone : ∃ outcome, stage = .done outcome
    · obtain ⟨outcome, rfl⟩ := hdone
      exact .inl (.inl ⟨⟨t, key, .answer outcome⟩, s.setThread t rest, by
        simp only [State.step?, hthread]⟩)
    · by_cases hwants : ∃ l, stage.wanted? = some l ∧ s.shared.locked l = true
      · exact .inr hwants
      · obtain ⟨action, m', stage', hmove⟩ := Move.of_free t key (m := s.shared)
          (fun g h => hbuilding ⟨g, h⟩) (fun outcome h => hdone ⟨outcome, h⟩)
          (fun l hl => by simpa using fun hlocked => hwants ⟨l, hl, hlocked⟩)
        exact .inl (.inl ⟨_, _, s.step?_go hthread hmove⟩)

/-- While the lock of a table is taken, the thread that holds it advances. -/
theorem Told.advances_of_locked (hs : Told name s) {l : Lock} (hl : ∀ g, l ≠ .gate g)
    (hlocked : s.shared.locked l = true) : ∃ t, s.Advances t := by
  obtain ⟨q, r, hq, hholds⟩ := hs.coherent.locking.exists_holder hlocked
  obtain ⟨hwanted, hbuilding⟩ := Stage.wanted?_of_holds hl hholds
  have hat := Option.isSome_iff_exists.mpr ⟨r, hq⟩
  obtain ⟨inner, rest, hthread, -⟩ := State.exists_innermost hat
  have htop : q.2 = rest.length :=
    State.eq_innermost hthread hat (hs.nested.innermost hq hbuilding (Nat.lt_succ_self _))
  have hinner := State.request?_innermost hthread
  rw [← htop, hq] at hinner
  cases hinner
  refine ⟨q.1, (State.advances_or_wants hthread).resolve_right ?_⟩
  rintro ⟨l', hl', -⟩
  rw [hwanted] at hl'
  cases hl'

/-- If nobody advances, the innermost request of a thread waits for a gate. -/
theorem Told.advances_or_waits (hs : Told name s) (hthread : s.threads t = ⟨key, stage⟩ :: rest) :
    (∃ t, s.Advances t) ∨ ∃ g, stage = .lockGate g ∧ s.shared.locked (.gate g) = true := by
  rcases State.advances_or_wants hthread with hadvances | ⟨l, hwants, hlocked⟩
  · exact .inl ⟨t, hadvances⟩
  · cases l with
    | marks => exact .inl (hs.advances_of_locked (by simp) hlocked)
    | gates => exact .inl (hs.advances_of_locked (by simp) hlocked)
    | gate g => exact .inr ⟨g, Stage.eq_lockGate_of_wanted? hwants, hlocked⟩

end Advances

/-! ### The chain of those who wait -/

section Order

variable {below : K → K → Prop} {name : String} {trace : List (Event K V T)} {s s' : State K V T}

/-- If a request waits for a gate, somebody advances: who holds the gate, or at the end of the chain
of those who wait for gates of smaller and smaller keys. -/
theorem OrderedRun.advances_of_lockGate (hwf : WellFounded below)
    (hrun : OrderedRun below (State.start name) trace s) (key : K) :
    ∀ {p g}, s.request? p = some ⟨key, .lockGate g⟩ → s.shared.locked (.gate g) = true →
      ∃ t, s.Advances t := by
  have htold := hrun.run.told
  have hapart := hrun.run.apart
  obtain ⟨keyOf, hkeyed⟩ := hrun.run.keyed
  induction key using hwf.transGen.induction with
  | _ key ih =>
    intro p g hp hlocked
    obtain ⟨q, r, hq, hholds⟩ := htold.coherent.locking.exists_holder hlocked
    have hentered : r.stage.entered? = some g := of_decide_eq_true hholds
    obtain ⟨hkey, -⟩ := hapart.holder_elsewhere htold.nested hkeyed hp hq hentered
    obtain ⟨⟨key', stage'⟩, rest, hthread, hle⟩ :=
      State.exists_innermost (Option.isSome_iff_exists.mpr ⟨r, hq⟩)
    have hinner := State.request?_innermost hthread
    rcases htold.advances_or_waits hthread with hadvances | ⟨g', rfl, hlocked'⟩
    · exact hadvances
    · rcases hle.eq_or_lt with heq | hlt
      · -- The holder is not the one that waits.
        rw [← heq, hq] at hinner
        cases hinner
        cases hentered
      · have hsmaller := hrun.ordered.transGen htold.nested hapart hlt hq hinner rfl
        exact ih key' (hkey ▸ hsmaller) hinner hlocked'

/-- While a request is in flight, somebody advances. -/
theorem OrderedRun.exists_advances (hwf : WellFounded below)
    (hrun : OrderedRun below (State.start name) trace s) (hbusy : ¬s.Idle) :
    ∃ t, s.Advances t := by
  obtain ⟨t, hbusy⟩ := not_forall.mp hbusy
  obtain ⟨⟨key, stage⟩, rest, hthread⟩ := List.exists_cons_of_ne_nil hbusy
  rcases hrun.run.told.advances_or_waits hthread with hadvances | ⟨g, rfl, hlocked⟩
  · exact hadvances
  · exact hrun.advances_of_lockGate hwf key (State.request?_innermost hthread) hlocked

/-! ### All requests end -/

/-- How many steps a request at a stage makes at most until it has ended. -/
def Stage.stepsLeft : Stage V → Nat
  | .look => 26
  | .lockMarks => 25
  | .readMark => 24
  | .unlockMarks _ => 23
  | .lockGates => 22
  | .takeGate => 21
  | .unlockGates _ => 20
  | .lockGate _ => 19
  | .lookAgain _ => 18
  | .lockMarksToSet _ => 17
  | .setMark _ => 16
  | .unlockMarksSet _ => 15
  | .building _ => 14
  | .lockMarksToClear _ _ => 13
  | .clearMark _ _ => 12
  | .unlockMarksCleared _ _ => 11
  | .store _ _ => 10
  | .countBuild _ _ => 9
  | .lockGatesToLeave _ _ => 8
  | .countHandles _ _ => 7
  | .removeGate _ _ => 6
  | .dropRemoved _ _ _ => 5
  | .countLateHit _ _ | .unlockGatesLeft _ _ => 4
  | .unlockGate _ _ => 3
  | .countHit _ | .dropHandle _ _ => 2
  | .done _ => 1

/-- How many steps the request at a position, if there is one, makes at most. -/
def stepsLeftAt (o : Option (Request K V)) : Nat := o.elim 0 (·.stage.stepsLeft)

/-- Every step but a new request leaves fewer to make. -/
theorem Effect.stepsLeft_lt {t : T} {m m' : Shared K V T} {o o' : Option (Request K V)} {key : K}
    {action : Action V} (h : Effect t m o key action m' o') (hask : action ≠ .ask) :
    stepsLeftAt o' < stepsLeftAt o := by
  cases h with
  | ask => exact absurd rfl hask
  | finish | answer => simp [stepsLeftAt, Stage.stepsLeft]
  | move h => cases h <;> simp [stepsLeftAt, Stage.stepsLeft]

/-- Such a number of steps goes on by another one. -/
theorem OrderedRun.append {trace' : List (Event K V T)} {s'' : State K V T}
    (h : OrderedRun below s trace s') (h' : OrderedRun below s' trace' s'') :
    OrderedRun below s (trace ++ trace') s'' := by
  induction h' with
  | nil => rwa [List.append_nil]
  | snoc _ hdescends hstep ih => exact List.append_assoc .. ▸ ih.snoc hdescends hstep

/-- A builder can end at any time, with any outcome. -/
theorem State.step?_finish {t : T} {key : K} {g : Gate} {rest : List (Request K V)}
    (hthread : s.threads t = ⟨key, .building g⟩ :: rest) (outcome : Outcome V) :
    s.step? (.finish t outcome) = some (⟨t, key, .finish outcome⟩,
      s.setThread t (⟨key, .lockMarksToClear g outcome⟩ :: rest)) := by
  simp only [State.step?, hthread]

variable (below) in
/-- A thread that advances makes a step that is no new request. -/
theorem State.Advances.step {t : T} (h : s.Advances t) :
    ∃ choice e s', s.Descends below choice ∧ s.step? choice = some (e, s') ∧ e.action ≠ .ask := by
  rcases h with ⟨e, s', hstep⟩ | ⟨key, g, rest, hthread⟩
  · exact ⟨.go t, e, s', trivial, hstep, fun hask => nomatch State.step?_ask hstep hask⟩
  · exact ⟨.finish t (.error (.reentrantBuild s.shared.name)), _, _, trivial,
      State.step?_finish hthread _, nofun⟩

/-- All requests in flight can be ended without new ones. -/
theorem OrderedRun.exists_idle (hwf : WellFounded below)
    (hrun : OrderedRun below (State.start name) trace s) :
    ∃ more s', OrderedRun below s more s' ∧ (∀ e ∈ more, e.action ≠ .ask) ∧ s'.Idle := by
  obtain ⟨S, hwithin, -⟩ := hrun.run.coherent.counted.balance
  change s.Within S at hwithin
  -- The induction is on the steps that are left to all requests.
  generalize hleft : ∑ p ∈ S, stepsLeftAt (s.request? p) = n
  induction n using Nat.strong_induction_on generalizing trace s S with
  | _ n ih =>
    by_cases hidle : s.Idle
    · exact ⟨[], s, .nil s, by simp, hidle⟩
    · obtain ⟨t, hadvances⟩ := hrun.exists_advances hwf hidle
      obtain ⟨choice, e, s₁, hdescends, hstep, hask⟩ := hadvances.step below
      obtain ⟨p, hat⟩ := step_at hstep
      have hlt := hat.effect.stepsLeft_lt hask
      have hsum := hwithin.sum_step hat (f := stepsLeftAt) rfl
      obtain ⟨more, s', hmore, hquiet, hidle'⟩ :=
        ih _ (by omega) (hrun.snoc hdescends hstep) (insert p S) (hwithin.step hat) rfl
      have hfirst : OrderedRun below s [e] s₁ := (OrderedRun.nil s).snoc hdescends hstep
      refine ⟨[e] ++ more, s', hfirst.append hmore, fun e' he' => ?_, hidle'⟩
      rcases List.mem_append.mp he' with he' | he'
      · rwa [List.mem_singleton.mp he']
      · exact hquiet e' he'

/-- However the steps of the threads come, as long as the builders ask for smaller keys only, or for
keys that their threads are building anyway: while a request is in flight, one of a thread can make
its next step or runs its builder, and all of them can be ended without new ones. A request that
waits for a gate waits for a request for the same key, and never for one of its own thread. -/
theorem OrderedRun.not_deadlocked (hwf : WellFounded below)
    (hrun : OrderedRun below (State.start name) trace s) :
    (¬s.Idle → ∃ t, s.Advances t) ∧
    (∃ more s', OrderedRun below s more s' ∧ (∀ e ∈ more, e.action ≠ .ask) ∧ s'.Idle) ∧
    ∀ p q key g r, s.request? p = some ⟨key, .lockGate g⟩ → s.request? q = some r →
      r.stage.entered? = some g → r.key = key ∧ q.1 ≠ p.1 := by
  obtain ⟨keyOf, hkeyed⟩ := hrun.run.keyed
  exact ⟨hrun.exists_advances hwf, hrun.exists_idle hwf, fun p q key g r hp hq hentered =>
    hrun.run.apart.holder_elsewhere hrun.run.told.nested hkeyed hp hq hentered⟩

/-- Steps that are chosen one after the other keep the order if only the first one may be a new
request. -/
theorem OrderedRun.of_perform {choice : Choice K V T} {choices : List (Choice K V T)}
    (hdescends : s.Descends below choice) (hquiet : ∀ c ∈ choices, ∀ t key, c ≠ .ask t key)
    (h : s.perform (choice :: choices) = some (trace, s')) : OrderedRun below s trace s' := by
  induction choices generalizing choice s trace with
  | nil =>
    obtain ⟨⟨e, s₁⟩, hstep, hrest⟩ := Option.bind_eq_some_iff.mp h
    cases hrest
    exact (OrderedRun.nil s).snoc hdescends hstep
  | cons next choices ih =>
    obtain ⟨⟨e, s₁⟩, hstep, hrest⟩ := Option.bind_eq_some_iff.mp h
    obtain ⟨⟨events, last⟩, hperform, heq⟩ := Option.map_eq_some_iff.mp hrest
    cases heq
    have hfirst : OrderedRun below s [e] s₁ := (OrderedRun.nil s).snoc hdescends hstep
    refine hfirst.append (ih ?_ (fun c hc => hquiet c (.tail _ hc)) hperform)
    cases next with
    | ask t key => exact absurd rfl (hquiet _ List.mem_cons_self t key)
    | go | finish => trivial

omit [DecidableEq K] [DecidableEq T] in
/-- A thread that makes no request may ask for any key. -/
theorem State.descends_of_nil {t : T} (h : s.threads t = []) (key : K) :
    s.Descends below (.ask t key) := by
  intro n outer houter
  simp [State.request?, h] at houter

omit [DecidableEq K] [DecidableEq T] in
/-- The innermost builder of a thread may ask for a smaller key, and for one that is being built. -/
theorem State.descends_of_cons {t : T} {r : Request K V} {rest : List (Request K V)} {key : K}
    (h : s.threads t = r :: rest)
    (hkey : below key r.key ∨ s.Builds (t, rest.length + 1) key) :
    s.Descends below (.ask t key) := by
  intro n outer houter hinner
  obtain rfl := State.eq_innermost h (Option.isSome_iff_exists.mpr ⟨outer, houter⟩) hinner
  rw [State.request?_innermost h] at houter
  cases houter
  exact hkey

end Order

/-- Two threads build a key each. The builder of the larger key asks for the smaller one, and has to
wait for the other thread; the builder of the smaller key asks for this key itself. -/
def crossedRequests : List (List (Choice Nat Nat Bool)) :=
  [.ask true 1 :: List.replicate 12 (.go true), .ask false 0 :: List.replicate 12 (.go false),
    .ask true 0 :: List.replicate 7 (.go true), [.ask false 0]]

/-- The thread that waits holds the gate of the larger key, and it can be brought to its end. -/
theorem crossedRequests_end : ∃ (events : List (Event Nat Nat Bool)) (s : State Nat Nat Bool),
    OrderedRun (· < ·) (State.start "kernels") events s ∧
    s.request? (true, 1) = some ⟨0, .lockGate 1⟩ ∧ s.shared.locked (.gate 1) = true ∧
    (∃ t, s.Advances t) ∧
    ∃ more s', OrderedRun (· < ·) s more s' ∧ (∀ e ∈ more, e.action ≠ .ask) ∧ s'.Idle := by
  obtain ⟨e₁, s₁, e₂, s₂, e₃, s₃, e₄, s, h₁, h₂, h₃, h₄, hidle, hbuilds, hbuilding, hwaits, htaken⟩ :
      ∃ e₁ s₁ e₂ s₂ e₃ s₃ e₄ s,
        (State.start "kernels").perform (crossedRequests[0]) = some (e₁, s₁) ∧
        s₁.perform (crossedRequests[1]) = some (e₂, s₂) ∧
        s₂.perform (crossedRequests[2]) = some (e₃, s₃) ∧
        s₃.perform (crossedRequests[3]) = some (e₄, s) ∧
        s₁.threads false = [] ∧ s₂.threads true = [⟨1, .building 0⟩] ∧
        s₃.threads false = [⟨0, .building 1⟩] ∧
        s.request? (true, 1) = some ⟨0, .lockGate 1⟩ ∧ s.shared.locked (.gate 1) = true :=
    ⟨_, _, _, _, _, _, _, _, rfl, rfl, rfl, rfl, rfl, rfl, rfl, rfl, rfl⟩
  have hrun₁ : OrderedRun (· < ·) (State.start "kernels") e₁ s₁ := .of_perform
    (State.descends_of_nil rfl 1) (by simp) h₁
  have hrun₂ : OrderedRun (· < ·) s₁ e₂ s₂ := .of_perform
    (State.descends_of_nil hidle 0) (by simp) h₂
  have hrun₃ : OrderedRun (· < ·) s₂ e₃ s₃ := .of_perform
    (State.descends_of_cons hbuilds (.inl Nat.zero_lt_one)) (by simp) h₃
  have hinside : s₃.Builds (false, 1) 0 :=
    ⟨0, Nat.zero_lt_one, 1, State.request?_innermost hbuilding⟩
  have hrun₄ : OrderedRun (· < ·) s₃ e₄ s := .of_perform
    (State.descends_of_cons hbuilding (.inr hinside)) (by simp) h₄
  have hrun := ((hrun₁.append hrun₂).append hrun₃).append hrun₄
  obtain ⟨hadvances, hend, -⟩ := OrderedRun.not_deadlocked Nat.lt_wfRel.wf hrun
  refine ⟨_, s, hrun, hwaits, htaken, hadvances fun hidle => ?_, hend⟩
  rw [request?_of_idle hidle] at hwaits
  cases hwaits

end KernelForge.Interleaving
