import KernelForge.Proofs.Interleaving.Exclusion

/-!
# One value for every key

The value of a key is the one that its only successful builder ended with: it is the entry from the
store on, no builder of the key begins after that, and every request for the key that ends with a
value ends with this one.
-/

namespace KernelForge.Interleaving

variable {K V T : Type}

/-! ### Values on their way to the table -/

/-- The value that a builder ended with and that a request at a stage is about to store. -/
@[simp] def Stage.pending? : Stage V → Option V
  | .lockMarksToClear _ outcome | .clearMark _ outcome | .unlockMarksCleared _ outcome =>
      outcome.toOption
  | .store _ v => some v
  | _ => none

/-- A value is on its way only at a stage that owns its gate. -/
theorem Stage.owned?_of_pending? {stage : Stage V} {v : V} (h : stage.pending? = some v) :
    ∃ g, stage.owned? = some g := by
  cases stage <;> first | exact ⟨_, rfl⟩ | cases h

/-- The key and the value that the request at a position, if there is one, is about to store. -/
def pendingAt (r : Option (Request K V)) : Option (K × V) :=
  r.bind fun r => r.stage.pending?.map (r.key, ·)

/-- Where no request is, no value is on its way. -/
@[simp] theorem pendingAt_none : pendingAt (none : Option (Request K V)) = none := rfl

/-- A request brings the value of its stage. -/
@[simp] theorem pendingAt_some (r : Request K V) :
    pendingAt (some r) = r.stage.pending?.map (r.key, ·) := rfl

/-- A value on its way is one that a request for its key brings. -/
theorem pendingAt_eq_some {o : Option (Request K V)} {key : K} {v : V} :
    pendingAt o = some (key, v) ↔ ∃ r, o = some r ∧ r.key = key ∧ r.stage.pending? = some v := by
  cases o with
  | none => simp
  | some r => simp [and_comm]

variable [DecidableEq K]

/-- The value that a builder ended with in a step. -/
def Action.built? : Action V → Option V
  | .finish (.ok v) => some v
  | _ => none

/-- The values that the builders of a key ended with in a number of steps. -/
def successes (key : K) (trace : List (Event K V T)) : List V :=
  trace.filterMap fun e => if e.key = key then e.action.built? else none

/-- A step for another key adds no value. -/
theorem successes_snoc_of_ne {key : K} (trace : List (Event K V T)) {e : Event K V T}
    (h : e.key ≠ key) : successes key (trace ++ [e]) = successes key trace := by
  simp [successes, h]

/-- Neither does one in which no builder ends with a value. -/
theorem successes_snoc_of_none (key : K) (trace : List (Event K V T)) {e : Event K V T}
    (h : e.action.built? = none) : successes key (trace ++ [e]) = successes key trace := by
  simp [successes, h]

/-- A builder that ends with a value adds it. -/
theorem successes_snoc (trace : List (Event K V T)) {e : Event K V T} {v : V}
    (h : e.action.built? = some v) :
    successes e.key (trace ++ [e]) = successes e.key trace ++ [v] := by
  simp [successes, h]

variable [DecidableEq T]

/-- A step keeps the entries and the values on their way, ends a builder with a value, or stores
one. -/
theorem Effect.values {t : T} {m m' : Shared K V T} {o o' : Option (Request K V)} {key : K}
    {action : Action V} (h : Effect t m o key action m' o') :
    (m'.entries = m.entries ∧ pendingAt o' = pendingAt o ∧ action.built? = none) ∨
      (∃ g v, o = some ⟨key, .building g⟩ ∧ action.built? = some v ∧
        m'.entries = m.entries ∧ pendingAt o' = some (key, v)) ∨
      ∃ g v, o = some ⟨key, .store g v⟩ ∧ action.built? = none ∧
        m'.entries = m.entries.put key v ∧ pendingAt o' = none := by
  cases h with
  | ask | answer => exact .inl ⟨rfl, rfl, rfl⟩
  | @finish _ g outcome =>
    cases outcome with
    | ok v => exact .inr (.inl ⟨g, v, rfl, rfl, rfl, rfl⟩)
    | error error => exact .inl ⟨rfl, rfl, rfl⟩
  | move h =>
    cases h
    case store g v => exact .inr (.inr ⟨g, v, rfl, rfl, rfl, rfl⟩)
    all_goals exact .inl ⟨rfl, rfl, rfl⟩

/-- Before a builder begins, its request has marked the key. -/
theorem Effect.before_start {t : T} {m m' : Shared K V T} {o o' : Option (Request K V)} {key : K}
    (h : Effect t m o key .start m' o') : ∃ g, o = some ⟨key, .unlockMarksSet g⟩ := by
  cases h with
  | move h =>
    cases h
    exact ⟨_, rfl⟩

/-- A request that ends with an outcome was done with it. -/
theorem Effect.before_answer {t : T} {m m' : Shared K V T} {o o' : Option (Request K V)} {key : K}
    {outcome : Outcome V} (h : Effect t m o key (.answer outcome) m' o') :
    o = some ⟨key, .done outcome⟩ := by
  cases h with
  | answer => rfl
  | move h => cases h

/-! ### The history of a key -/

/-- A builder ended with the value of a key once if there is an entry or one is on its way, and not
at all otherwise. -/
structure Recorded (trace : List (Event K V T)) (s : State K V T) : Prop where
  stored : ∀ {key v}, s.shared.entries.lookup key = some v → successes key trace = [v]
  pending : ∀ {p key v}, pendingAt (s.request? p) = some (key, v) → successes key trace = [v]
  absent : ∀ {key}, s.shared.entries.lookup key = none →
    (∀ p v, pendingAt (s.request? p) ≠ some (key, v)) → successes key trace = []

omit [DecidableEq T] in
/-- There is no value at the start. -/
theorem recorded_start (name : String) : Recorded [] (State.start name : State K V T) where
  stored h := by cases h
  pending h := by simp [request?_start] at h
  absent _ _ := rfl

section Recorded

variable {trace : List (Event K V T)} {s s' : State K V T} {e : Event K V T} {p : Position T}
  {g : Gate} {v : V}

/-- Values at other positions stay on their way. -/
theorem StepAt.pendingAt_of_ne (hat : StepAt s e s' p) {q : Position T} (hq : q ≠ p) :
    pendingAt (s'.request? q) = pendingAt (s.request? q) := by
  rw [hat.frame q hq]

/-- A step that keeps the entries and the values on their way keeps the accord. -/
theorem Recorded.step_same (h : Recorded trace s) (hat : StepAt s e s' p)
    (hentries : s'.shared.entries = s.shared.entries)
    (hsame : pendingAt (s'.request? p) = pendingAt (s.request? p))
    (hquiet : e.action.built? = none) : Recorded (trace ++ [e]) s' := by
  have hall := hat.same hsame
  have htrace (key : K) : successes key (trace ++ [e]) = successes key trace :=
    successes_snoc_of_none key trace hquiet
  refine ⟨fun hv => ?_, fun hv => ?_, fun hnone hv => ?_⟩
  · rw [htrace]
    exact h.stored (hentries ▸ hv)
  · rw [htrace]
    exact h.pending (hall _ ▸ hv)
  · rw [htrace]
    exact h.absent (hentries ▸ hnone) fun q v => hall q ▸ hv q v

omit [DecidableEq T] in
/-- While a builder of a key runs, no value of the key is on its way. -/
theorem Coherent.pendingAt_ne (hs : Coherent s) (hbefore : s.request? p = some ⟨e.key, .building g⟩)
    (q : Position T) (w : V) : pendingAt (s.request? q) ≠ some (e.key, w) := by
  intro hw
  obtain ⟨r, hr, hkey, hvalue⟩ := pendingAt_eq_some.mp hw
  obtain ⟨g', howned⟩ := Stage.owned?_of_pending? hvalue
  have hqp := hs.owner_unique hbefore hr hkey rfl howned
  rw [← hqp, hbefore] at hw
  cases hw

/-- A builder that ends with a value is the first of its key that does: there was no entry, and no
other value was on its way. -/
theorem Recorded.step_built (h : Recorded trace s) (hs : Coherent s) (hat : StepAt s e s' p)
    (hbefore : s.request? p = some ⟨e.key, .building g⟩) (haction : e.action.built? = some v)
    (hentries : s'.shared.entries = s.shared.entries)
    (hafter : pendingAt (s'.request? p) = some (e.key, v)) : Recorded (trace ++ [e]) s' := by
  have hentry : s.shared.entries.lookup e.key = none := (hs.fits hbefore).unstored rfl
  have halone := hs.pendingAt_ne hbefore
  have hone : successes e.key (trace ++ [e]) = [v] := by
    rw [successes_snoc trace haction, h.absent hentry halone, List.nil_append]
  have hother {key : K} (hkey : e.key ≠ key) :
      successes key (trace ++ [e]) = successes key trace :=
    successes_snoc_of_ne trace hkey
  refine ⟨fun {key w} hw => ?_, fun {q key w} hw => ?_, fun {key} hnone hw => ?_⟩
  · rw [hentries] at hw
    rw [hother fun heq => by rw [← heq, hentry] at hw; cases hw]
    exact h.stored hw
  · by_cases hq : q = p
    · rw [hq, hafter] at hw
      cases hw
      exact hone
    · rw [hat.pendingAt_of_ne hq] at hw
      rw [hother fun heq => halone q w (heq ▸ hw)]
      exact h.pending hw
  · have hkey : e.key ≠ key := fun heq => hw p v (heq ▸ hafter)
    rw [hother hkey]
    refine h.absent (hentries ▸ hnone) fun q w hq => ?_
    by_cases hqp : q = p
    · rw [hqp, hbefore] at hq
      cases hq
    · exact hw q w (hat.pendingAt_of_ne hqp ▸ hq)

/-- A value that is stored was on its way. -/
theorem Recorded.step_stored (h : Recorded trace s) (hat : StepAt s e s' p)
    (hbefore : pendingAt (s.request? p) = some (e.key, v)) (hquiet : e.action.built? = none)
    (hentries : s'.shared.entries = s.shared.entries.put e.key v)
    (hafter : pendingAt (s'.request? p) = none) : Recorded (trace ++ [e]) s' := by
  have htrace (key : K) : successes key (trace ++ [e]) = successes key trace :=
    successes_snoc_of_none key trace hquiet
  refine ⟨fun {key w} hw => ?_, fun {q key w} hw => ?_, fun {key} hnone hw => ?_⟩
  · rw [htrace]
    rw [hentries, Table.lookup_put] at hw
    by_cases hkey : key = e.key
    · rw [if_pos hkey] at hw
      cases hw
      exact h.pending (hkey ▸ hbefore)
    · rw [if_neg hkey] at hw
      exact h.stored hw
  · rw [htrace]
    by_cases hq : q = p
    · rw [hq, hafter] at hw
      cases hw
    · exact h.pending (hat.pendingAt_of_ne hq ▸ hw)
  · rw [htrace]
    rw [hentries, Table.lookup_put] at hnone
    have hkey : key ≠ e.key := by
      intro heq
      rw [if_pos heq] at hnone
      cases hnone
    rw [if_neg hkey] at hnone
    refine h.absent hnone fun q w hq => ?_
    by_cases hqp : q = p
    · rw [hqp, hbefore] at hq
      cases hq
      exact hkey rfl
    · exact hw q w (hat.pendingAt_of_ne hqp ▸ hq)

/-- A step keeps the history of every key in accord with the entries. -/
theorem Recorded.step (h : Recorded trace s) (hs : Coherent s) (hat : StepAt s e s' p) :
    Recorded (trace ++ [e]) s' := by
  rcases hat.effect.values with ⟨hentries, hsame, hquiet⟩ |
    ⟨g, v, hbefore, haction, hentries, hafter⟩ | ⟨g, v, hbefore, hquiet, hentries, hafter⟩
  · exact h.step_same hat hentries hsame hquiet
  · exact h.step_built hs hat hbefore haction hentries hafter
  · have hvalue : pendingAt (s.request? p) = some (e.key, v) := by rw [hbefore]; rfl
    exact h.step_stored hat hvalue hquiet hentries hafter

end Recorded

/-- The accord holds throughout a run. -/
theorem Run.recorded {name : String} {trace : List (Event K V T)} {s : State K V T}
    (hrun : Run (State.start name) trace s) : Recorded trace s :=
  hrun.trace_invariant (recorded_start name) fun hbefore _ hat h => h.step hbefore.coherent hat

/-! ### Entries stay -/

/-- A step keeps every entry. -/
theorem Coherent.entry_step {s s' : State K V T} {e : Event K V T} {p : Position T} {key : K}
    {v : V} (hs : Coherent s) (hat : StepAt s e s' p)
    (hentry : s.shared.entries.lookup key = some v) :
    s'.shared.entries.lookup key = some v := by
  rcases hat.effect.values with ⟨hentries, -⟩ | ⟨-, -, -, -, hentries, -⟩ |
    ⟨g, w, hbefore, -, hentries, -⟩
  · rw [hentries, hentry]
  · rw [hentries, hentry]
  · have hkey : key ≠ e.key := by
      intro heq
      have hnone := (hs.fits hbefore).unstored rfl
      rw [← heq, hentry] at hnone
      cases hnone
    rw [hentries, Table.lookup_put, if_neg hkey, hentry]

/-- A key that has an entry keeps it, and no builder of the key begins any more. -/
theorem Coherent.entry_run {s s' : State K V T} {later : List (Event K V T)} {key : K} {v : V}
    (hs : Coherent s) (hrun : Run s later s') (hentry : s.shared.entries.lookup key = some v) :
    s'.shared.entries.lookup key = some v ∧ ∀ e ∈ later, e.key = key → e.action ≠ .start := by
  induction hrun with
  | nil => exact ⟨hentry, fun e he => absurd he List.not_mem_nil⟩
  | @snoc s₁ s₂ later choice e hbefore hstep ih =>
    obtain ⟨hstill, hquiet⟩ := ih
    have hs₁ : Coherent s₁ := hbefore.invariant Coherent.step hs
    obtain ⟨p, hat⟩ := step_at hstep
    refine ⟨hs₁.entry_step hat hstill, fun e' he' hkey haction => ?_⟩
    rcases List.mem_append.mp he' with he' | he'
    · exact hquiet e' he' hkey haction
    · cases List.mem_singleton.mp he'
      have heffect := hat.effect
      rw [haction] at heffect
      obtain ⟨g, hmarked⟩ := heffect.before_start
      have hnone := (hs₁.fits hmarked).unstored rfl
      rw [hkey, hstill] at hnone
      cases hnone

/-- A request that ended with a value ended with the entry. -/
theorem Run.answered {name : String} {trace : List (Event K V T)} {s : State K V T}
    (hrun : Run (State.start name) trace s) {e : Event K V T} (he : e ∈ trace) {v : V}
    (haction : e.action = .answer (.ok v)) : s.shared.entries.lookup e.key = some v := by
  induction hrun with
  | nil => cases he
  | snoc hbefore hstep ih =>
    obtain ⟨p, hat⟩ := step_at hstep
    refine hbefore.coherent.entry_step hat ?_
    rcases List.mem_append.mp he with he | he
    · exact ih he
    · cases List.mem_singleton.mp he
      have heffect := hat.effect
      rw [haction] at heffect
      exact (hbefore.coherent.fits heffect.before_answer).known rfl

/-- However the steps of the threads come, no two builders of a key run at the same time, at most
one ever ends with a value, an entry stays as it is and no builder of its key begins after it is
there, and every request that ends with a value ends with that of the one builder. -/
theorem Run.built_at_most_once {name : String} {trace : List (Event K V T)} {s : State K V T}
    (hrun : Run (State.start name) trace s) :
    (∀ key p q g g', s.request? p = some ⟨key, .building g⟩ →
      s.request? q = some ⟨key, .building g'⟩ → p = q) ∧
    (∀ key, (successes key trace).length ≤ 1) ∧
    (∀ key v, s.shared.cache.get? key = some v → ∀ later s', Run s later s' →
      s'.shared.cache.get? key = some v ∧ ∀ e ∈ later, e.key = key → e.action ≠ .start) ∧
    ∀ e ∈ trace, ∀ v, e.action = .answer (.ok v) → successes e.key trace = [v] := by
  have hcoherent := hrun.coherent
  have hrecorded := hrun.recorded
  refine ⟨fun key p q g g' hp hq => hcoherent.owner_unique hp hq rfl rfl rfl, fun key => ?_,
    fun key v hentry later s' hlater => hcoherent.entry_run hlater hentry,
    fun e he v haction => hrecorded.stored (hrun.answered he haction)⟩
  cases hentry : s.shared.entries.lookup key with
  | some v =>
    rw [hrecorded.stored hentry]
    exact le_rfl
  | none =>
    by_cases hpending : ∃ p v, pendingAt (s.request? p) = some (key, v)
    · obtain ⟨p, v, hp⟩ := hpending
      rw [hrecorded.pending hp]
      exact le_rfl
    · rw [hrecorded.absent hentry fun p v hp => hpending ⟨p, v, hp⟩]
      exact Nat.zero_le 1

/-- Two threads ask for a key; the one waits for the gate until the other has built the value. -/
def sharedBuild : List (Choice Nat Nat Bool) :=
  Choice.ask true 0 :: Choice.ask false 0 :: List.replicate 7 (Choice.go true) ++
    List.replicate 7 (Choice.go false) ++ List.replicate 5 (Choice.go true) ++
    Choice.finish true (.ok 7) :: List.replicate 12 (Choice.go true) ++
    List.replicate 6 (Choice.go false)

/-- Both threads get the value that was built once. -/
theorem sharedBuild_once : ∃ events s, Run (State.start "kernels") events s ∧
    (⟨true, 0, .answer (.ok 7)⟩ : Event Nat Nat Bool) ∈ events ∧
    (⟨false, 0, .answer (.ok 7)⟩ : Event Nat Nat Bool) ∈ events ∧ successes 0 events = [7] := by
  obtain ⟨events, s, hperform, hfirst, hsecond⟩ :
      ∃ events s, (State.start "kernels").perform sharedBuild = some (events, s) ∧
        events[33]? = some ⟨true, 0, .answer (.ok 7)⟩ ∧
        events[39]? = some ⟨false, 0, .answer (.ok 7)⟩ := ⟨_, _, rfl, rfl, rfl⟩
  have hrun := State.run_of_perform hperform
  have hmem := List.mem_of_getElem? hfirst
  obtain ⟨-, -, -, hanswer⟩ := Run.built_at_most_once hrun
  exact ⟨events, s, hrun, hmem, List.mem_of_getElem? hsecond, hanswer _ hmem 7 rfl⟩

end KernelForge.Interleaving
