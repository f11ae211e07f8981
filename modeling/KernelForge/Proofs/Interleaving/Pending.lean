import KernelForge.Proofs.Interleaving.Exclusion

/-!
# Gates that are left over

A gate is made for a request and taken out of the table by the request that stores a value, or by
one whose builder failed and that counts no more than two handles. When all requests have ended, the
gate of a key is still there exactly if the last of these things that happened for the key was that
a gate was made, or that more handles were counted. Both can happen: a gate may be made for a
request that looked the key up before the value was stored, and a handle may be counted of a request
that is about to end.
-/

namespace KernelForge.Interleaving

variable {K V T : Type}

/-- Whether a gate is there for a key from now on, when this is told of a step. -/
def Action.leavesGate? : Action V → Option Bool
  | .make => some true
  | .store _ => some false
  | .judge handles => some (!handles.any (· ≤ 2))
  | .ask | .hit | .refuse | .start | .finish _ | .answer _ | .other => none

variable [DecidableEq K]

/-- Whether the last step for a key that made a gate, stored a value or counted handles leaves a
gate. -/
def gateLeft (key : K) (trace : List (Event K V T)) : Bool :=
  ((trace.filter (·.key = key)).filterMap (·.action.leavesGate?)).getLastD false

/-- A step that is told nothing of gates leaves what was left. -/
theorem gateLeft_snoc_of_none (key : K) (trace : List (Event K V T)) {e : Event K V T}
    (h : e.action.leavesGate? = none) : gateLeft key (trace ++ [e]) = gateLeft key trace := by
  by_cases hkey : e.key = key
  · simp [gateLeft, hkey, h]
  · simp [gateLeft, hkey]

/-- So does a step for another key. -/
theorem gateLeft_snoc_of_ne {key : K} (trace : List (Event K V T)) {e : Event K V T}
    (h : e.key ≠ key) : gateLeft key (trace ++ [e]) = gateLeft key trace := by
  simp [gateLeft, h]

/-- A step that is told something of the gate decides. -/
theorem gateLeft_snoc (trace : List (Event K V T)) {e : Event K V T} {left : Bool}
    (h : e.action.leavesGate? = some left) : gateLeft e.key (trace ++ [e]) = left := by
  simp [gateLeft, h]

/-- A request that removes a gate after a failure owns it. -/
theorem Stage.owned?_of_abandoned? {stage : Stage V} {g : Gate} (h : stage.abandoned? = some g) :
    stage.owned? = some g := by
  cases stage
  case removeGate g' outcome => cases outcome <;> first | exact h | cases h
  all_goals cases h

/-! ### Steps -/

/-- A request that is going to take the gate of its key out of the table, or to fail and judge
it. -/
def Engaged (m : Shared K V T) (r : Request K V) : Prop :=
  r.stage.owned?.isSome ∨ r.stage.awaited?.isSome ∧ m.entries.lookup r.key = none

/-- What a step does to the gate of its key. -/
inductive GateStep (m : Shared K V T) (key : K) :
    Option (Request K V) → Option Bool → Shared K V T → Option (Request K V) → Prop
  | quiet {o o' : Option (Request K V)} {m' : Shared K V T} :
      m'.entries = m.entries → m'.gates = m.gates →
      (∀ r, o = some r → Engaged m r → ∃ r', o' = some r' ∧ r'.key = r.key ∧ Engaged m r') →
      (∀ r', o' = some r' → r'.stage.owned?.isSome →
        m.entries.lookup r'.key = none ∨ ∃ r, o = some r ∧ r.key = r'.key ∧ r.stage.owned?.isSome) →
      (∀ r', o' = some r' → r'.stage.abandoned? = none) → GateStep m key o none m' o'
  | make : m.gates.lookup key = none →
      GateStep m key (some ⟨key, .takeGate⟩) (some true) ((m.makeGate key).share m.made)
        (some ⟨key, .unlockGates m.made⟩)
  | store (g : Gate) (v : V) :
      GateStep m key (some ⟨key, .store g v⟩) (some false)
        { m with entries := m.entries.put key v } (some ⟨key, .countBuild g v⟩)
  | remove (g : Gate) (outcome : Outcome V) :
      GateStep m key (some ⟨key, .removeGate g outcome⟩) none
        { m with gates := m.gates.remove key }
        (some ⟨key, .dropRemoved g (m.gates.lookup key) outcome⟩)
  | judgeFew (g : Gate) (error : KernelError) :
      GateStep m key (some ⟨key, .countHandles g error⟩) (some false) m
        (some ⟨key, .removeGate g (.error error)⟩)
  | judgeMany (g : Gate) (error : KernelError) :
      GateStep m key (some ⟨key, .countHandles g error⟩) (some true) m
        (some ⟨key, .unlockGatesLeft g (.error error)⟩)

/-- A step that leaves the tables alone does nothing to the gate if the request waits for the same
gate and owns the same gate as before. -/
theorem GateStep.same {m m' : Shared K V T} {key : K} {stage stage' : Stage V}
    (hentries : m'.entries = m.entries) (hgates : m'.gates = m.gates)
    (howned : stage'.owned? = stage.owned?) (hawaited : stage'.awaited? = stage.awaited?)
    (habandoned : stage'.abandoned? = none) :
    GateStep m key (some ⟨key, stage⟩) none m' (some ⟨key, stage'⟩) := by
  refine .quiet hentries hgates ?_ ?_ ?_
  · rintro r ⟨⟩ hengaged
    refine ⟨_, rfl, rfl, ?_⟩
    change stage'.owned?.isSome ∨ stage'.awaited?.isSome ∧ m.entries.lookup key = none
    rw [howned, hawaited]
    exact hengaged
  · rintro r' ⟨⟩ hr'
    exact .inr ⟨_, rfl, rfl, howned ▸ hr'⟩
  · rintro r' ⟨⟩
    exact habandoned

/-- A step that leaves the tables alone does nothing to the gate if the request neither waits for a
gate nor owns one before, and owns none afterwards. -/
theorem GateStep.apart {m m' : Shared K V T} {key : K} {stage stage' : Stage V}
    (hentries : m'.entries = m.entries) (hgates : m'.gates = m.gates)
    (howned : stage.owned? = none) (hawaited : stage.awaited? = none)
    (howned' : stage'.owned? = none) (habandoned : stage'.abandoned? = none) :
    GateStep m key (some ⟨key, stage⟩) none m' (some ⟨key, stage'⟩) := by
  refine .quiet hentries hgates ?_ ?_ ?_
  · rintro r ⟨⟩ (hr | ⟨hr, -⟩)
    · rw [howned] at hr
      cases hr
    · rw [hawaited] at hr
      cases hr
  · rintro r' ⟨⟩ hr'
    rw [howned'] at hr'
    cases hr'
  · rintro r' ⟨⟩
    exact habandoned

variable [DecidableEq T]

/-- Every step is one of these. -/
theorem Effect.gateStep {t : T} {m m' : Shared K V T} {o o' : Option (Request K V)} {key : K}
    {action : Action V} (h : Effect t m o key action m' o') :
    GateStep m key o action.leavesGate? m' o' := by
  cases h with
  | ask =>
    refine .quiet rfl rfl ?_ ?_ ?_
    · rintro r ⟨⟩
    · rintro r' ⟨⟩ hr'
      cases hr'
    · rintro r' ⟨⟩
      rfl
  | finish => exact .same rfl rfl rfl rfl rfl
  | answer =>
    refine .quiet rfl rfl ?_ ?_ ?_
    · rintro r ⟨⟩ (howned | ⟨hawaited, -⟩)
      · cases howned
      · cases hawaited
    · rintro r' ⟨⟩
    · rintro r' ⟨⟩
  | move h =>
    cases h
    case store g v => exact .store g v
    case removeGate g outcome => exact .remove g outcome
    case shareGate => exact .apart rfl rfl rfl rfl rfl rfl
    case makeGate hgate => exact .make hgate
    case fewHandles g error hfew =>
      rw [Action.leavesGate?, hfew]
      exact .judgeFew g error
    case manyHandles g error hmany =>
      rw [Action.leavesGate?, hmany]
      exact .judgeMany g error
    case foundLate v hentry =>
      -- The request finds a value, and no longer cares about the gate.
      refine .quiet rfl rfl ?_ ?_ ?_
      · rintro r ⟨⟩ (howned | ⟨-, hnone⟩)
        · cases howned
        · rw [hentry] at hnone
          cases hnone
      · rintro r' ⟨⟩ hr'
        cases hr'
      · rintro r' ⟨⟩
        rfl
    case missedLate hentry =>
      refine .quiet rfl rfl ?_ ?_ ?_
      · rintro r ⟨⟩ -
        exact ⟨_, rfl, rfl, .inl rfl⟩
      · rintro r' ⟨⟩ -
        exact .inl hentry
      · rintro r' ⟨⟩
        rfl
    all_goals exact .same rfl rfl rfl rfl rfl

/-! ### Steps for other keys -/

omit [DecidableEq T] in
/-- A step changes nothing about the other keys. -/
theorem TableChange.lookup_of_ne {m m' : Shared K V T} {o o' : Option (Request K V)} {key : K}
    {action : Action V} (h : TableChange m key o action m' o') {other : K} (hother : other ≠ key) :
    m'.entries.lookup other = m.entries.lookup other ∧
      m'.gates.lookup other = m.gates.lookup other := by
  cases h with
  | same hentries hgates => exact ⟨by rw [hentries], by rw [hgates]⟩
  | store => exact ⟨(Table.lookup_put ..).trans (if_neg hother), rfl⟩
  | share => exact ⟨rfl, rfl⟩
  | make => exact ⟨rfl, (Table.lookup_put ..).trans (if_neg hother)⟩
  | remove => exact ⟨rfl, (Table.lookup_remove ..).trans (if_neg hother)⟩
  | drop => exact ⟨rfl, rfl⟩

/-- The requests for another key stay where they are. -/
theorem StepAt.request?_of_ne {s s' : State K V T} {e : Event K V T} {p q : Position T}
    {r : Request K V} (hat : StepAt s e s' p) (hkey : r.key ≠ e.key) :
    s'.request? q = some r ↔ s.request? q = some r := by
  by_cases hq : q = p
  · subst hq
    obtain ⟨hbefore, hafter⟩ := hat.effect.key_eq
    exact ⟨fun h => absurd (hafter r h) hkey, fun h => absurd (hbefore r h) hkey⟩
  · rw [hat.frame q hq]

/-! ### The account of the gates -/

/-- A gate is in the table if somebody is going to take it out, or if it was left. One that was left
is in the table, and if there is an entry, nobody is going to take it out any more. -/
structure Accounted (key : K) (trace : List (Event K V T)) (s : State K V T) : Prop where
  listed : ∀ {g}, s.shared.gates.lookup key = some g → gateLeft key trace = true ∨
    ∃ p r, s.request? p = some r ∧ r.key = key ∧ Engaged s.shared r
  left : gateLeft key trace = true → ∃ g, s.shared.gates.lookup key = some g
  late : ∀ {v}, s.shared.entries.lookup key = some v → gateLeft key trace = true →
    ∀ {p r}, s.request? p = some r → r.key = key → r.stage.owned? = none
  abandoned : ∀ {p r g}, s.request? p = some r → r.key = key → r.stage.abandoned? = some g →
    gateLeft key trace = false

omit [DecidableEq T] in
/-- No gate is there and none was left at the start. -/
theorem accounted_start (key : K) (name : String) :
    Accounted key [] (State.start name : State K V T) where
  listed h := by cases h
  left h := by cases h
  late h := by cases h
  abandoned h := by simp [request?_start] at h

section Accounted

variable {key : K} {trace : List (Event K V T)} {s s' : State K V T} {e : Event K V T}
  {p : Position T}

/-- A step keeps the accounts of the other keys. -/
theorem Accounted.step_of_ne (h : Accounted key trace s) (hat : StepAt s e s' p)
    (hkey : key ≠ e.key) : Accounted key (trace ++ [e]) s' := by
  obtain ⟨hlisted, hleft, hlate, habandoned⟩ := h
  obtain ⟨hentries, hgates⟩ := hat.effect.tables.lookup_of_ne hkey
  have htrace : gateLeft key (trace ++ [e]) = gateLeft key trace :=
    gateLeft_snoc_of_ne trace hkey.symm
  have hrequests {q : Position T} {r : Request K V} (hr : r.key = key) :
      s'.request? q = some r ↔ s.request? q = some r := hat.request?_of_ne (hr.trans_ne hkey)
  rw [← htrace] at hlisted hleft hlate habandoned
  refine ⟨fun hg => ?_, fun h => ?_, fun hv h q r hq hr => ?_, fun hq hr => ?_⟩
  · rcases hlisted (hgates ▸ hg) with hleft | ⟨q, r, hq, hr, hengaged⟩
    · exact .inl hleft
    · refine .inr ⟨q, r, (hrequests hr).mpr hq, hr, ?_⟩
      subst hr
      unfold Engaged at hengaged ⊢
      rwa [hentries]
  · rw [hgates]
    exact hleft h
  · exact hlate (hentries ▸ hv) h ((hrequests hr).mp hq) hr
  · exact habandoned ((hrequests hr).mp hq) hr

omit [DecidableEq T] in
/-- The gate that is taken out was not left. -/
theorem Accounted.not_left (h : Accounted key trace s) (hs : Coherent s) {g : Gate}
    {outcome : Outcome V} (hp : s.request? p = some ⟨key, .removeGate g outcome⟩) :
    gateLeft key trace = false := by
  cases outcome with
  | ok v =>
    by_contra hleft
    have hentry := (hs.fits hp).known rfl
    have hnone := h.late hentry (by simpa using hleft) hp rfl
    cases hnone
  | error error => exact h.abandoned hp rfl rfl

omit [DecidableEq T] in
/-- While no gate was left, a gate in the table is one that somebody is going to take out. -/
theorem Accounted.of_not_left (hleft : gateLeft key trace = false)
    (hlisted : ∀ {g}, s.shared.gates.lookup key = some g →
      ∃ p r, s.request? p = some r ∧ r.key = key ∧ Engaged s.shared r) : Accounted key trace s where
  listed hg := .inr (hlisted hg)
  left h := by
    rw [hleft] at h
    cases h
  late _ h := by
    rw [hleft] at h
    cases h
  abandoned _ _ _ := hleft

/-- A step that does nothing to the gate keeps the account. -/
theorem Accounted.step_quiet (h : Accounted e.key trace s) (hat : StepAt s e s' p)
    (hnews : e.action.leavesGate? = none) (hentries : s'.shared.entries = s.shared.entries)
    (hgates : s'.shared.gates = s.shared.gates)
    (hengaged : ∀ r, s.request? p = some r → Engaged s.shared r →
      ∃ r', s'.request? p = some r' ∧ r'.key = r.key ∧ Engaged s.shared r')
    (howned : ∀ r', s'.request? p = some r' → r'.stage.owned?.isSome →
      s.shared.entries.lookup r'.key = none ∨
        ∃ r, s.request? p = some r ∧ r.key = r'.key ∧ r.stage.owned?.isSome)
    (hnone : ∀ r', s'.request? p = some r' → r'.stage.abandoned? = none) :
    Accounted e.key (trace ++ [e]) s' := by
  have hframe {q : Position T} {r : Request K V} (hq : q ≠ p) (hr : s'.request? q = some r) :
      s.request? q = some r := hat.frame q hq ▸ hr
  have htrace : gateLeft e.key (trace ++ [e]) = gateLeft e.key trace :=
    gateLeft_snoc_of_none e.key trace hnews
  refine ⟨fun hg => ?_, fun hl => ?_, fun {v} hv hl q r hq hr => ?_, fun {q r g} hq hr hg => ?_⟩
  · rw [htrace]
    rcases h.listed (hgates ▸ hg) with hleft | ⟨q, r, hq, hr, hr'⟩
    · exact .inl hleft
    · right
      by_cases hqp : q = p
      · obtain ⟨r', hp, hkey, hengaged⟩ := hengaged r (hqp ▸ hq) hr'
        refine ⟨p, r', hp, hkey.trans hr, ?_⟩
        unfold Engaged at hengaged ⊢
        rwa [hentries]
      · refine ⟨q, r, hat.frame q hqp ▸ hq, hr, ?_⟩
        unfold Engaged at hr' ⊢
        rwa [hentries]
  · rw [hgates]
    exact h.left (htrace ▸ hl)
  · rw [hentries] at hv
    rw [htrace] at hl
    by_cases hqp : q = p
    · by_contra howner
      rcases howned r (hqp ▸ hq) (Option.isSome_iff_ne_none.mpr howner) with
        hentry | ⟨r', hp, hkey, howner'⟩
      · rw [hr, hv] at hentry
        cases hentry
      · rw [h.late hv hl hp (hkey.trans hr)] at howner'
        cases howner'
    · exact h.late hv hl (hframe hqp hq) hr
  · rw [htrace]
    by_cases hqp : q = p
    · rw [hnone r (hqp ▸ hq)] at hg
      cases hg
    · exact h.abandoned (hframe hqp hq) hr hg

/-- A gate that is made is left until somebody does more: nobody owns it, because there was none. -/
theorem Accounted.step_make (hs : Coherent s) (hat : StepAt s e s' p)
    (hnews : e.action.leavesGate? = some true) (hlookup : s.shared.gates.lookup e.key = none)
    {g : Gate} (hafter : s'.request? p = some ⟨e.key, .unlockGates g⟩)
    (hgate : s'.shared.gates.lookup e.key = some g) : Accounted e.key (trace ++ [e]) s' := by
  have hunowned {q : Position T} {r : Request K V} {g' : Gate} (hqp : q ≠ p)
      (hq : s'.request? q = some r) (hr : r.key = e.key) : r.stage.owned? ≠ some g' := by
    intro howned
    rw [hat.frame q hqp] at hq
    have hlisted := (hs.fits hq).owned howned
    rw [hr, hlookup] at hlisted
    cases hlisted
  have htrace : gateLeft e.key (trace ++ [e]) = true := gateLeft_snoc trace hnews
  refine ⟨fun _ => .inl htrace, fun _ => ⟨g, hgate⟩, fun {v} hv hl q r hq hr => ?_,
    fun {q r g'} hq hr hg' => ?_⟩
  · by_cases hqp : q = p
    · rw [hqp, hafter] at hq
      cases hq
      rfl
    · exact Option.eq_none_iff_forall_ne_some.mpr fun g' => hunowned hqp hq hr
  · by_cases hqp : q = p
    · rw [hqp, hafter] at hq
      cases hq
      cases hg'
    · exact absurd (Stage.owned?_of_abandoned? hg') (hunowned hqp hq hr)

/-- A step keeps the account of its own key. -/
theorem Accounted.step_self (h : Accounted e.key trace s) (hs : Coherent s)
    (hat : StepAt s e s' p) : Accounted e.key (trace ++ [e]) s' := by
  have hgate := hat.effect.gateStep
  generalize hnews : e.action.leavesGate? = news at hgate
  generalize hbefore : s.request? p = o at hgate
  generalize hafter : s'.request? p = o' at hgate
  generalize hshared : s'.shared = m' at hgate
  cases hgate with
  | quiet hentries hgates hengaged howned hnone =>
    subst hbefore hafter hshared
    exact h.step_quiet hat hnews hentries hgates hengaged howned hnone
  | make hlookup =>
    refine Accounted.step_make hs hat hnews hlookup hafter ?_
    rw [hshared]
    exact (Table.lookup_put ..).trans (if_pos rfl)
  | store g v =>
    exact .of_not_left (gateLeft_snoc trace hnews) fun _ => ⟨p, _, hafter, rfl, .inl rfl⟩
  | remove g outcome =>
    refine .of_not_left ((gateLeft_snoc_of_none e.key trace hnews).trans (h.not_left hs hbefore)) ?_
    intro g' hg'
    rw [hshared] at hg'
    rw [Table.lookup_remove, if_pos rfl] at hg'
    cases hg'
  | judgeFew g error =>
    exact .of_not_left (gateLeft_snoc trace hnews) fun _ => ⟨p, _, hafter, rfl, .inl rfl⟩
  | judgeMany g error =>
    have htrace : gateLeft e.key (trace ++ [e]) = true := gateLeft_snoc trace hnews
    have hfits := hs.fits hbefore
    refine ⟨fun _ => .inl htrace, fun _ => ⟨g, hshared ▸ hfits.owned rfl⟩, fun {v} hv => ?_,
      fun {q r g'} hq hr hg => ?_⟩
    · rw [hshared, hfits.unstored rfl] at hv
      cases hv
    · by_cases hqp : q = p
      · rw [hqp, hafter] at hq
        cases hq
        cases hg
      · -- The request that counted the handles owns the gate, so no other one removes it.
        rw [hat.frame q hqp] at hq
        exact absurd (hs.owner_unique hq hbefore hr.symm (Stage.owned?_of_abandoned? hg) rfl) hqp

/-- The account is right throughout a run. -/
theorem Run.accounted {name : String} (hrun : Run (State.start name) trace s) (key : K) :
    Accounted key trace s := by
  refine hrun.trace_invariant (accounted_start key name) fun {_ _ _ _ e _} hbefore _ hat h => ?_
  by_cases hkey : key = e.key
  · subst hkey
    exact h.step_self hbefore.coherent hat
  · exact h.step_of_ne hat hkey

end Accounted

/-! ### When all requests have ended -/

omit [DecidableEq T] in
/-- Nothing is pending if no key has a gate. -/
theorem pending_eq_zero_iff_lookup (m : Shared K V T) :
    m.cache.pending = 0 ↔ ∀ key, m.gates.lookup key = none := by
  simp only [Shared.cache, BuildCache.pending, List.length_map, List.length_eq_zero_iff]
  constructor
  · intro hnil key
    rw [hnil]
    rfl
  · intro hnone
    cases hgates : m.gates with
    | nil => rfl
    | cons e rest =>
      have hfirst := hnone e.1
      rw [hgates, List.lookup_cons_self] at hfirst
      cases hfirst

/-- When all requests have ended, no gate is there exactly if none was left: for every key, the last
step that made a gate, stored a value or counted handles stored a value or counted no more than two
handles. -/
theorem Run.pending_eq_zero_iff {name : String} {trace : List (Event K V T)} {s : State K V T}
    (hrun : Run (State.start name) trace s) (hidle : s.Idle) :
    s.shared.cache.pending = 0 ↔ ∀ key, gateLeft key trace = false := by
  rw [pending_eq_zero_iff_lookup]
  refine forall_congr' fun key => ?_
  have haccount := hrun.accounted key
  constructor
  · intro hnone
    by_contra hleft
    obtain ⟨g, hg⟩ := haccount.left (by simpa using hleft)
    rw [hnone] at hg
    cases hg
  · intro hleft
    by_contra hsome
    obtain ⟨g, hg⟩ := Option.ne_none_iff_exists'.mp hsome
    rcases haccount.listed hg with hleft' | ⟨p, r, hp, -⟩
    · rw [hleft] at hleft'
      cases hleft'
    · rw [request?_of_idle hidle] at hp
      cases hp

/-- A thread looks a key up and finds nothing. Before it goes on, the other one builds the value and
takes its gate out of the table. -/
def lateRequest : List (Choice Nat Nat Bool) :=
  Choice.ask true 0 :: Choice.go true :: Choice.ask false 0 :: List.replicate 12 (Choice.go false) ++
    Choice.finish false (.ok 7) :: List.replicate 12 (Choice.go false) ++
    List.replicate 12 (Choice.go true)

/-- The gate that is made for the late request stays. -/
theorem lateRequest_leaves_gate : ∃ (events : List (Event Nat Nat Bool)) (s : State Nat Nat Bool),
    Run (State.start "kernels") events s ∧ s.Idle ∧ s.shared.cache.pending = 1 ∧
      ∃ key, gateLeft key events = true := by
  obtain ⟨events, s, hperform, hfirst, hsecond, hpending⟩ :
      ∃ events s, (State.start "kernels").perform lateRequest = some (events, s) ∧
        s.threads true = [] ∧ s.threads false = [] ∧ s.shared.cache.pending = 1 :=
    ⟨_, _, rfl, rfl, rfl, rfl⟩
  have hrun := State.run_of_perform hperform
  have hidle : s.Idle := fun t => by cases t <;> assumption
  refine ⟨events, s, hrun, hidle, hpending, ?_⟩
  by_contra hnone
  have hzero := (Run.pending_eq_zero_iff hrun hidle).mpr fun key => by
    simpa using fun hleft => hnone ⟨key, hleft⟩
  omega

/-- Two builders of a key fail one after the other. The second one counts the handles on the gate
when the first request has given the gate back and still has its handle. -/
def failingRequests : List (Choice Nat Nat Bool) :=
  Choice.ask true 0 :: List.replicate 12 (Choice.go true) ++
    Choice.ask false 0 :: List.replicate 7 (Choice.go false) ++
    Choice.finish true (.error (.crashed "first")) :: List.replicate 7 (Choice.go true) ++
    List.replicate 5 (Choice.go false) ++ Choice.finish false (.error (.crashed "second")) ::
    List.replicate 9 (Choice.go false) ++ List.replicate 2 (Choice.go true)

/-- Neither of the two takes the gate out. -/
theorem failingRequests_leave_gate :
    ∃ (events : List (Event Nat Nat Bool)) (s : State Nat Nat Bool),
      Run (State.start "kernels") events s ∧ s.Idle ∧ s.shared.cache.pending = 1 := by
  obtain ⟨events, s, hperform, hfirst, hsecond, hpending⟩ :
      ∃ events s, (State.start "kernels").perform failingRequests = some (events, s) ∧
        s.threads true = [] ∧ s.threads false = [] ∧ s.shared.cache.pending = 1 :=
    ⟨_, _, rfl, rfl, rfl, rfl⟩
  exact ⟨events, s, State.run_of_perform hperform, fun t => by cases t <;> assumption, hpending⟩

end KernelForge.Interleaving
