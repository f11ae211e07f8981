import KernelForge.Proofs.Interleaving.Alone
import KernelForge.Proofs.Interleaving.Marks

/-!
# Which requests are refused

A request that finds no entry is refused exactly if it is made inside a builder of its key, that is
by a builder of the same thread that runs around it. Whether this is so is read off the marks: a
mark that names the thread is one of a request around. It does not change while the request is in
flight, because the requests around it wait for it. A request that is not refused goes on to the
gate of its key and never comes back to the marks of others.
-/

namespace KernelForge.Interleaving

variable {K V T : Type}

/-- Around a position, the thread runs a builder of a key. -/
def State.Builds (s : State K V T) (p : Position T) (key : K) : Prop :=
  ∃ n < p.2, ∃ g, s.request? (p.1, n) = some ⟨key, .building g⟩

/-- Whether a request at a stage has neither found a value nor been admitted or refused. -/
@[simp] def Stage.undecided : Stage V → Bool
  | .look | .lockMarks | .readMark | .unlockMarks _ => true
  | _ => false

/-- Whether a request at a stage gives back the lock of the marks next. -/
@[simp] def Stage.unlocksMarks : Stage V → Bool
  | .unlockMarks _ | .unlockMarksSet _ | .unlockMarksCleared _ _ => true
  | _ => false

/-- The failure that a request at a stage is going to end with. -/
@[simp] def Stage.failure? : Stage V → Option KernelError
  | .lockMarksToClear _ (.error error) | .clearMark _ (.error error)
  | .unlockMarksCleared _ (.error error) | .lockGatesToLeave _ (.error error)
  | .countHandles _ error | .removeGate _ (.error error) | .dropRemoved _ _ (.error error)
  | .unlockGatesLeft _ (.error error) | .unlockGate _ (.error error) | .dropHandle _ (.error error)
  | .done (.error error) => some error
  | _ => none

variable [DecidableEq K] [DecidableEq T]

/-- What the request at a position does in a number of steps of all threads, while it is in
flight. -/
inductive Serving (p : Position T) : State K V T → List (Action V) → State K V T → Prop
  | nil (s : State K V T) : Serving p s [] s
  | own {s s' s'' : State K V T} {actions : List (Action V)} {choice : Choice K V T}
      {e : Event K V T} : Serving p s actions s' → s'.step? choice = some (e, s'') →
      StepAt s' e s'' p → (s''.request? p).isSome → Serving p s (actions ++ [e.action]) s''
  | other {s s' s'' : State K V T} {actions : List (Action V)} {choice : Choice K V T}
      {e : Event K V T} {q : Position T} : Serving p s actions s' →
      s'.step? choice = some (e, s'') → StepAt s' e s'' q → q ≠ p → Serving p s actions s''

/-! ### What the marks tell -/

section Steps

variable {s s' : State K V T} {e : Event K V T} {p q : Position T} {key : K}

/-- What runs around a request does not change while the request is in flight. -/
theorem StepAt.builds_iff (hs : Nested s) (hs' : Nested s') (hat : StepAt s e s' q)
    (hbefore : (s.request? p).isSome) (hafter : (s'.request? p).isSome) :
    s'.Builds p key ↔ s.Builds p key := by
  refine exists_congr fun n => and_congr_right fun hlt => ?_
  have hq : (p.1, n) ≠ q := by
    rintro rfl
    exact hs.not_around hs' hat hbefore hafter ⟨rfl, hlt⟩
  rw [hat.frame _ hq]

omit [DecidableEq T] in
/-- A mark that names the thread of an innermost request is set by a request around it. -/
theorem Marked.lookup_iff_builds (h : Marked s) (hs : Nested s) {stage : Stage V}
    (hp : s.request? p = some ⟨key, stage⟩) (hstage : stage.undecided = true) :
    s.shared.marks.lookup key = some p.1 ↔ s.Builds p key := by
  have hstill : ∀ g, stage ≠ .building g := by
    rintro g rfl
    cases hstage
  rw [h.lookup_iff]
  constructor
  · rintro ⟨n, hn⟩
    obtain ⟨r, hr, hkey, hmarking⟩ := markedAt?_eq_some.mp hn
    rcases Nat.lt_trichotomy n p.2 with hlt | heq | hgt
    · obtain ⟨g, hbuilding⟩ := hs.building (Option.isSome_iff_exists.mpr ⟨_, hp⟩) hlt hr
      exact ⟨n, hlt, g, hkey ▸ hbuilding ▸ hr⟩
    · rw [heq, hp] at hr
      cases hr
      cases stage <;> simp at hstage hmarking
    · rw [hs.innermost hp hstill hgt] at hr
      cases hr
  · rintro ⟨n, -, g, hn⟩
    exact ⟨n, by rw [hn]; rfl⟩

/-- A request that is told whether its thread builds the key has read the mark. -/
theorem Effect.before_unlockMarks {t : T} {m m' : Shared K V T} {o : Option (Request K V)}
    {k : K} {action : Action V} {own : Bool}
    (h : Effect t m o k action m' (some ⟨key, .unlockMarks own⟩)) :
    o = some ⟨key, .readMark⟩ ∧ own = decide (m.marks.lookup key = some t) := by
  cases h with
  | move h =>
    cases h
    exact ⟨rfl, rfl⟩

/-- A step leaves the name of the cache as it is. -/
theorem Effect.name_eq {t : T} {m m' : Shared K V T} {o o' : Option (Request K V)}
    {action : Action V} (h : Effect t m o key action m' o') : m'.name = m.name := by
  cases h with
  | ask | finish | answer => rfl
  | move h => cases h <;> rfl

end Steps

/-- The requests are nested, the marks are theirs, and a request that has read the mark of its key
was told whether its thread builds the key. -/
structure Told (name : String) (s : State K V T) : Prop where
  name_eq : s.shared.name = name
  coherent : Coherent s
  nested : Nested s
  marked : Marked s
  own_iff : ∀ {p key own}, s.request? p = some ⟨key, .unlockMarks own⟩ →
    (own = true ↔ s.Builds p key)

section Told

variable {name : String} {s s' : State K V T} {e : Event K V T} {p q : Position T} {key : K}
  {choice : Choice K V T} {actions : List (Action V)}

/-- A step keeps what requests were told. -/
theorem Told.step (h : Told name s) (hstep : s.step? choice = some (e, s'))
    (hat : StepAt s e s' q) : Told name s' where
  name_eq := hat.effect.name_eq.trans h.name_eq
  coherent := h.coherent.step hat
  nested := h.nested.step hstep
  marked := h.marked.step h.coherent hat
  own_iff {p key own} hp := by
    have hafter : (s'.request? p).isSome := Option.isSome_iff_exists.mpr ⟨_, hp⟩
    by_cases hpq : p = q
    · subst hpq
      have heffect := hat.effect
      rw [hp] at heffect
      obtain ⟨hread, rfl⟩ := heffect.before_unlockMarks
      have hbefore : (s.request? p).isSome := Option.isSome_iff_exists.mpr ⟨_, hread⟩
      rw [hat.builds_iff h.nested (h.nested.step hstep) hbefore hafter, decide_eq_true_iff,
        ← hat.thread_eq]
      exact h.marked.lookup_iff_builds h.nested hread rfl
    · have hbefore := hat.frame p hpq
      rw [hat.builds_iff h.nested (h.nested.step hstep) (hbefore ▸ hafter) hafter]
      exact h.own_iff (hbefore ▸ hp)

omit [DecidableEq T] in
/-- Nobody was told anything at the start. -/
theorem told_start (name : String) : Told name (State.start name : State K V T) where
  name_eq := rfl
  coherent := coherent_start name
  nested := nested_start name
  marked := marked_start name
  own_iff h := by simp [request?_start] at h

/-- What requests were told holds throughout a run. -/
theorem Run.told {trace : List (Event K V T)} (hrun : Run (State.start name) trace s) :
    Told name s :=
  hrun.trace_invariant (P := fun _ => Told name) (told_start name)
    fun _ hstep hat h => h.step hstep hat

/-- It holds while a request is served. -/
theorem Serving.told (h : Serving p s actions s') (hs : Told name s) : Told name s' := by
  induction h with
  | nil => exact hs
  | own _ hstep hat _ ih => exact ih.step hstep hat
  | other _ hstep hat _ ih => exact ih.step hstep hat

/-- A request in flight stays so, and so does what runs around it. -/
theorem Serving.builds_iff (h : Serving p s actions s') (hs : Told name s)
    (hp : (s.request? p).isSome) :
    (s'.request? p).isSome ∧ (s'.Builds p key ↔ s.Builds p key) := by
  induction h with
  | nil => exact ⟨hp, Iff.rfl⟩
  | own hbefore hstep hat hafter ih =>
    obtain ⟨hstill, hiff⟩ := ih
    have htold := hbefore.told hs
    exact ⟨hafter,
      (hat.builds_iff htold.nested (htold.nested.step hstep) hstill hafter).trans hiff⟩
  | other hbefore hstep hat hq ih =>
    obtain ⟨hstill, hiff⟩ := ih
    have htold := hbefore.told hs
    have hafter := hat.frame p hq.symm ▸ hstill
    exact ⟨hafter,
      (hat.builds_iff htold.nested (htold.nested.step hstep) hstill hafter).trans hiff⟩

/-- What the own steps of a request keep of it and of what it did holds as long as it is in flight.
The steps are made in states in which the same builders run around it. -/
theorem Serving.invariant {P : List (Action V) → Request K V → Prop} {r : Request K V}
    (h : Serving p s actions s') (hs : Told name s) (hr : s.request? p = some r) (hstart : P [] r)
    (hown : ∀ {s₁ : State K V T} {m' : Shared K V T} {r₁ r₂ : Request K V} {k : K}
      {action : Action V} {done : List (Action V)}, Told name s₁ →
      (s₁.Builds p r₁.key ↔ s.Builds p r₁.key) → s₁.request? p = some r₁ →
      Effect p.1 s₁.shared (some r₁) k action m' (some r₂) → P done r₁ → P (done ++ [action]) r₂) :
    ∃ r', s'.request? p = some r' ∧ P actions r' := by
  induction h with
  | nil => exact ⟨r, hr, hstart⟩
  | own hbefore _ hat hafter ih =>
    obtain ⟨r₁, hr₁, hkept⟩ := ih
    obtain ⟨r₂, hr₂⟩ := Option.isSome_iff_exists.mp hafter
    have hinFlight : (s.request? p).isSome := Option.isSome_iff_exists.mpr ⟨r, hr⟩
    obtain ⟨hthread, heffect, -⟩ := hat
    rw [← hthread, hr₁, hr₂] at heffect
    exact ⟨r₂, hr₂,
      hown (hbefore.told hs) (hbefore.builds_iff hs hinFlight).2 hr₁ heffect hkept⟩
  | other _ _ hat hq ih =>
    obtain ⟨r₁, hr₁, hkept⟩ := ih
    exact ⟨r₁, (hat.frame p hq.symm).trans hr₁, hkept⟩

/-! ### Requests that are refused -/

/-- A request that is refused is at the marks, or was refused and is over. -/
inductive Refusing (name : String) : List (Action V) → Stage V → Prop
  | lockMarks (done : List (Action V)) : Refusing name done .lockMarks
  | readMark (done : List (Action V)) : Refusing name done .readMark
  | unlockMarks (done : List (Action V)) : Refusing name done (.unlockMarks true)
  | refused {done : List (Action V)} : .refuse ∈ done →
      Refusing name done (.done (.error (.reentrantBuild name)))

/-- A request inside a builder of its key goes nowhere else than to its refusal. -/
theorem Refusing.step {done : List (Action V)} {stage : Stage V} {m' : Shared K V T} {k : K}
    {action : Action V} {r' : Request K V} (h : Refusing name done stage) (hs : Told name s)
    (hbuilds : s.Builds p key) (hp : s.request? p = some ⟨key, stage⟩)
    (heffect : Effect p.1 s.shared (some ⟨key, stage⟩) k action m' (some r')) :
    r'.key = key ∧ Refusing name (done ++ [action]) r'.stage := by
  cases heffect with
  | move hmove =>
    cases h with
    | lockMarks =>
      cases hmove
      exact ⟨rfl, .readMark _⟩
    | readMark =>
      cases hmove
      rw [decide_eq_true ((hs.marked.lookup_iff_builds hs.nested hp rfl).mpr hbuilds)]
      exact ⟨rfl, .unlockMarks _⟩
    | unlockMarks =>
      cases hmove
      rw [hs.name_eq]
      exact ⟨rfl, .refused (List.mem_append_right _ List.mem_cons_self)⟩
    | refused => cases hmove
  | finish => cases h

/-- A request inside a builder of its key stays on the way to its refusal. -/
theorem Serving.refusing (h : Serving p s actions s') (hs : Told name s) {stage : Stage V}
    (hp : s.request? p = some ⟨key, stage⟩) (hstage : Refusing name [] stage)
    (hbuilds : s.Builds p key) :
    ∃ stage', s'.request? p = some ⟨key, stage'⟩ ∧ Refusing name actions stage' := by
  obtain ⟨⟨_, stage'⟩, hp', rfl, hrefusing⟩ := h.invariant
    (P := fun done r => r.key = key ∧ Refusing name done r.stage) hs hp ⟨rfl, hstage⟩
    fun {_ _ r₁ _ _ _ _} hs₁ hiff hr₁ heffect ⟨hkey, hrefusing⟩ => by
      subst hkey
      exact hrefusing.step hs₁ (hiff.mpr hbuilds) hr₁ heffect
  exact ⟨stage', hp', hrefusing⟩

/-! ### Requests that are spared -/

/-- A request that has been admitted or has found a value, or that is not inside a builder of its
key, is not refused. -/
theorem Serving.spared (h : Serving p s actions s') (hs : Told name s) {r : Request K V}
    (hr : s.request? p = some r) (hspared : r.stage.undecided = true → ¬s.Builds p r.key) :
    .refuse ∉ actions := by
  obtain ⟨_, -, hnone, -⟩ := h.invariant
    (P := fun done r => .refuse ∉ done ∧ (r.stage.undecided = true → ¬s.Builds p r.key)) hs hr
    ⟨List.not_mem_nil, hspared⟩
    fun {_ _ r₁ r₂ k action done} hs₁ hiff hr₁ heffect ⟨hnone, hspared⟩ => by
      rw [List.mem_append, List.mem_singleton, not_or]
      cases heffect with
      | move hmove =>
        cases hmove
        case refused => exact absurd (hiff.mp ((hs₁.own_iff hr₁).mp rfl)) (hspared rfl)
        case missed | lockMarks | readMark => exact ⟨⟨hnone, nofun⟩, fun _ => hspared rfl⟩
        all_goals exact ⟨⟨hnone, nofun⟩, nofun⟩
      | finish => exact ⟨⟨hnone, nofun⟩, nofun⟩
  exact hnone

/-- A request only begins to fail when it is refused or its builder fails. -/
theorem Effect.failure? {t : T} {m m' : Shared K V T}
    {r r' : Request K V} {action : Action V} (h : Effect t m (some r) key action m' (some r'))
    {error : KernelError} (herror : r'.stage.failure? = some error) :
    r.stage.failure? = some error ∨ action = .refuse ∨ action = .finish (.error error) := by
  cases h with
  | finish outcome =>
    cases outcome <;> cases herror
    exact .inr (.inr rfl)
  | move hmove =>
    cases hmove
    case refused => exact .inr (.inl rfl)
    case clearMark outcome | removeGate outcome | dropRemoved outcome | dropNothing outcome |
        unlockGatesLeft outcome | unlockGate outcome | lockMarksToClear outcome _ |
        dropHandle outcome =>
      cases outcome <;> exact .inl herror
    all_goals exact .inl herror

/-- A request that fails was refused, or its builder failed. -/
theorem Serving.failure (h : Serving p s actions s') (hs : Told name s) {r r' : Request K V}
    (hr : s.request? p = some r) (hstart : r.stage.failure? = none) (hr' : s'.request? p = some r')
    {error : KernelError} (herror : r'.stage.failure? = some error) :
    .refuse ∈ actions ∨ .finish (.error error) ∈ actions := by
  obtain ⟨_, hr'', hfailed⟩ := h.invariant
    (P := fun done r => ∀ error, r.stage.failure? = some error →
      .refuse ∈ done ∨ .finish (.error error) ∈ done) hs hr
    (fun error herror => by rw [hstart] at herror; cases herror)
    fun {_ _ _ _ _ _ _} _ _ _ heffect hfailed error herror => by
      simp only [List.mem_append, List.mem_singleton]
      rcases heffect.failure? herror with hearlier | rfl | rfl
      · exact (hfailed error hearlier).imp .inl .inl
      · exact .inl (.inr rfl)
      · exact .inr (.inr rfl)
  rw [hr'] at hr''
  cases hr''
  exact hfailed error herror

/-! ### Refusals come -/

/-- A request is served in one part and then in another. -/
theorem Serving.trans {s'' : State K V T} {more : List (Action V)} (h : Serving p s actions s')
    (h' : Serving p s' more s'') : Serving p s (actions ++ more) s'' := by
  induction h' with
  | nil => rwa [List.append_nil]
  | own _ hstep hat hafter ih => exact List.append_assoc .. ▸ ih.own hstep hat hafter
  | other _ hstep hat hq ih => exact ih.other hstep hat hq

/-- A request that has none inside goes on when there is a step for it. -/
theorem State.step?_go_at {stage stage' : Stage V} {m' : Shared K V T} {action : Action V}
    (hp : s.request? p = some ⟨key, stage⟩) (hinner : s.request? (p.1, p.2 + 1) = none)
    (hmove : Move p.1 key s.shared stage action m' stage') :
    ∃ s', s.step? (.go p.1) = some (⟨p.1, key, action⟩, s') ∧
      StepAt s ⟨p.1, key, action⟩ s' p ∧ s'.shared = m' ∧
      s'.request? p = some ⟨key, stage'⟩ := by
  obtain ⟨t, n⟩ := p
  have hat := Option.isSome_iff_exists.mpr ⟨_, hp⟩
  obtain ⟨r, rest, hthread, -⟩ := State.exists_innermost hat
  obtain rfl := State.eq_innermost hthread hat hinner
  obtain rfl := Option.some.inj ((State.request?_innermost hthread).symm.trans hp)
  refine ⟨_, s.step?_go hthread hmove, ⟨rfl, ?_, fun q hq => ?_⟩, rfl,
    s.request?_setThread_top t _ rest⟩
  · rw [hp]
    exact (s.request?_setThread_top t _ rest).symm ▸ .move hmove
  · have hother := s.request?_setThread_cons t ⟨key, stage'⟩ rest hq
    rw [← s.request?_setThread_cons t _ rest hq, s.setThread_threads hthread] at hother
    exact hother

/-- A request that does not run its builder goes on when there is a step for it. -/
theorem Told.step?_go_at (hs : Told name s) {stage stage' : Stage V} {m' : Shared K V T}
    {action : Action V} (hp : s.request? p = some ⟨key, stage⟩)
    (hmove : Move p.1 key s.shared stage action m' stage') :
    ∃ s', s.step? (.go p.1) = some (⟨p.1, key, action⟩, s') ∧
      StepAt s ⟨p.1, key, action⟩ s' p ∧ s'.shared = m' ∧ s'.request? p = some ⟨key, stage'⟩ := by
  have hstill : ∀ g, stage ≠ .building g := by
    rintro g rfl
    cases hmove
  exact State.step?_go_at hp (hs.nested.innermost hp hstill (Nat.lt_succ_self _)) hmove

omit [DecidableEq K] [DecidableEq T] in
/-- A lock that was given back is free. -/
theorem Shared.release_free (m : Shared K V T) (l : Lock) :
    (m.release l).locked l = false :=
  Function.update_self ..

/-- Nothing keeps a request from giving back the lock of the marks. -/
theorem Move.of_unlocksMarks (t : T) (key : K) (m : Shared K V T) {stage : Stage V}
    (h : stage.unlocksMarks = true) :
    ∃ action m' stage', Move t key m stage action m' stage' ∧ m'.locked .marks = false := by
  cases stage <;> try cases h
  case unlockMarks own =>
    cases own with
    | false => exact ⟨_, _, _, .admitted, m.release_free .marks⟩
    | true => exact ⟨_, _, _, .refused, m.release_free .marks⟩
  case unlockMarksSet g => exact ⟨_, _, _, .unlockMarksSet g, m.release_free .marks⟩
  case unlockMarksCleared g outcome =>
    cases outcome with
    | ok v => exact ⟨_, _, _, .unlockMarksBuilt g v, m.release_free .marks⟩
    | error error => exact ⟨_, _, _, .unlockMarksFailed g error, m.release_free .marks⟩

/-- Nothing keeps a request with the lock of the marks from what it does before giving it back. -/
theorem Move.of_holdsMarks (t : T) (key : K) (m : Shared K V T) {stage : Stage V}
    (h : stage.holdsMarks = true) (hlast : stage.unlocksMarks = false) :
    ∃ action m' stage', Move t key m stage action m' stage' ∧ stage'.unlocksMarks = true := by
  cases stage <;> try cases h
  case readMark => exact ⟨_, _, _, .readMark, rfl⟩
  case setMark g => exact ⟨_, _, _, .setMark g, rfl⟩
  case clearMark g outcome => exact ⟨_, _, _, .clearMark g outcome, rfl⟩
  all_goals cases hlast

/-- The lock of the marks is given back if its holder goes on, whatever others wait for. -/
theorem Told.marks_freed (hs : Told name s) {r : Request K V} (hp : s.request? p = some r)
    (hwaits : r.stage.holdsMarks = false) :
    ∃ s', Serving p s [] s' ∧ s'.request? p = some r ∧ s'.shared.locked .marks = false := by
  -- The last step of the holder, which may have another one to make first.
  have hlast {s : State K V T} (hs : Told name s) {q : Position T} {r' : Request K V} (hqp : q ≠ p)
      (hq : s.request? q = some r') (hunlocks : r'.stage.unlocksMarks = true) :
      ∃ s', Serving p s [] s' ∧ s'.request? p = s.request? p ∧ s'.shared.locked .marks = false := by
    obtain ⟨action, m', stage', hmove, hfree⟩ :=
      Move.of_unlocksMarks q.1 r'.key s.shared hunlocks
    obtain ⟨s', hstep, hat, rfl, -⟩ := hs.step?_go_at hq hmove
    exact ⟨s', .other (.nil s) hstep hat hqp, hat.frame p hqp.symm, hfree⟩
  cases hlocked : s.shared.locked .marks with
  | false => exact ⟨s, .nil s, hp, hlocked⟩
  | true =>
    obtain ⟨q, r', hq, hholds⟩ := hs.coherent.locking.exists_holder hlocked
    have hqp : q ≠ p := by
      rintro rfl
      obtain rfl := Option.some.inj (hp.symm.trans hq)
      rw [Stage.holds, hwaits] at hholds
      cases hholds
    cases hunlocks : r'.stage.unlocksMarks with
    | true =>
      obtain ⟨s', hserving, hsame, hfree⟩ := hlast hs hqp hq hunlocks
      exact ⟨s', hserving, hsame.trans hp, hfree⟩
    | false =>
      obtain ⟨action, m', stage', hmove, hunlocks'⟩ :=
        Move.of_holdsMarks q.1 r'.key s.shared hholds hunlocks
      obtain ⟨s₁, hstep, hat, -, hq₁⟩ := hs.step?_go_at hq hmove
      obtain ⟨s', hserving, hsame, hfree⟩ := hlast (hs.step hstep hat) hqp hq₁ hunlocks'
      have hfirst : Serving p s [] s₁ := .other (.nil s) hstep hat hqp
      exact ⟨s', hfirst.trans hserving, hsame.trans ((hat.frame p hqp.symm).trans hp), hfree⟩

/-- A request that goes on by one step is served by it. -/
theorem Told.goes (hs : Told name s) {stage stage' : Stage V} {m' : Shared K V T}
    {action : Action V} (hp : s.request? p = some ⟨key, stage⟩)
    (hmove : Move p.1 key s.shared stage action m' stage') :
    ∃ s', Serving p s [action] s' ∧ s'.request? p = some ⟨key, stage'⟩ := by
  obtain ⟨s', hstep, hat, -, hp'⟩ := hs.step?_go_at hp hmove
  exact ⟨s', .own (.nil s) hstep hat (Option.isSome_iff_exists.mpr ⟨_, hp'⟩), hp'⟩

/-- A request that has read a mark of its own thread is refused in its next step. -/
theorem Told.refused_of_unlockMarks (hs : Told name s)
    (hp : s.request? p = some ⟨key, .unlockMarks true⟩) :
    ∃ more s', Serving p s more s' ∧
      s'.request? p = some ⟨key, .done (.error (.reentrantBuild name))⟩ := by
  obtain ⟨s', hserving, hp'⟩ := hs.goes hp .refused
  exact ⟨_, s', hserving, hs.name_eq ▸ hp'⟩

/-- A request inside a builder of its key finds the mark of this builder. -/
theorem Told.refused_of_readMark (hs : Told name s) (hp : s.request? p = some ⟨key, .readMark⟩)
    (hbuilds : s.Builds p key) :
    ∃ more s', Serving p s more s' ∧
      s'.request? p = some ⟨key, .done (.error (.reentrantBuild name))⟩ := by
  obtain ⟨s₁, hread, hp₁⟩ := hs.goes hp .readMark
  rw [decide_eq_true ((hs.marked.lookup_iff_builds hs.nested hp rfl).mpr hbuilds)] at hp₁
  obtain ⟨more, s', hserving, hp'⟩ := (hread.told hs).refused_of_unlockMarks hp₁
  exact ⟨_, s', hread.trans hserving, hp'⟩

/-- A request on the way to its refusal can always come to it. -/
theorem Told.refusal_comes (hs : Told name s) {stage : Stage V} {done : List (Action V)}
    (hp : s.request? p = some ⟨key, stage⟩) (hbuilds : s.Builds p key)
    (hstage : Refusing name done stage) :
    ∃ more s', Serving p s more s' ∧
      s'.request? p = some ⟨key, .done (.error (.reentrantBuild name))⟩ := by
  cases hstage with
  | refused => exact ⟨[], s, .nil s, hp⟩
  | unlockMarks => exact hs.refused_of_unlockMarks hp
  | readMark => exact hs.refused_of_readMark hp hbuilds
  | lockMarks =>
    obtain ⟨s₁, hfreed, hp₁, hfree⟩ := hs.marks_freed hp rfl
    have hs₁ := hfreed.told hs
    obtain ⟨s₂, hlock, hp₂⟩ := hs₁.goes hp₁ (.lockMarks hfree)
    have hinFlight : (s.request? p).isSome := Option.isSome_iff_exists.mpr ⟨_, hp⟩
    have hbuilds₂ := ((hfreed.trans hlock).builds_iff hs hinFlight).2.mpr hbuilds
    obtain ⟨more, s', hserving, hp'⟩ := (hlock.told hs₁).refused_of_readMark hp₂ hbuilds₂
    exact ⟨_, s', (hfreed.trans hlock).trans hserving, hp'⟩

/-- A request that looks its key up goes on to count the value that it found, or to the marks. -/
theorem StepAt.looked (hat : StepAt s e s' p) (hp : s.request? p = some ⟨key, .look⟩) :
    (∃ v, s.shared.cache.get? key = some v ∧ s'.request? p = some ⟨key, .countHit v⟩) ∨
      s.shared.cache.get? key = none ∧ s'.request? p = some ⟨key, .lockMarks⟩ := by
  have heffect := hat.effect
  rw [hp] at heffect
  generalize s'.shared = m', s'.request? p = o, e.key = k, e.action = action at heffect
  cases heffect with
  | move hmove =>
    cases hmove with
    | found hvalue => exact .inl ⟨_, hvalue, rfl⟩
    | missed hnone => exact .inr ⟨hnone, rfl⟩

/-- A request that found no value is refused exactly if it is inside a builder of its key. -/
theorem Serving.refused_iff (h : Serving p s actions s') (hs : Told name s)
    (hp : s.request? p = some ⟨key, .lockMarks⟩) {outcome : Outcome V}
    (hdone : s'.request? p = some ⟨key, .done outcome⟩) :
    (.refuse ∈ actions ↔ s.Builds p key) ∧
      (.refuse ∈ actions → outcome = .error (.reentrantBuild name)) := by
  by_cases hinside : s.Builds p key
  · obtain ⟨stage', hp', hrefusing⟩ := h.refusing hs hp (.lockMarks _) hinside
    rw [hdone] at hp'
    cases hp'
    cases hrefusing with
    | refused hrefuse => exact ⟨⟨fun _ => hinside, fun _ => hrefuse⟩, fun _ => rfl⟩
  · have hspared := h.spared hs hp fun _ => hinside
    exact ⟨⟨fun hrefuse => absurd hrefuse hspared, fun hbuilds => absurd hbuilds hinside⟩,
      fun hrefuse => absurd hrefuse hspared⟩

end Told

/-- What becomes of a request for a key from its first look on: if it ends, it was refused exactly
if it found no value and was inside a builder of its key, where it is to the end; a failure is the
refusal or that of its builder; and a refusal that is due can come at any time. -/
structure Decided (name : String) (s : State K V T) (p : Position T) (key : K)
    (actions : List (Action V)) (s' : State K V T) : Prop where
  builds_iff : s'.Builds p key ↔ s.Builds p key
  refused_iff : ∀ {outcome}, s'.request? p = some ⟨key, .done outcome⟩ →
    (.refuse ∈ actions ↔ s.shared.cache.get? key = none ∧ s.Builds p key)
  outcome_eq : ∀ {outcome}, s'.request? p = some ⟨key, .done outcome⟩ → .refuse ∈ actions →
    outcome = .error (.reentrantBuild name)
  failure : ∀ {error}, s'.request? p = some ⟨key, .done (.error error)⟩ →
    .refuse ∈ actions ∨ .finish (.error error) ∈ actions
  comes : s.shared.cache.get? key = none → s.Builds p key → ∃ more s'', Serving p s' more s'' ∧
    s''.request? p = some ⟨key, .done (.error (.reentrantBuild name))⟩

/-- From its first look on, a request is decided. -/
theorem Told.decided {name : String} {s s₁ s' : State K V T} {choice : Choice K V T}
    {e : Event K V T} {p : Position T} {key : K} {actions : List (Action V)} (hs : Told name s)
    (hp : s.request? p = some ⟨key, .look⟩) (hlook : s.step? choice = some (e, s₁))
    (hat : StepAt s e s₁ p) (h : Serving p s₁ actions s') : Decided name s p key actions s' := by
  have hs₁ := hs.step hlook hat
  have hkept {r : Request K V} (hp₁ : s₁.request? p = some r) :
      (s₁.Builds p key ↔ s.Builds p key) ∧ (s'.Builds p key ↔ s₁.Builds p key) := by
    have hbefore : (s.request? p).isSome := Option.isSome_iff_exists.mpr ⟨_, hp⟩
    have hafter : (s₁.request? p).isSome := Option.isSome_iff_exists.mpr ⟨_, hp₁⟩
    exact ⟨hat.builds_iff hs.nested hs₁.nested hbefore hafter, (h.builds_iff hs₁ hafter).2⟩
  rcases hat.looked hp with ⟨v, hvalue, hp₁⟩ | ⟨hnone, hp₁⟩
  · obtain ⟨hfirst, hlater⟩ := hkept hp₁
    have hspared := h.spared hs₁ hp₁ nofun
    have hmissed : s.shared.cache.get? key ≠ none := by
      rw [hvalue]
      exact nofun
    exact {
      builds_iff := hlater.trans hfirst
      refused_iff := fun _ => ⟨fun hrefuse => absurd hrefuse hspared, fun h => absurd h.1 hmissed⟩
      outcome_eq := fun _ hrefuse => absurd hrefuse hspared
      failure := fun hdone => h.failure hs₁ hp₁ rfl hdone rfl
      comes := fun hnone => absurd hnone hmissed }
  · obtain ⟨hfirst, hlater⟩ := hkept hp₁
    exact {
      builds_iff := hlater.trans hfirst
      refused_iff := fun hdone => by
        rw [(h.refused_iff hs₁ hp₁ hdone).1, hfirst, and_iff_right hnone]
      outcome_eq := fun hdone => (h.refused_iff hs₁ hp₁ hdone).2
      failure := fun hdone => h.failure hs₁ hp₁ rfl hdone rfl
      comes := fun _ hinside => by
        have hinside₁ := hfirst.mpr hinside
        obtain ⟨stage, hp', hrefusing⟩ := h.refusing hs₁ hp₁ (.lockMarks _) hinside₁
        exact (h.told hs₁).refusal_comes hp' (hlater.mpr hinside₁) hrefusing }

/-- However the steps of the threads come, a request is refused exactly if it misses at its first
look and its thread is then, and still when the request ends, inside a builder of its key; one that
waits for the gate that another request has is never refused. A key is marked, with one thread,
exactly while a request of this thread is between setting the mark and clearing it, so that no mark
is left when a builder has failed. -/
theorem Run.refused_iff_builds {name : String} {trace : List (Event K V T)} {s : State K V T}
    (hrun : Run (State.start name) trace s) :
    (∀ p key choice e s₁ actions s', s.request? p = some ⟨key, .look⟩ →
      s.step? choice = some (e, s₁) → StepAt s e s₁ p → Serving p s₁ actions s' →
      Decided name s p key actions s') ∧
    (∀ p key g actions s', s.request? p = some ⟨key, .lockGate g⟩ → Serving p s actions s' →
      .refuse ∉ actions) ∧
    (s.shared.marks.map Prod.fst).Nodup ∧
    (∀ key t, s.shared.marks.lookup key = some t ↔
      ∃ n r, s.request? (t, n) = some r ∧ r.key = key ∧ r.stage.marking = true) ∧
    (∀ p key g error, s.request? p = some ⟨key, .unlockMarksCleared g (.error error)⟩ →
      s.shared.marks.lookup key = none) ∧
    (s.Idle → s.shared.marks = []) := by
  have htold := hrun.told
  refine ⟨fun _ _ _ _ _ _ _ hp hlook hat hserving => htold.decided hp hlook hat hserving,
    fun p key g actions s' hp hserving => hserving.spared htold hp nofun, htold.marked.nodup,
    fun key t => ?_, fun p key g error hp => htold.marked.lookup_eq_none htold.coherent hp rfl rfl,
    htold.marked.eq_nil⟩
  rw [htold.marked.lookup_iff]
  exact exists_congr fun n => markedAt?_eq_some

/-- The builder of a thread asks for the key that it builds, while another thread waits for the gate
of this key. -/
def nestedRequest : List (Choice Nat Nat Bool) :=
  Choice.ask true 0 :: Choice.ask false 0 :: List.replicate 7 (Choice.go true) ++
    List.replicate 7 (Choice.go false) ++ List.replicate 5 (Choice.go true) ++ [Choice.ask true 0]

/-- The thread that builds the key is refused, and the one that waits is not. -/
theorem nestedRequest_refused : ∃ events, ∃ s : State Nat Nat Bool,
    Run (State.start "kernels") events s ∧ s.shared.marks.lookup 0 = some true ∧
    (∃ more s', Serving (true, 1) s more s' ∧
      s'.request? (true, 1) = some ⟨0, .done (.error (.reentrantBuild "kernels"))⟩) ∧
    ∀ actions s', Serving (false, 0) s actions s' → .refuse ∉ actions := by
  obtain ⟨events, s, hperform, hmiss, houter, hinner, hwaits⟩ :
      ∃ events s, (State.start "kernels").perform nestedRequest = some (events, s) ∧
        s.shared.entries.lookup 0 = none ∧ s.request? (true, 0) = some ⟨0, .building 0⟩ ∧
        s.request? (true, 1) = some ⟨0, .look⟩ ∧ s.request? (false, 0) = some ⟨0, .lockGate 0⟩ :=
    ⟨_, _, rfl, rfl, rfl, rfl, rfl⟩
  have hrun := State.run_of_perform hperform
  obtain ⟨hdecided, hwaiting, -, hmarks, -, -⟩ := Run.refused_iff_builds hrun
  obtain ⟨s₁, hlook, hat, -, hmissed⟩ := hrun.told.step?_go_at hinner (.missed hmiss)
  have hbuilds : s.Builds (true, 1) 0 := ⟨0, Nat.zero_lt_one, 0, houter⟩
  obtain ⟨more, s', hserving, hrefused⟩ :=
    (hdecided _ 0 _ _ s₁ [] s₁ hinner hlook hat (.nil s₁)).comes hmiss hbuilds
  have hfirst : Serving (true, 1) s [.other] s₁ :=
    .own (.nil s) hlook hat (Option.isSome_iff_exists.mpr ⟨_, hmissed⟩)
  exact ⟨events, s, hrun, (hmarks 0 true).mpr ⟨0, _, houter, rfl, rfl⟩,
    ⟨_, s', hfirst.trans hserving, hrefused⟩, fun actions s' => hwaiting _ 0 0 actions s' hwaits⟩

end KernelForge.Interleaving
