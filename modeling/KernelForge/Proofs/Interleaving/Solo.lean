import KernelForge.Proofs.Cache.Reference
import KernelForge.Proofs.Interleaving.Alone

/-!
# One thread and its builders

A thread that is alone on a cache makes the requests of a builder, and runs the builders that it
gave them, in atomic steps of which each is determined. It always comes to an end, and after every
request its cache is the one that the request leaves, which is the one that the evaluator tells of.
-/

namespace KernelForge.Interleaving

variable {K V T : Type} [DecidableEq K] [DecidableEq T]

/-! ### A thread with its builders -/

/-- The cache with its threads, and what is left of the builders of one thread: first that of its
innermost request, last what the thread does by itself. -/
structure Solo (K V T : Type) where
  state : State K V T
  builders : List (Builder K V)

namespace Solo

/-- After an answer, the builder that made the request goes on by it. -/
def resume : Action V → List (Builder K V) → List (Builder K V)
  | .answer outcome, _ :: .requests _ _ next :: rest => next outcome :: rest
  | _, builders => builders

/-- The next step of a thread. Its innermost request goes on as long as it can; after that, the
builder of this request makes a request of its own or ends. -/
def step? (t : T) (c : Solo K V T) : Option (Event K V T × Solo K V T) :=
  match c.state.step? (.go t) with
  | some (e, state) => some (e, ⟨state, resume e.action c.builders⟩)
  | none =>
      match c.builders with
      | [] => none
      | .requests key own next :: rest =>
          (c.state.step? (.ask t key)).map fun r =>
            (r.1, ⟨r.2, own :: .requests key own next :: rest⟩)
      | .ends outcome :: rest =>
          (c.state.step? (.finish t outcome)).map fun r => (r.1, ⟨r.2, .ends outcome :: rest⟩)

/-- What is seen of the cache after a step: something if a request ended. -/
def sights (e : Event K V T) (c : Solo K V T) : List (Sight K V) :=
  match e.action with
  | .answer outcome => [⟨e.key, outcome, c.state.shared.cache⟩]
  | _ => []

/-- A number of steps of a thread, and what is seen of the cache after each request. -/
inductive Steps (t : T) : Solo K V T → List (Sight K V) → Solo K V T → Prop
  | refl (c : Solo K V T) : Steps t c [] c
  | head {c c' c'' : Solo K V T} {e : Event K V T} {seen : List (Sight K V)} :
      c.step? t = some (e, c') → Steps t c' seen c'' → Steps t c (sights e c' ++ seen) c''

variable {t : T}

/-- Steps come after steps. -/
theorem Steps.trans {c c' c'' : Solo K V T} {seen seen' : List (Sight K V)}
    (h : Steps t c seen c') (h' : Steps t c' seen' c'') : Steps t c (seen ++ seen') c'' := by
  induction h with
  | refl => exact h'
  | head hstep _ ih => exact List.append_assoc .. ▸ .head hstep (ih h')

/-- One step is a number of steps. -/
theorem Steps.single {c c' : Solo K V T} {e : Event K V T} (h : c.step? t = some (e, c')) :
    Steps t c (sights e c') c' := by
  have hsteps := Steps.head h (.refl c')
  rwa [List.append_nil] at hsteps

/-! ### Steps of the innermost request -/

/-- A step of the cache is one of the thread, whose builders go on as it says. -/
theorem step?_of_go {s s' : State K V T} {e : Event K V T} (h : s.step? (.go t) = some (e, s'))
    (builders : List (Builder K V)) :
    step? t ⟨s, builders⟩ = some (e, ⟨s', resume e.action builders⟩) := by
  simp only [step?, h]

/-- A request that goes on is not over yet. -/
theorem unanswered_of_move {key : K} {m m' : Shared K V T} {stage stage' : Stage V}
    {action : Action V} (h : Move t key m stage action m' stage') (builders : List (Builder K V))
    (c : Solo K V T) :
    resume action builders = builders ∧ sights (⟨t, key, action⟩ : Event K V T) c = [] := by
  cases h <;> exact ⟨rfl, rfl⟩

/-- A request goes on, and nothing is seen of it before it gives an answer. -/
theorem steps_of_reaches {s : State K V T} {key : K} {rest : List (Request K V)}
    {m m' : Shared K V T} {stage stage' : Stage V} (h : Reaches t key (m, stage) (m', stage'))
    (hshared : s.shared = m) (hthread : s.threads t = ⟨key, stage⟩ :: rest)
    (builders : List (Builder K V)) :
    Steps t ⟨s, builders⟩ []
      ⟨{ s.setThread t (⟨key, stage'⟩ :: rest) with shared := m' }, builders⟩ := by
  generalize ha : (m, stage) = a at h
  generalize hb : (m', stage') = b at h
  induction h generalizing m' stage' with
  | refl =>
    cases ha
    cases hb
    rw [← hshared, State.setThread_threads hthread]
    exact .refl _
  | @tail c _ _ hgoes ih =>
    cases hb
    obtain ⟨action, hmove⟩ := hgoes
    have hstep := State.step?_go (s := { s.setThread t (⟨key, c.2⟩ :: rest) with shared := c.1 })
      (Function.update_self ..) hmove
    have hnext := (ih rfl).trans (.single (step?_of_go hstep builders))
    obtain ⟨hresume, hsights⟩ := unanswered_of_move hmove builders
      ⟨{ s.setThread t (⟨key, stage'⟩ :: rest) with shared := m' }, builders⟩
    simp only [hresume, State.setThread, Function.update_idem] at hnext hsights
    rw [hsights] at hnext
    exact hnext

/-- A thread that can make a request makes that of its builder, and the request goes on as it
can. -/
theorem steps_of_ask {s : State K V T} (hready : s.Ready t) {key : K} {m : Shared K V T}
    {stage : Stage V} (h : Reaches t key (s.shared, .look) (m, stage)) (own : Builder K V)
    (next : Except KernelError V → Builder K V) (rest : List (Builder K V)) :
    Steps t ⟨s, .requests key own next :: rest⟩ []
      ⟨{ s.setThread t (⟨key, stage⟩ :: s.threads t) with shared := m },
        own :: .requests key own next :: rest⟩ := by
  let asked := s.setThread t (⟨key, .look⟩ :: s.threads t)
  have hgo : s.step? (.go t) = none := by
    rcases hready with h | ⟨outer, g, rest, h⟩ <;> simp [State.step?, h, advance]
  have hask : step? t ⟨s, .requests key own next :: rest⟩ =
      some (⟨t, key, .ask⟩, ⟨asked, own :: .requests key own next :: rest⟩) := by
    simp only [step?, hgo, hready.ask key]
    rfl
  have hreach := steps_of_reaches (s := asked) h rfl (Function.update_self ..)
    (own :: .requests key own next :: rest)
  simp only [asked, State.setThread, Function.update_idem] at hreach
  exact .head hask hreach

/-- A request that is over gives its answer, which is seen, and the builder that made it goes on. -/
theorem steps_of_answer {s s' : State K V T} {key : K} {outcome : Outcome V}
    (hthreads : s'.threads = Function.update s.threads t (⟨key, .done outcome⟩ :: s.threads t))
    (own : Builder K V) {own' : Builder K V} {next : Except KernelError V → Builder K V}
    {rest : List (Builder K V)} :
    Steps t ⟨s', own :: .requests key own' next :: rest⟩ [⟨key, outcome, s'.shared.cache⟩]
      ⟨{ s with shared := s'.shared }, next outcome :: rest⟩ := by
  have hthread : s'.threads t = ⟨key, .done outcome⟩ :: s.threads t := by
    rw [hthreads, Function.update_self]
  have hstep : s'.step? (.go t) =
      some (⟨t, key, .answer outcome⟩, { s with shared := s'.shared }) := by
    simp only [State.step?, hthread, State.setThread, hthreads, Function.update_idem,
      Function.update_eq_self]
  exact .single (step?_of_go hstep (own :: .requests key own' next :: rest))

/-- A builder ends, and the request that it ran for goes on to its answer. -/
theorem steps_of_finish {s s' : State K V T} {key : K} {g : Gate}
    (hthreads : s'.threads = Function.update s.threads t (⟨key, .building g⟩ :: s.threads t))
    (hquiet : Quiet t s'.shared) (hgate : s'.shared.gates.lookup key = some g)
    (hhandles : s'.shared.handles g = 2) (outcome : Outcome V) (own : Builder K V)
    (next : Except KernelError V → Builder K V) (rest : List (Builder K V)) :
    Steps t ⟨s', .ends outcome :: .requests key own next :: rest⟩
      [⟨key, outcome, (s'.shared.left key g outcome).cache⟩]
      ⟨{ s with shared := s'.shared.left key g outcome }, next outcome :: rest⟩ := by
  have hthread : s'.threads t = ⟨key, .building g⟩ :: s.threads t := by
    rw [hthreads, Function.update_self]
  let finished := s'.setThread t (⟨key, .lockMarksToClear g outcome⟩ :: s.threads t)
  let builders : List (Builder K V) := .ends outcome :: .requests key own next :: rest
  have hgo : s'.step? (.go t) = none := by simp [State.step?, hthread, advance]
  have hfinish : s'.step? (.finish t outcome) = some (⟨t, key, .finish outcome⟩, finished) := by
    simp only [State.step?, hthread, finished]
  have hstep : step? t ⟨s', builders⟩ = some (⟨t, key, .finish outcome⟩, ⟨finished, builders⟩) := by
    simp only [step?, hgo, builders, hfinish]
    rfl
  have hleft := steps_of_reaches (s := finished) (hquiet.reaches_left hgate hhandles) rfl
    (Function.update_self ..) builders
  refine .head hstep (hleft.trans (steps_of_answer ?_ _))
  simp only [finished, State.setThread, Function.update_idem, hthreads]

/-! ### Builders -/

/-- A builder that works as it is done in steps: while no other thread uses the cache, there are
steps to its end, after which the cache is the one that its work leaves, and what is seen of the
cache on the way is what the work sees. -/
def Does (t : T) (b : Builder K V) : Prop :=
  ∀ (w : Watched K V) (s : State K V T) (rest : List (Builder K V)), s.Ready t →
    Quiet t s.shared → s.shared.cache = w.cache →
    ∃ seen s', Steps t ⟨s, b :: rest⟩ seen ⟨s', .ends (b.work w).1 :: rest⟩ ∧
      s'.threads = s.threads ∧ Kept s.shared s'.shared ∧ s'.shared.cache = (b.work w).2.cache ∧
      (b.work w).2.seen = w.seen ++ seen

section Request

variable {own : Builder K V} {key : K} {w : Watched K V} {s : State K V T}

/-- A request that comes next is done in steps: they lead to its answer and leave the cache that the
request leaves, and what is seen of the cache on the way is what the request sees. -/
def DoesRequest (t : T) (own : Builder K V) (key : K) (w : Watched K V) (s : State K V T) : Prop :=
  ∀ (next : Except KernelError V → Builder K V) (rest : List (Builder K V)),
    ∃ seen s', Steps t ⟨s, .requests key own next :: rest⟩ seen
        ⟨s', next (Watched.request key own.work w).1 :: rest⟩ ∧
      s'.threads = s.threads ∧ Kept s.shared s'.shared ∧
      s'.shared.cache = (Watched.request key own.work w).2.cache ∧
      (Watched.request key own.work w).2.seen = w.seen ++ seen

omit [DecidableEq T] in
/-- The watched cache has the values of the shared one. -/
theorem get?_watched (hcache : s.shared.cache = w.cache) (key : K) :
    (Watched.slot.get w).get? key = s.shared.entries.lookup key := by
  change w.cache.get? key = _
  rw [← hcache]
  rfl

omit [DecidableEq T] in
/-- It has the marked keys of the shared one. -/
theorem marked_watched (hcache : s.shared.cache = w.cache) (key : K) :
    key ∈ (Watched.slot.get w).marked ↔ s.shared.marks.lookup key ≠ none := by
  change key ∈ w.cache.marked ↔ _
  rw [← hcache, ne_eq, Table.lookup_eq_none, not_not]
  rfl

/-- A request for a key that has a value is a hit. -/
theorem doesRequest_of_hit (hready : s.Ready t) (hcache : s.shared.cache = w.cache) {v : V}
    (hvalue : s.shared.entries.lookup key = some v) : DoesRequest t own key w s := by
  intro next rest
  have hsteps := (steps_of_ask hready (reaches_hit hvalue) own next rest).trans
    (steps_of_answer rfl own)
  have hcounted : Shared.cache { s.shared with hits := s.shared.hits + 1 } = w.cache.countHit := by
    rw [← hcache]
    rfl
  rw [Watched.request, Watched.slot.request_of_hit ((get?_watched hcache key).trans hvalue)]
  refine ⟨_, _, hsteps, rfl, ⟨rfl, rfl, rfl, Nat.le_refl _, fun _ _ => rfl, ?_⟩, hcounted, ?_⟩
  · exact fun _ habsent => habsent
  · exact congrArg (fun cache => w.seen ++ [⟨key, .ok v, cache⟩]) hcounted.symm

/-- A request for a key that is being built is refused. -/
theorem doesRequest_of_marked (hready : s.Ready t) (hquiet : Quiet t s.shared)
    (hcache : s.shared.cache = w.cache) (hvalue : s.shared.entries.lookup key = none)
    (hmark : s.shared.marks.lookup key ≠ none) : DoesRequest t own key w s := by
  intro next rest
  have hname : w.cache.name = s.shared.name := by
    rw [← hcache]
    rfl
  have hrefused := reaches_refused (t := t) hvalue hquiet.marks_free (hquiet.own hmark)
  have hsteps := (steps_of_ask hready hrefused own next rest).trans (steps_of_answer rfl own)
  rw [← hname] at hsteps
  rw [Watched.request, Watched.slot.request_of_marked ((get?_watched hcache key).trans hvalue)
    ((marked_watched hcache key).mpr hmark)]
  refine ⟨_, _, hsteps, rfl, Kept.refl _, hcache, ?_⟩
  exact congrArg (fun cache => w.seen ++ [⟨key, .error (.reentrantBuild w.cache.name), cache⟩])
    hcache.symm

/-- A request for any other key runs its builder between the steps that lead to it and those that
lead away from it. -/
theorem doesRequest_of_absent (hown : Does t own) (hready : s.Ready t) (hquiet : Quiet t s.shared)
    (hcache : s.shared.cache = w.cache) (hvalue : s.shared.entries.lookup key = none)
    (hmark : s.shared.marks.lookup key = none) : DoesRequest t own key w s := by
  intro next rest
  have hbegin := steps_of_ask hready (hquiet.reaches_begun hvalue hmark) own next rest
  have hquiet₁ := hquiet.begun hvalue hmark
  let entered : Watched K V := Watched.slot.modify (·.enter key) w
  have hcache₁ : (s.shared.begun t key).cache = entered.cache := by
    rw [hquiet.cache_begun hmark, hcache]
    rfl
  let s₁ := { s.setThread t (⟨key, .building s.shared.made⟩ :: s.threads t) with
    shared := s.shared.begun t key }
  have hready₁ : s₁.Ready t := .inr ⟨key, _, _, Function.update_self ..⟩
  obtain ⟨seen, s₂, hbuild, hthreads₂, hkept₂, hcache₂, hseen₂⟩ :=
    hown entered s₁ (.requests key own next :: rest) hready₁ hquiet₁ hcache₁
  have hquiet₂ := hkept₂.quiet hquiet₁
  have hgate : s₂.shared.gates.lookup key = some s.shared.made := by
    rw [hkept₂.gates]
    exact Shared.lookup_gates_begun ..
  have hhandles : s₂.shared.handles s.shared.made = 2 := by
    rw [hkept₂.handles _ (Nat.lt_succ_self _)]
    exact (Shared.handles_begun ..).trans (if_pos rfl)
  have hmarked₂ : s₂.shared.marks.lookup key ≠ none := by
    rw [hkept₂.marks]
    exact fun h => nomatch (if_pos rfl).symm.trans ((Shared.lookup_marks_begun ..).symm.trans h)
  have hend := steps_of_finish hthreads₂ hquiet₂ hgate hhandles (own.work entered).1 own next rest
  have hclosed : (s₂.shared.left key s.shared.made (own.work entered).1).cache =
      (own.work entered).2.cache.close key (own.work entered).1 := by
    rw [hquiet₂.cache_left hmarked₂, hcache₂]
  have hunmarked : key ∉ (Watched.slot.get w).marked := fun h => (marked_watched hcache key).mp h hmark
  rw [Watched.request, Watched.slot.request_of_absent ((get?_watched hcache key).trans hvalue)
    hunmarked]
  refine ⟨_, _, (hbegin.trans hbuild).trans hend, rfl, hquiet.kept_left hmark hkept₂ _, hclosed, ?_⟩
  change (own.work entered).2.seen ++ [⟨key, (own.work entered).1,
    (own.work entered).2.cache.close key (own.work entered).1⟩] = _
  rw [hseen₂, hclosed, List.nil_append, List.append_assoc]
  rfl

/-- A request is done in steps if its builder is. -/
theorem Does.request (hown : Does t own) (key : K) (hready : s.Ready t) (hquiet : Quiet t s.shared)
    (hcache : s.shared.cache = w.cache) : DoesRequest t own key w s := by
  cases hvalue : s.shared.entries.lookup key with
  | some v => exact doesRequest_of_hit hready hcache hvalue
  | none =>
    by_cases hmark : s.shared.marks.lookup key = none
    · exact doesRequest_of_absent hown hready hquiet hcache hvalue hmark
    · exact doesRequest_of_marked hready hquiet hcache hvalue hmark

end Request

/-- Every builder is done in steps. -/
theorem does (t : T) (b : Builder K V) : Does t b := by
  induction b with
  | ends outcome =>
    intro w s rest _ _ hcache
    exact ⟨[], s, .refl _, rfl, Kept.refl _, hcache, (List.append_nil _).symm⟩
  | requests key own next ihOwn ihNext =>
    intro w s rest hready hquiet hcache
    obtain ⟨seen, s', hfirst, hthreads, hkept, hcache', hseen⟩ :=
      ihOwn.request key hready hquiet hcache next rest
    have hready' : s'.Ready t := by rwa [State.Ready, hthreads]
    obtain ⟨seen', s'', hrest, hthreads', hkept', hcache'', hseen'⟩ :=
      ihNext _ _ s' rest hready' (hkept.quiet hquiet) hcache'
    refine ⟨_, s'', hfirst.trans hrest, hthreads'.trans hthreads, hkept.trans hkept', hcache'', ?_⟩
    rw [← List.append_assoc, ← hseen]
    exact hseen'

end Solo

/-- The requests of one thread are answered as the evaluator does, which knows the values so far and
the keys that are being built. After every request, nested or not, the cache shows what the
evaluator tells. In atomic steps, the thread comes to its end, having seen the same after every
request. -/
theorem requests_follow_evaluator (name : String) (t : T) (program : Builder K V) :
    (program.work ⟨.empty name, []⟩).1 = (program.evaluate name [] []).outcome ∧
      (program.work ⟨.empty name, []⟩).2.seen.length =
        (program.evaluate name [] []).answers.length ∧
      (∀ (i : Nat) (sight : Sight K V) (answer : Answer K V),
        (program.work ⟨.empty name, []⟩).2.seen[i]? = some sight →
          (program.evaluate name [] []).answers[i]? = some answer →
            sight.Shows answer ((program.evaluate name [] []).answers.take (i + 1))) ∧
      ∃ last, Solo.Steps t ⟨.start name, [program]⟩ (program.work ⟨.empty name, []⟩).2.seen last ∧
        last.step? t = none ∧ last.state.Idle ∧
        last.state.shared.cache = (program.work ⟨.empty name, []⟩).2.cache := by
  have hwork : program.work ⟨.empty name, []⟩ = (program.evaluate name [] []).shown name [] 0 [] :=
    program.work_eq [] [] 0 []
  refine ⟨congrArg Prod.fst hwork, ?_, fun i sight answer hsight hanswer =>
    program.work_shows name hsight hanswer, ?_⟩
  · rw [hwork]
    exact Answer.length_sights ..
  · obtain ⟨seen, s, hsteps, hthreads, -, hcache, hseen⟩ :=
      Solo.does t program ⟨.empty name, []⟩ (.start name) [] (.inl rfl) (quiet_empty t name) rfl
    rw [List.nil_append] at hseen
    rw [hseen]
    have hidle : s.Idle := fun t' => congrFun hthreads t'
    refine ⟨_, hsteps, ?_, hidle, hcache⟩
    simp [Solo.step?, State.step?, hidle t]

end KernelForge.Interleaving
