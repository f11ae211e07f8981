import KernelForge.Proofs.Provider.Attempts

/-!
# What a provider remembers

Both caches of a provider hold exactly what the backend has rendered and built with success. This is
kept by every request, since a request only asks the backend if its cache has nothing, and the cache
takes exactly what comes of it. Templates are functions of their inputs, so a remembered rendering
is what would be rendered now.
-/

namespace KernelForge

variable {Fn σ α : Type}

/-! ### Caches and what was made -/

section Caches

variable {K V : Type} [DecidableEq K] {cache : BuildCache K V} {made made' : K → V → Prop}

/-- A cache holds exactly the values that were made for keys, and no build is under way. -/
structure BuildCache.Agrees (cache : BuildCache K V) (made : K → V → Prop) : Prop where
  get?_iff : ∀ key value, cache.get? key = some value ↔ made key value
  marked_eq : cache.marked = []

/-- A cache agrees with what says the same. -/
theorem BuildCache.Agrees.congr (h : cache.Agrees made)
    (hmade : ∀ key value, made' key value ↔ made key value) : cache.Agrees made' :=
  ⟨fun key value => (h.get?_iff key value).trans (hmade key value).symm, h.marked_eq⟩

/-- After a build, the cache agrees with what was made before and what the build made. -/
theorem BuildCache.Agrees.close (h : cache.Agrees made) {key : K} {outcome : Except KernelError V}
    (hnone : cache.get? key = none)
    (hmade : ∀ other value, made' other value ↔
      made other value ∨ other = key ∧ outcome = .ok value) :
    ((cache.enter key).close key outcome).Agrees made' := by
  cases outcome with
  | error error =>
    refine ⟨fun other value => ?_, ?_⟩
    · rw [hmade]
      exact (h.get?_iff other value).trans ⟨.inl, fun hor => hor.resolve_right nofun⟩
    · change (key :: cache.marked).erase key = []
      rw [List.erase_cons_head, h.marked_eq]
  | ok built =>
    refine ⟨fun other value => ?_, ?_⟩
    · change ((key, built) :: cache.entries).lookup other = some value ↔ _
      rw [hmade, ← h.get?_iff]
      by_cases hother : other = key
      · subst hother
        rw [List.lookup_cons_self, hnone]
        simp
      · rw [List.lookup_cons, beq_false_of_ne hother]
        exact ⟨.inl, fun hor => hor.resolve_right fun hand => hother hand.1⟩
    · change (key :: cache.marked).erase key = []
      rw [List.erase_cons_head, h.marked_eq]

end Caches

/-! ### Rendering without a cache -/

/-- What is rendered for a key, as no cache would have it. -/
def Renderer.uncached (renderer : Renderer) (key : RenderKey) :
    Except KernelError RenderedKernel :=
  (renderer.renderKernel key.name key.module key.params).mapError .template

/-- Rendering changes no world. -/
theorem Renderer.renderIn_apply (renderer : Renderer) (key : RenderKey) (world : World σ) :
    renderer.renderIn key.name key.module key.params world = (renderer.uncached key, world) := by
  unfold renderIn uncached
  cases renderer.renderKernel key.name key.module key.params <;> rfl

/-- A backend that renders with a renderer. -/
def Backend.rendering (backend : Backend Fn σ) (renderer : Renderer) : Backend Fn σ :=
  { backend with render := renderer.renderIn }

/-! ### Attempts and requests -/

/-- What a request adds to the attempts: nothing if there was a success, otherwise one attempt. -/
def Attempt.Adds (attempts : List (Attempt Fn)) (attempt : Except KernelError α → Attempt Fn)
    (outcome : Except KernelError α) (added : List (Attempt Fn)) : Prop :=
  (∃ a, outcome = .ok a ∧ attempt (.ok a) ∈ attempts ∧ added = []) ∨
    (∀ a, attempt (.ok a) ∉ attempts) ∧ added = [attempt outcome]

/-- A rendering that succeeded gave a rendered kernel. -/
theorem Attempt.success?_eq_inl {attempt : Attempt Fn} {key : RenderKey}
    (h : attempt.success? = some (.inl key)) : ∃ rendered, attempt = .render key (.ok rendered) := by
  rcases attempt with ⟨other, error | rendered⟩ | ⟨other, error | function⟩
  · cases h
  · cases h
    exact ⟨rendered, rfl⟩
  · cases h
  · cases h

/-- A build that succeeded gave a function. -/
theorem Attempt.success?_eq_inr {attempt : Attempt Fn} {key : BuildKey}
    (h : attempt.success? = some (.inr key)) : ∃ function, attempt = .build key (.ok function) := by
  rcases attempt with ⟨other, error | rendered⟩ | ⟨other, error | function⟩
  · cases h
  · cases h
  · cases h
  · cases h
    exact ⟨function, rfl⟩

/-- Nothing is made twice by an attempt at what has not been made. -/
theorem Attempt.nodup_snoc {attempts : List (Attempt Fn)} {attempt : Attempt Fn}
    (h : (attempts.filterMap success?).Nodup)
    (hnew : ∀ key, attempt.success? = some key → ∀ other ∈ attempts, other.success? ≠ some key) :
    ((attempts ++ [attempt]).filterMap success?).Nodup := by
  rw [List.filterMap_append, List.nodup_append]
  refine ⟨h, ?_, ?_⟩
  · cases hkey : attempt.success? with
    | none => simp [hkey]
    | some key => simp [hkey]
  · intro key hkey other hother heq
    obtain ⟨before, hbefore, hsuccess⟩ := List.mem_filterMap.mp hkey
    obtain ⟨last, hlast, hsuccess'⟩ := List.mem_filterMap.mp hother
    rw [List.mem_singleton.mp hlast, ← heq] at hsuccess'
    exact hnew key hsuccess' before hbefore hsuccess

/-- Both caches of a session hold what the attempts made, each attempt is one of the renderer or of
the backend, and nothing was made twice. -/
structure Session.Remembers (renderer : Renderer) (backend : Backend Fn σ)
    (s : Session Fn (σ × List (Attempt Fn))) : Prop where
  renders : s.provider.renders.Agrees fun key rendered => .render key (.ok rendered) ∈ s.world.own.2
  builds : s.provider.builds.Agrees fun key function => .build key (.ok function) ∈ s.world.own.2
  once : (s.world.own.2.filterMap Attempt.success?).Nodup
  rendered : ∀ key outcome, .render key outcome ∈ s.world.own.2 → outcome = renderer.uncached key
  built : ∀ key outcome, .build key outcome ∈ s.world.own.2 →
    ∃ world, (backend.build key.name key.source key.slots world).1 = outcome

/-- A request for a rendering that is not in the cache asks the backend. -/
theorem Session.renderSlot_absent {s : Session Fn (σ × List (Attempt Fn))} {key : RenderKey}
    (hnone : s.provider.renders.get? key = none) (hunmarked : key ∉ s.provider.renders.marked)
    {work : BackendM σ RenderedKernel} {outcome : Except KernelError RenderedKernel}
    {world : World σ} (hwork : work s.world.unobserved = (outcome, world))
    (attempt : Except KernelError RenderedKernel → Attempt Fn) :
    renderSlot.request key (ofBackend (work.kept attempt)) s =
      (outcome, ⟨world.observed (s.world.own.2 ++ [attempt outcome]),
        { s.provider with renders := (s.provider.renders.enter key).close key outcome }⟩) := by
  have hkept : ofBackend (work.kept attempt) (renderSlot.modify (·.enter key) s) =
      (outcome, ⟨world.observed (s.world.own.2 ++ [attempt outcome]),
        { s.provider with renders := s.provider.renders.enter key }⟩) := by
    change (let result := work s.world.unobserved
      (result.1, (⟨result.2.observed (s.world.own.2 ++ [attempt result.1]), _⟩ : Session Fn _))) = _
    rw [hwork]
    rfl
  rw [renderSlot.request_of_absent hnone hunmarked, hkept]
  rfl

/-- A request for a function that is not in the cache asks the backend. -/
theorem Session.buildSlot_absent {s : Session Fn (σ × List (Attempt Fn))} {key : BuildKey}
    (hnone : s.provider.builds.get? key = none) (hunmarked : key ∉ s.provider.builds.marked)
    {work : BackendM σ Fn} {outcome : Except KernelError Fn} {world : World σ}
    (hwork : work s.world.unobserved = (outcome, world))
    (attempt : Except KernelError Fn → Attempt Fn) :
    buildSlot.request key (ofBackend (work.kept attempt)) s =
      (outcome, ⟨world.observed (s.world.own.2 ++ [attempt outcome]),
        { s.provider with builds := (s.provider.builds.enter key).close key outcome }⟩) := by
  have hkept : ofBackend (work.kept attempt) (buildSlot.modify (·.enter key) s) =
      (outcome, ⟨world.observed (s.world.own.2 ++ [attempt outcome]),
        { s.provider with builds := s.provider.builds.enter key }⟩) := by
    change (let result := work s.world.unobserved
      (result.1, (⟨result.2.observed (s.world.own.2 ++ [attempt result.1]), _⟩ : Session Fn _))) = _
    rw [hwork]
    rfl
  rw [buildSlot.request_of_absent hnone hunmarked, hkept]
  rfl

namespace Session.Remembers

variable {renderer : Renderer} {backend : Backend Fn σ} {s : Session Fn (σ × List (Attempt Fn))}

/-- A rendering that was not in the cache is remembered if it succeeded. -/
theorem add_render (h : s.Remembers renderer backend) {key : RenderKey} (world : World σ)
    (hnone : s.provider.renders.get? key = none) :
    Remembers renderer backend
      ⟨world.observed (s.world.own.2 ++ [.render key (renderer.uncached key)]),
        { s.provider with
          renders := (s.provider.renders.enter key).close key (renderer.uncached key) }⟩ where
  renders := h.renders.close hnone fun other rendered => by
    simp [World.observed, eq_comm]
  builds := h.builds.congr fun other function => by
    simp [World.observed]
  once := by
    refine Attempt.nodup_snoc h.once fun made hmade other hother hsame => ?_
    cases hrendered : renderer.uncached key with
    | error error =>
      rw [hrendered] at hmade
      cases hmade
    | ok rendered =>
      rw [hrendered] at hmade
      cases hmade
      obtain ⟨earlier, rfl⟩ := Attempt.success?_eq_inl hsame
      have hearlier := (h.renders.get?_iff key earlier).mpr hother
      rw [hnone] at hearlier
      cases hearlier
  rendered other outcome hmem := by
    rcases List.mem_append.mp hmem with hmem | hmem
    · exact h.rendered other outcome hmem
    · cases List.mem_singleton.mp hmem
      rfl
  built other outcome hmem := by
    rcases List.mem_append.mp hmem with hmem | hmem
    · exact h.built other outcome hmem
    · cases List.mem_singleton.mp hmem

/-- A function that was not in the cache is remembered if it was built. -/
theorem add_build (h : s.Remembers renderer backend) {key : BuildKey}
    {outcome : Except KernelError Fn} {world before : World σ}
    (hnone : s.provider.builds.get? key = none)
    (hbuild : (backend.build key.name key.source key.slots before).1 = outcome) :
    Remembers renderer backend
      ⟨world.observed (s.world.own.2 ++ [.build key outcome]),
        { s.provider with builds := (s.provider.builds.enter key).close key outcome }⟩ where
  renders := h.renders.congr fun other rendered => by
    simp [World.observed]
  builds := h.builds.close hnone fun other function => by
    simp [World.observed, eq_comm]
  once := by
    refine Attempt.nodup_snoc h.once fun made hmade other hother hsame => ?_
    cases outcome with
    | error error => cases hmade
    | ok function =>
      cases hmade
      obtain ⟨earlier, rfl⟩ := Attempt.success?_eq_inr hsame
      have hearlier := (h.builds.get?_iff key earlier).mpr hother
      rw [hnone] at hearlier
      cases hearlier
  rendered other outcome hmem := by
    rcases List.mem_append.mp hmem with hmem | hmem
    · exact h.rendered other outcome hmem
    · cases List.mem_singleton.mp hmem
  built other outcome hmem := by
    rcases List.mem_append.mp hmem with hmem | hmem
    · exact h.built other outcome hmem
    · cases List.mem_singleton.mp hmem
      exact ⟨before, hbuild⟩

/-- A request for a rendering gives what would be rendered without the cache. -/
theorem render (h : s.Remembers renderer backend) (key : RenderKey) :
    ∃ s' added, Session.renderSlot.request key (Session.ofBackend
        ((renderer.renderIn key.name key.module key.params).kept (.render key))) s =
          (renderer.uncached key, s') ∧
      s'.Remembers renderer backend ∧ s'.world.unobserved = s.world.unobserved ∧
      Attempt.Adds s.world.own.2 (.render key) (renderer.uncached key) added ∧
      s'.world.own.2 = s.world.own.2 ++ added := by
  cases hvalue : s.provider.renders.get? key with
  | some rendered =>
    have hmem := (h.renders.get?_iff key rendered).mp hvalue
    have huncached := h.rendered key _ hmem
    rw [Session.renderSlot.request_of_hit hvalue, huncached]
    refine ⟨_, [], rfl, ?_, rfl, .inl ⟨rendered, huncached.symm, hmem, rfl⟩,
      (List.append_nil _).symm⟩
    exact { h with renders := ⟨h.renders.get?_iff, h.renders.marked_eq⟩ }
  | none =>
    have hunmarked : key ∉ s.provider.renders.marked := by
      rw [h.renders.marked_eq]
      exact List.not_mem_nil
    have hwork := renderer.renderIn_apply key s.world.unobserved
    refine ⟨_, [.render key (renderer.uncached key)],
      Session.renderSlot_absent hvalue hunmarked hwork _, h.add_render _ hvalue, rfl,
      .inr ⟨fun rendered hmem => ?_, rfl⟩, rfl⟩
    rw [(h.renders.get?_iff key rendered).mpr hmem] at hvalue
    cases hvalue

/-- A request for a function gives a function that was built for exactly its key. -/
theorem build (h : s.Remembers renderer backend) (key : BuildKey) :
    ∃ outcome s' added, Session.buildSlot.request key (Session.ofBackend
        ((backend.build key.name key.source key.slots).kept (.build key))) s = (outcome, s') ∧
      s'.Remembers renderer backend ∧
      Attempt.Adds s.world.own.2 (.build key) outcome added ∧
      (added ≠ [] →
        outcome = (backend.build key.name key.source key.slots s.world.unobserved).1) ∧
      s'.world.own.2 = s.world.own.2 ++ added := by
  cases hvalue : s.provider.builds.get? key with
  | some function =>
    have hmem := (h.builds.get?_iff key function).mp hvalue
    rw [Session.buildSlot.request_of_hit hvalue]
    refine ⟨.ok function, _, [], rfl, ?_, .inl ⟨function, rfl, hmem, rfl⟩,
      fun hadded => absurd rfl hadded, (List.append_nil _).symm⟩
    exact { h with builds := ⟨h.builds.get?_iff, h.builds.marked_eq⟩ }
  | none =>
    have hunmarked : key ∉ s.provider.builds.marked := by
      rw [h.builds.marked_eq]
      exact List.not_mem_nil
    obtain ⟨outcome, world, hwork⟩ : ∃ outcome world,
        backend.build key.name key.source key.slots s.world.unobserved = (outcome, world) :=
      ⟨_, _, rfl⟩
    have houtcome : (backend.build key.name key.source key.slots s.world.unobserved).1 = outcome := by
      rw [hwork]
    refine ⟨outcome, _, [.build key outcome], Session.buildSlot_absent hvalue hunmarked hwork _,
      h.add_build hvalue houtcome, .inr ⟨fun function hmem => ?_, rfl⟩, fun _ => houtcome.symm, rfl⟩
    rw [(h.builds.get?_iff key function).mpr hmem] at hvalue
    cases hvalue

end Session.Remembers

/-! ### Requests for functions -/

/-- What a request for a function gives and adds to the attempts of a world. The rendering is that
of the renderer, the function is one that the backend built for its text and slots, and the backend
is asked for either only if it did not succeed before. -/
def Backend.Answers (backend : Backend Fn σ) (renderer : Renderer) (key : RenderKey)
    (before : World (σ × List (Attempt Fn))) (result : Except KernelError (Fn × Contract))
    (after : List (Attempt Fn)) : Prop :=
  ∃ rendering, Attempt.Adds before.own.2 (.render key) (renderer.uncached key) rendering ∧
    match renderer.uncached key with
    | .error error => result = .error error ∧ after = before.own.2 ++ rendering
    | .ok rendered =>
        let slots := rendered.contract.slotTypes
        ∃ outcome building,
          Attempt.Adds before.own.2 (.build ⟨key.name, rendered.source, slots⟩) outcome building ∧
          (building ≠ [] → outcome =
            (backend.build key.name rendered.source slots before.unobserved).1) ∧
          result = outcome.map (·, rendered.contract) ∧
          after = before.own.2 ++ rendering ++ building

/-- A rendering is no attempt to build. -/
theorem Attempt.Adds.of_append {attempts rendering : List (Attempt Fn)} {key : RenderKey}
    {outcome : Except KernelError RenderedKernel}
    (h : Adds attempts (.render key) outcome rendering) {other : BuildKey}
    {built : Except KernelError Fn} {building : List (Attempt Fn)}
    (hbuild : Adds (attempts ++ rendering) (.build other) built building) :
    Adds attempts (.build other) built building := by
  have hmem : ∀ function, Attempt.build other (.ok function) ∈ attempts ++ rendering ↔
      .build other (.ok function) ∈ attempts := by
    intro function
    rcases h with ⟨-, -, -, rfl⟩ | ⟨-, rfl⟩
    · rw [List.append_nil]
    · simp
  rcases hbuild with ⟨function, hbuilt, hold, hnothing⟩ | ⟨hnew, hadded⟩
  · exact .inl ⟨function, hbuilt, (hmem function).mp hold, hnothing⟩
  · exact .inr ⟨fun function hold => hnew function ((hmem function).mpr hold), hadded⟩

/-- A request for a function is answered and remembered. -/
theorem Session.Remembers.function {renderer : Renderer} {backend : Backend Fn σ}
    {s : Session Fn (σ × List (Attempt Fn))} (h : s.Remembers renderer backend)
    (name module : String) (params : Params) :
    ∃ result s', (backend.rendering renderer).observed.function name module params s =
        (result, s') ∧ s'.Remembers renderer backend ∧
      backend.Answers renderer ⟨name, module, params⟩ s.world result s'.world.own.2 := by
  obtain ⟨middle, rendering, hrender, hmiddle, hworld, hrendering, hattempts⟩ :=
    h.render ⟨name, module, params⟩
  cases huncached : renderer.uncached ⟨name, module, params⟩ with
  | error error =>
    rw [huncached] at hrender
    refine ⟨.error error, middle, bind_of_error hrender, hmiddle, rendering, hrendering, ?_⟩
    rw [huncached]
    exact ⟨rfl, hattempts⟩
  | ok rendered =>
    rw [huncached] at hrender
    obtain ⟨outcome, s', building, hbuild, hs', hbuilding, hasked, hattempts'⟩ :=
      hmiddle.build ⟨name, rendered.source, rendered.contract.slotTypes⟩
    rw [hworld] at hasked
    rw [hattempts] at hbuilding hattempts'
    have hfunction : (backend.rendering renderer).observed.function name module params s =
        (outcome.map (·, rendered.contract), s') := by
      refine (bind_of_ok hrender).trans ?_
      cases outcome with
      | error error => exact bind_of_error hbuild
      | ok function => exact bind_of_ok hbuild
    refine ⟨_, s', hfunction, hs', rendering, hrendering, ?_⟩
    rw [huncached]
    exact ⟨outcome, building, hrendering.of_append hbuilding, hasked, rfl, hattempts'⟩

/-- A function that is given comes with the contract of an uncached rendering, and was built for
exactly its name, text and slots. -/
theorem Backend.Answers.of_ok {backend : Backend Fn σ} {renderer : Renderer} {key : RenderKey}
    {before : World (σ × List (Attempt Fn))} {function : Fn} {contract : Contract}
    {after : List (Attempt Fn)}
    (h : backend.Answers renderer key before (.ok (function, contract)) after) :
    ∃ rendered, renderer.renderKernel key.name key.module key.params = .ok rendered ∧
      contract = rendered.contract ∧
      .build ⟨key.name, rendered.source, contract.slotTypes⟩ (.ok function) ∈ after := by
  obtain ⟨rendering, -, hmatch⟩ := h
  unfold Renderer.uncached at hmatch
  cases hrender : renderer.renderKernel key.name key.module key.params with
  | error error =>
    rw [hrender] at hmatch
    cases hmatch.1
  | ok rendered =>
    rw [hrender] at hmatch
    obtain ⟨outcome, building, hbuilding, -, hresult, rfl⟩ := hmatch
    cases outcome with
    | error error => cases hresult
    | ok built =>
      cases hresult
      refine ⟨rendered, rfl, rfl, ?_⟩
      rcases hbuilding with ⟨other, hother, hmem, -⟩ | ⟨-, rfl⟩
      · cases hother
        exact List.mem_append_left _ (List.mem_append_left _ hmem)
      · exact List.mem_append_right _ List.mem_cons_self

/-! ### Histories -/

namespace History

/-- A new provider over an observed backend after a number of calls. -/
def observed (backend : Backend Fn σ) (renderer : Renderer) (world : World σ)
    (calls : List (Call σ)) : History Fn (σ × List (Attempt Fn)) :=
  after (backend.rendering renderer).observed (world.observed []) (calls.map Call.observed)

/-- Every call leaves a provider that remembers what was made. -/
theorem remembers_observed (backend : Backend Fn σ) (renderer : Renderer) (world : World σ)
    (calls : List (Call σ)) :
    (observed backend renderer world calls).session.Remembers renderer backend := by
  have hpreserves : (backend.rendering renderer).observed.Preserves
      (Session.Remembers renderer backend) fun _ _ => True := by
    refine ⟨fun module => Session.keeps_register fun s _ h => ?_, fun name module params s h => ?_,
      fun launch s h => ?_⟩
    · exact ⟨h.renders, h.builds, h.once, h.rendered, h.built⟩
    · obtain ⟨result, s', hfunction, hs', -⟩ := h.function name module params
      rw [hfunction]
      exact ⟨hs', fun _ _ => trivial⟩
    · exact ⟨⟨h.renders, h.builds, h.once, h.rendered, h.built⟩, fun _ _ => trivial⟩
  have hstart : Session.Remembers renderer backend
      ⟨world.observed [], (.empty : Provider Fn)⟩ := by
    refine ⟨⟨fun key rendered => ?_, rfl⟩, ⟨fun key function => ?_, rfl⟩, List.nodup_nil, ?_, ?_⟩
    · exact ⟨nofun, nofun⟩
    · exact ⟨nofun, nofun⟩
    · exact nofun
    · exact nofun
  refine (hpreserves.after hstart _ fun f hf s h => ?_).1
  obtain ⟨c, -, hc⟩ := List.mem_map.mp hf
  cases c with
  | change g =>
    cases hc
    exact ⟨h.renders, h.builds, h.once, h.rendered, h.built⟩
  | _ => cases hc

end History

/-- The caches of a session are transparent. Nothing was made twice, every attempt is what the
renderer or the backend gave, and any request for a function or a kernel is answered as without the
caches. -/
structure Session.Transparent (renderer : Renderer) (backend : Backend Fn σ)
    (s : Session Fn (σ × List (Attempt Fn))) : Prop where
  once : (s.world.own.2.filterMap Attempt.success?).Nodup
  rendered : ∀ key outcome, .render key outcome ∈ s.world.own.2 → outcome = renderer.uncached key
  built : ∀ key outcome, .build key outcome ∈ s.world.own.2 →
    ∃ world, (backend.build key.name key.source key.slots world).1 = outcome
  function : ∀ name module params, ∃ result s',
    (backend.rendering renderer).observed.function name module params s = (result, s') ∧
      backend.Answers renderer ⟨name, module, params⟩ s.world result s'.world.own.2 ∧
      ∀ function contract, result = .ok (function, contract) →
        ∃ rendered, renderer.renderKernel name module params = .ok rendered ∧
          contract = rendered.contract ∧
          .build ⟨name, rendered.source, contract.slotTypes⟩ (.ok function) ∈ s'.world.own.2
  kernel : ∀ name params dims operands, match s.provider.registry.get? name with
    | none => (backend.rendering renderer).observed.kernel name params dims operands s =
        (.error (.unknownKernel name), s)
    | some module => ∃ result s',
        (backend.rendering renderer).observed.kernel name params dims operands s =
            (result >>= fun r => Backend.bind r.1 r.2 dims operands, s') ∧
          backend.Answers renderer ⟨name, module, params⟩ s.world result s'.world.own.2

/-- A session that remembers its attempts answers as without caches. -/
theorem Session.Remembers.transparent {renderer : Renderer} {backend : Backend Fn σ}
    {s : Session Fn (σ × List (Attempt Fn))} (h : s.Remembers renderer backend) :
    s.Transparent renderer backend where
  once := h.once
  rendered := h.rendered
  built := h.built
  function name module params := by
    obtain ⟨result, s', hfunction, -, hanswers⟩ := h.function name module params
    refine ⟨result, s', hfunction, hanswers, fun function contract hresult => ?_⟩
    rw [hresult] at hanswers
    exact hanswers.of_ok
  kernel name params dims operands := by
    rw [Backend.kernel_apply]
    cases s.provider.registry.get? name with
    | none => rfl
    | some module =>
      obtain ⟨result, s', hfunction, -, hanswers⟩ := h.function name module params
      refine ⟨result, s', ?_, hanswers⟩
      cases result with
      | error error => exact bind_of_error hfunction
      | ok r => exact bind_of_ok hfunction

/-- After any calls on a provider, its caches are transparent, and this is what happens on the
backend that nobody observes. -/
theorem History.requests_make_once (backend : Backend Fn σ) (renderer : Renderer) (world : World σ)
    (calls : List (Call σ)) :
    (observed backend renderer world calls).session.Transparent renderer backend ∧
      (observed backend renderer world calls).unobserved =
        after (backend.rendering renderer) world calls :=
  ⟨(remembers_observed backend renderer world calls).transparent, unobserved_after world calls⟩

end KernelForge
