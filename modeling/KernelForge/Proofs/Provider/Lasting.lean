import KernelForge.Proofs.Provider.Preserves

/-!
# Functions last

A cache never gives up a value. A function that a provider has given is therefore given again at any
later moment, without work for the backend.
-/

namespace KernelForge

variable {Fn σ : Type}

/-! ### Caches -/

/-- A build of another key leaves the value of a key alone. -/
theorem BuildCache.get?_close_of_ne {K V : Type} [DecidableEq K] {cache : BuildCache K V}
    {key other : K} (h : key ≠ other) (outcome : Except KernelError V) :
    ((cache.enter other).close other outcome).get? key = cache.get? key := by
  cases outcome with
  | error error => rfl
  | ok value =>
    change ((other, value) :: cache.entries).lookup key = cache.entries.lookup key
    rw [List.lookup_cons, beq_false_of_ne h]

/-- A request keeps all values of its cache and adds its own. The builder must leave the cache to the
request. -/
theorem CacheSlot.get?_request {S K V : Type} [DecidableEq K] (slot : CacheSlot S K V)
    (hset : ∀ cache s, slot.get (slot.set cache s) = cache)
    {build : ExceptT KernelError (StateM S) V} (hbuild : ∀ s, slot.get (build s).2 = slot.get s)
    (key : K) (s : S) :
    (∀ other value, (slot.get s).get? other = some value →
      (slot.get (slot.request key build s).2).get? other = some value) ∧
    ∀ value, (slot.request key build s).1 = .ok value →
      (slot.get (slot.request key build s).2).get? key = some value := by
  cases hvalue : (slot.get s).get? key with
  | some found =>
    rw [slot.request_of_hit hvalue, CacheSlot.modify, hset]
    refine ⟨fun _ _ h => h, fun value h => ?_⟩
    cases h
    exact hvalue
  | none =>
    by_cases hmarked : key ∈ (slot.get s).marked
    · rw [slot.request_of_marked hvalue hmarked]
      exact ⟨fun _ _ h => h, nofun⟩
    · have hcache : slot.get (build (slot.modify (·.enter key) s)).2 = (slot.get s).enter key := by
        rw [hbuild, CacheSlot.modify, hset]
      have hclosed (f : BuildCache K V → BuildCache K V) (t : S) :
          slot.get (slot.modify f t) = f (slot.get t) := hset _ _
      rw [slot.request_of_absent hvalue hmarked, hclosed, hcache]
      refine ⟨fun other value h => ?_, fun value h => ?_⟩
      · have hne : other ≠ key := by
          rintro rfl
          rw [hvalue] at h
          cases h
        exact (BuildCache.get?_close_of_ne hne _).trans h
      · rw [h]
        exact List.lookup_cons_self

/-! ### Functions -/

/-- The caches of a session have the function of a kernel and its contract. -/
def Session.Has (s : Session Fn σ) (key : RenderKey) (result : Fn × Contract) : Prop :=
  ∃ rendered, s.provider.renders.get? key = some rendered ∧ rendered.contract = result.2 ∧
    s.provider.builds.get? ⟨key.name, rendered.source, rendered.contract.slotTypes⟩ = some result.1

namespace Session

/-- Requests for renderings have nothing to do with functions. -/
theorem keeps_builds (builds : BuildCache BuildKey Fn) (key : RenderKey)
    (work : BackendM σ RenderedKernel) :
    Keeps (fun s : Session Fn σ => s.provider.builds = builds)
      (renderSlot.request key (ofBackend work)) fun _ => True :=
  renderSlot.keeps_request _ (fun _ h => h) (fun _ h => h) (fun _ h => h) (fun _ _ h _ => h)
    (fun _ _ _ _ => trivial) (keeps_ofBackend (fun _ _ h => h) fun _ _ _ => trivial)

/-- Requests for functions have nothing to do with renderings. -/
theorem keeps_renders (renders : BuildCache RenderKey RenderedKernel) (key : BuildKey)
    (work : BackendM σ Fn) :
    Keeps (fun s : Session Fn σ => s.provider.renders = renders)
      (buildSlot.request key (ofBackend work)) fun _ => True :=
  buildSlot.keeps_request _ (fun _ h => h) (fun _ h => h) (fun _ h => h) (fun _ _ h _ => h)
    (fun _ _ _ _ => trivial) (keeps_ofBackend (fun _ _ h => h) fun _ _ _ => trivial)

/-- A request for a function keeps the rendering of a key. -/
theorem keeps_rendered (key : RenderKey) (rendered : RenderedKernel) (built : BuildKey)
    (work : BackendM σ Fn) :
    Keeps (fun s : Session Fn σ => s.provider.renders.get? key = some rendered)
      (buildSlot.request built (ofBackend work)) fun _ => True := fun s h =>
  ⟨(congrArg (·.get? key) (keeps_renders _ built work s rfl).1).trans h, fun _ _ => trivial⟩

variable {s : Session Fn σ} {key : RenderKey} {result : Fn × Contract}

/-- What a session has is given at once; both caches count a hit, and nothing else changes. -/
theorem Has.function_apply (h : s.Has key result) (backend : Backend Fn σ) :
    backend.function key.name key.module key.params s =
      (.ok result, buildSlot.modify .countHit (renderSlot.modify .countHit s)) := by
  obtain ⟨rendered, hrendered, hcontract, hbuilt⟩ := h
  have hrender : renderSlot.request key
      (ofBackend (backend.render key.name key.module key.params)) s =
        (.ok rendered, renderSlot.modify .countHit s) := renderSlot.request_of_hit hrendered
  have hbuild : buildSlot.request ⟨key.name, rendered.source, rendered.contract.slotTypes⟩
      (ofBackend (backend.build key.name rendered.source rendered.contract.slotTypes))
        (renderSlot.modify .countHit s) =
          (.ok result.1, buildSlot.modify .countHit (renderSlot.modify .countHit s)) :=
    buildSlot.request_of_hit hbuilt
  unfold Backend.function
  rw [bind_of_ok hrender, bind_of_ok hbuild, hcontract]
  rfl

/-- A session that has a function gives it on request. -/
theorem Has.function (h : s.Has key result) (backend : Backend Fn σ) :
    (backend.function key.name key.module key.params s).1 = .ok result :=
  congrArg Prod.fst (h.function_apply backend)

/-- What is rendered for a request, the session has from then on, whether or not a function is built. -/
theorem rendered_of_request {backend : Backend Fn σ} {rendered : RenderedKernel}
    (h : (renderSlot.request key (ofBackend (backend.render key.name key.module key.params)) s).1 =
      .ok rendered) :
    (backend.function key.name key.module key.params s).2.provider.renders.get? key =
      some rendered := by
  obtain ⟨s₁, hrender⟩ : ∃ s₁, renderSlot.request key
      (ofBackend (backend.render key.name key.module key.params)) s = (.ok rendered, s₁) :=
    ⟨_, Prod.ext h rfl⟩
  have hrendered := (renderSlot.get?_request (fun _ _ => rfl) (fun _ => rfl) key s).2 rendered h
  rw [hrender] at hrendered
  unfold Backend.function
  rw [bind_of_ok hrender]
  exact ((keeps_rendered key rendered _ _).bind fun _ _ =>
    (Keeps.pure trivial : Keeps _ _ fun _ => True)) s₁ hrendered |>.1

/-- What is given, the session has from then on. -/
theorem has_of_function {backend : Backend Fn σ} {s' : Session Fn σ}
    (h : backend.function key.name key.module key.params s = (.ok result, s')) :
    s'.Has key result := by
  obtain ⟨rendered, s₁, hrender, h⟩ := ok_of_bind_apply h
  obtain ⟨function, s₂, hbuild, h⟩ := ok_of_bind_apply h
  cases h
  have hrendered := (renderSlot.get?_request (fun _ _ => rfl) (fun _ => rfl) key s).2 rendered
    (congrArg Prod.fst hrender)
  have hbuilt := (buildSlot.get?_request (fun _ _ => rfl) (fun _ => rfl) _ s₁).2 function
    (congrArg Prod.fst hbuild)
  have hkept := (keeps_renders s₁.provider.renders
    ⟨key.name, rendered.source, rendered.contract.slotTypes⟩
    (backend.build key.name rendered.source rendered.contract.slotTypes) s₁ rfl).1
  rw [hrender] at hrendered
  rw [hbuild] at hbuilt hkept
  exact ⟨rendered, hkept ▸ hrendered, rfl, hbuilt⟩

end Session

/-- A rendering that a session has, it keeps. -/
theorem Backend.preserves_rendered (backend : Backend Fn σ) (key : RenderKey)
    (rendered : RenderedKernel) :
    backend.Preserves (fun s => s.provider.renders.get? key = some rendered) fun _ _ => True where
  register _ := Session.keeps_register fun _ _ h => h
  function name module params := by
    refine (?_ : Keeps _ _ fun _ => True).bind fun made _ =>
      (?_ : Keeps _ _ fun _ => True).bind fun _ _ => Keeps.pure trivial
    · intro s h
      exact ⟨(Session.renderSlot.get?_request (fun _ _ => rfl) (fun _ => rfl) _ s).1 key _ h,
        fun _ _ => trivial⟩
    · exact Session.keeps_rendered key rendered _ _
  launch _ := Session.keeps_ofBackend (fun _ _ h => h) fun _ _ _ => trivial

/-- A function that a session has, it keeps. -/
theorem Backend.preserves_built (backend : Backend Fn σ) (key : BuildKey) (function : Fn) :
    backend.Preserves (fun s => s.provider.builds.get? key = some function) fun _ _ => True where
  register _ := Session.keeps_register fun _ _ h => h
  function name module params := by
    refine (?_ : Keeps _ _ fun _ => True).bind fun made _ =>
      (?_ : Keeps _ _ fun _ => True).bind fun _ _ => Keeps.pure trivial
    · intro s h
      have hbuilds := (Session.keeps_builds s.provider.builds ⟨name, module, params⟩
        (backend.render name module params) s rfl).1
      exact ⟨(congrArg (·.get? key) hbuilds).trans h, fun _ _ => trivial⟩
    · intro s h
      exact ⟨(Session.buildSlot.get?_request (fun _ _ => rfl) (fun _ => rfl) _ s).1 key _ h,
        fun _ _ => trivial⟩
  launch _ := Session.keeps_ofBackend (fun _ _ h => h) fun _ _ _ => trivial

/-- What keeps all renderings and functions keeps what a session has. -/
theorem Session.keeps_has {α : Type} {work : SessionM Fn σ α} {key : RenderKey}
    {result : Fn × Contract}
    (hrenders : ∀ key rendered,
      Keeps (fun s => s.provider.renders.get? key = some rendered) work fun _ => True)
    (hbuilds : ∀ key function,
      Keeps (fun s => s.provider.builds.get? key = some function) work fun _ => True) :
    Keeps (fun s => s.Has key result) work fun _ => True := by
  rintro s ⟨rendered, hrendered, hcontract, hbuilt⟩
  exact ⟨⟨rendered, (hrenders _ _ s hrendered).1, hcontract, (hbuilds _ _ s hbuilt).1⟩,
    fun _ _ => trivial⟩

/-- What a session has, it keeps. -/
theorem Backend.preserves_has (backend : Backend Fn σ) (key : RenderKey) (result : Fn × Contract) :
    backend.Preserves (fun s => s.Has key result) fun _ _ => True where
  register module := Session.keeps_has
    (fun key rendered => (backend.preserves_rendered key rendered).register module)
    fun key function => (backend.preserves_built key function).register module
  function name module params := Session.keeps_has
    (fun key rendered => (backend.preserves_rendered key rendered).function name module params)
    fun key function => (backend.preserves_built key function).function name module params
  launch launch := Session.keeps_has
    (fun key rendered => (backend.preserves_rendered key rendered).launch launch)
    fun key function => (backend.preserves_built key function).launch launch

/-! ### Later requests -/

namespace History

variable {backend : Backend Fn σ} {world : World σ} {earlier : List (Call σ)} {key : RenderKey}

/-- The session after a request for a function among other calls. -/
theorem session_request (backend : Backend Fn σ) (world : World σ) (earlier : List (Call σ))
    (key : RenderKey) :
    (after backend world (earlier ++ [.function key.name key.module key.params])).session =
      (backend.function key.name key.module key.params
        (after backend world earlier).session).2 := by
  rw [after, List.foldl_append]
  rfl

/-- What was rendered for a request is there at any later moment. -/
theorem rendered_later {rendered : RenderedKernel}
    (h : (Session.renderSlot.request key
      (Session.ofBackend (backend.render key.name key.module key.params))
        (after backend world earlier).session).1 = .ok rendered) (later : List (Call σ)) :
    (after backend world
      (earlier ++ .function key.name key.module key.params :: later)).session.provider.renders.get?
        key = some rendered := by
  rw [List.append_cons]
  refine preserved_append (backend.preserves_rendered key rendered) (fun _ _ h => h) ?_ later
  rw [session_request]
  exact Session.rendered_of_request h

/-- What was given for a request is there at any later moment. -/
theorem has_later {result : Fn × Contract}
    (h : (backend.function key.name key.module key.params
      (after backend world earlier).session).1 = .ok result) (later : List (Call σ)) :
    (after backend world
      (earlier ++ .function key.name key.module key.params :: later)).session.Has key result := by
  rw [List.append_cons]
  refine preserved_append (backend.preserves_has key result) (fun _ _ h => h) ?_ later
  rw [session_request]
  exact Session.has_of_function (Prod.ext h rfl)

end History

end KernelForge
