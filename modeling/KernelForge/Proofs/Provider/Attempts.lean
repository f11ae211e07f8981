import KernelForge.Proofs.Provider.Preserves

/-!
# What a backend is asked for

An observed backend works as it did before and keeps a list of all attempts to render and to build,
with what came of each. The list takes no part in the work: without it, calls on a provider over the
observed backend are calls on the provider over the backend itself.
-/

namespace KernelForge

variable {Fn σ α β : Type}

/-! ### Work that follows other work -/

/-- Work on one state is work on another state, of which it sees a part. -/
def Follows {S T : Type} (part : S → T) (work : ExceptT KernelError (StateM S) α)
    (other : ExceptT KernelError (StateM T) α) : Prop :=
  ∀ s, other (part s) = ((work s).1, part (work s).2)

namespace Follows

variable {S T : Type} {part : S → T} {work : ExceptT KernelError (StateM S) α}
  {other : ExceptT KernelError (StateM T) α}

/-- A value follows itself. -/
theorem pure (a : α) : Follows part (Pure.pure a) (Pure.pure a) := fun _ => rfl

/-- Work in two parts follows if both parts do. -/
theorem bind (h : Follows part work other) {next : α → ExceptT KernelError (StateM S) β}
    {next' : α → ExceptT KernelError (StateM T) β} (hnext : ∀ a, Follows part (next a) (next' a)) :
    Follows part (work >>= next) (other >>= next') := by
  intro s
  rw [bind_apply, bind_apply, h s]
  rcases work s with ⟨error | a, s'⟩
  · rfl
  · exact hnext a s'

/-- Requests follow each other if their builders do and the caches are one. -/
theorem request {K V : Type} [DecidableEq K] (slot : CacheSlot S K V) (slot' : CacheSlot T K V)
    (key : K) {build : ExceptT KernelError (StateM S) V} {build' : ExceptT KernelError (StateM T) V}
    (h : Follows part build build') (hget : ∀ s, slot'.get (part s) = slot.get s)
    (hset : ∀ cache s, slot'.set cache (part s) = part (slot.set cache s)) :
    Follows part (slot.request key build) (slot'.request key build') := by
  have hmodify : ∀ f s, slot'.modify f (part s) = part (slot.modify f s) := by
    intro f s
    rw [CacheSlot.modify, CacheSlot.modify, hget, hset]
  intro s
  cases hvalue : (slot.get s).get? key with
  | some value =>
    rw [slot.request_of_hit hvalue, slot'.request_of_hit (by rw [hget]; exact hvalue), hmodify]
  | none =>
    have hvalue' : (slot'.get (part s)).get? key = none := by
      rw [hget]
      exact hvalue
    by_cases hmarked : key ∈ (slot.get s).marked
    · rw [slot.request_of_marked hvalue hmarked,
        slot'.request_of_marked hvalue' (by rw [hget]; exact hmarked), hget]
    · rw [slot.request_of_absent hvalue hmarked,
        slot'.request_of_absent hvalue' (by rw [hget]; exact hmarked), hmodify, h, hmodify]

end Follows

/-! ### Attempts -/

/-- Something that a backend was asked for, and what came of it. -/
inductive Attempt (Fn : Type) where
  | render (key : RenderKey) (outcome : Except KernelError RenderedKernel)
  | build (key : BuildKey) (outcome : Except KernelError Fn)

/-- What a successful attempt rendered or built. -/
def Attempt.success? : Attempt Fn → Option (RenderKey ⊕ BuildKey)
  | render key (.ok _) => some (.inl key)
  | build key (.ok _) => some (.inr key)
  | _ => none

/-- The world of a backend that is observed, without the attempts. -/
def World.unobserved (world : World (σ × List (Attempt Fn))) : World σ :=
  ⟨world.store, world.own.1⟩

/-- Adds the attempts of an observed world to another one. -/
def World.observed (world : World σ) (attempts : List (Attempt Fn)) :
    World (σ × List (Attempt Fn)) :=
  ⟨world.store, world.own, attempts⟩

/-- Work of which nothing is kept. -/
def BackendM.unkept (work : BackendM σ α) : BackendM (σ × List (Attempt Fn)) α := fun world =>
  let (result, world') := work world.unobserved
  (result, world'.observed world.own.2)

/-- Work that is kept as an attempt. -/
def BackendM.kept (attempt : Except KernelError α → Attempt Fn) (work : BackendM σ α) :
    BackendM (σ × List (Attempt Fn)) α := fun world =>
  let (result, world') := work world.unobserved
  (result, world'.observed (world.own.2 ++ [attempt result]))

/-- Keeps all attempts to render and to build. -/
def Backend.observed (backend : Backend Fn σ) : Backend Fn (σ × List (Attempt Fn)) where
  render name module params :=
    (backend.render name module params).kept (.render ⟨name, module, params⟩)
  build name source slots := (backend.build name source slots).kept (.build ⟨name, source, slots⟩)
  launch function dims values := (backend.launch function dims values).unkept

/-- The same call; a change leaves the attempts alone. -/
def Call.observed : Call σ → Call (σ × List (Attempt Fn))
  | register module => register module
  | function name module params => function name module params
  | kernel name params dims operands => kernel name params dims operands
  | combination result terms => combination result terms
  | copy target source => copy target source
  | packing => packing
  | packingKernel name view => packingKernel name view
  | run i args => run i args
  | change f => change fun world => (f world.unobserved).observed world.own.2

/-! ### Observing changes nothing -/

/-- A session without the attempts. -/
def Session.unobserved (s : Session Fn (σ × List (Attempt Fn))) : Session Fn σ :=
  ⟨s.world.unobserved, s.provider⟩

/-- A history without the attempts. -/
def History.unobserved (h : History Fn (σ × List (Attempt Fn))) : History Fn σ :=
  ⟨h.session.unobserved, h.kernels⟩

namespace Backend

variable (backend : Backend Fn σ)

/-- Work that is kept as an attempt does what it did. -/
theorem follows_kept (attempt : Except KernelError α → Attempt Fn) (work : BackendM σ α) :
    Follows (T := Session Fn σ) Session.unobserved (Session.ofBackend (work.kept attempt))
      (Session.ofBackend work) :=
  fun _ => rfl

/-- Checks do not depend on attempts. -/
theorem follows_ofExcept (value : Except KernelError α) :
    Follows (T := Session Fn σ) Session.unobserved (Session.ofExcept value)
      (Session.ofExcept value) :=
  fun _ => rfl

/-- A request for a function of the observed backend is one of the backend. -/
theorem follows_function (name module : String) (params : Params) :
    Follows Session.unobserved (backend.observed.function name module params)
      (backend.function name module params) := by
  refine Follows.bind ?_ fun rendered => Follows.bind ?_ fun function => Follows.pure _
  · exact Follows.request Session.renderSlot Session.renderSlot _ (follows_kept _ _)
      (fun _ => rfl) fun _ _ => rfl
  · exact Follows.request Session.buildSlot Session.buildSlot _ (follows_kept _ _)
      (fun _ => rfl) fun _ _ => rfl

/-- So is one for a kernel. -/
theorem follows_kernel (name : String) (params : Params) (dims : List UInt64)
    (operands : Operands) :
    Follows Session.unobserved (backend.observed.kernel name params dims operands)
      (backend.kernel name params dims operands) := by
  intro s
  have hregistry : s.unobserved.provider.registry = s.provider.registry := rfl
  rw [kernel_apply, kernel_apply, hregistry]
  cases s.provider.registry.get? name with
  | none => rfl
  | some module =>
    have hbind := (backend.follows_function name module params).bind fun result =>
      follows_ofExcept (bind result.1 result.2 dims operands)
    exact hbind s

/-- So is one for a combination. -/
theorem follows_combination (result : Operand) (terms : List Operand) :
    Follows Session.unobserved (backend.observed.combination result terms)
      (backend.combination result terms) := by
  refine Follows.bind (follows_ofExcept _) fun layout => ?_
  exact (backend.follows_function _ _ _).bind fun result => Follows.pure _

/-- So is one for a copy. -/
theorem follows_copy (target source : Operand) :
    Follows Session.unobserved (backend.observed.copy target source)
      (backend.copy target source) := by
  refine Follows.bind (follows_ofExcept _) fun layout => ?_
  exact (backend.follows_function _ _ _).bind fun result => follows_ofExcept _

/-- Registering does not depend on attempts. -/
theorem follows_register (module : String) :
    Follows (T := Session Fn σ) Session.unobserved (Session.register module)
      (Session.register module) := by
  intro s
  have hprovider : s.unobserved.provider = s.provider := rfl
  unfold Session.register
  rw [hprovider]
  cases s.provider.register module with
  | error error => rfl
  | ok result => rfl

/-- Neither does registering the kernels for exchange views. -/
theorem follows_packing :
    Follows (T := Session Fn σ) Session.unobserved Packing.create Packing.create :=
  (follows_register _).bind fun _ => (follows_register _).bind fun _ => Follows.pure _

/-- A kernel runs as it would unobserved. -/
theorem follows_run (kernel : Obtained Fn) (args : List Scalar) :
    Follows Session.unobserved (Session.ofBackend (kernel.run backend.observed args))
      (Session.ofBackend (kernel.run backend args)) := by
  intro s
  have hrun := kernel.run_eq_launch backend args s.world.unobserved
  have hrun' := kernel.run_eq_launch backend.observed args s.world
  have hstore : s.world.unobserved.store = s.world.store := rfl
  have hworld : s.unobserved.world = s.world.unobserved := rfl
  rw [hstore] at hrun
  rw [Session.ofBackend_apply, Session.ofBackend_apply, hworld, hrun, hrun']
  cases kernel.launch args s.world.store with
  | error error => rfl
  | ok launch => rfl

end Backend

namespace History

variable {backend : Backend Fn σ}

/-- A history goes on as it would unobserved. -/
theorem unobserved_perform (h : History Fn (σ × List (Attempt Fn)))
    {work : SessionM Fn (σ × List (Attempt Fn)) α} {other : SessionM Fn σ α}
    (hwork : Follows Session.unobserved work other) :
    (h.perform work).unobserved = h.unobserved.perform other := by
  have hs := hwork h.session
  change _ = ({ h.unobserved with session := (other h.session.unobserved).2 } : History Fn σ)
  rw [hs]
  rfl

/-- So it does where a kernel is obtained. -/
theorem unobserved_obtain (h : History Fn (σ × List (Attempt Fn))) {wrap : α → Obtained Fn}
    {work : SessionM Fn (σ × List (Attempt Fn)) α} {other : SessionM Fn σ α}
    (hwork : Follows Session.unobserved work other) :
    (h.obtain wrap work).unobserved = h.unobserved.obtain wrap other := by
  have hs : other h.unobserved.session = _ := hwork h.session
  unfold obtain
  rw [hs]
  rcases work h.session with ⟨error | kernel, session⟩
  · rfl
  · rfl

/-- A call over the observed backend is the call over the backend. -/
theorem unobserved_call (h : History Fn (σ × List (Attempt Fn))) (c : Call σ) :
    (h.call backend.observed c.observed).unobserved = h.unobserved.call backend c := by
  cases c with
  | register module => exact h.unobserved_perform (Backend.follows_register module)
  | function name module params =>
    exact h.unobserved_perform (backend.follows_function name module params)
  | kernel name params dims operands =>
    exact h.unobserved_obtain (backend.follows_kernel name params dims operands)
  | combination result terms => exact h.unobserved_obtain (backend.follows_combination result terms)
  | copy target source => exact h.unobserved_obtain (backend.follows_copy target source)
  | packing => exact h.unobserved_perform Backend.follows_packing
  | packingKernel name view => exact h.unobserved_obtain (backend.follows_kernel _ _ _ _)
  | run i args =>
    have hkernels : h.unobserved.kernels = h.kernels := rfl
    simp only [Call.observed, call, hkernels]
    cases h.kernels[i]? with
    | none => rfl
    | some kernel => exact h.unobserved_perform (backend.follows_run kernel args)
  | change f => rfl

/-- Calls over the observed backend are the calls over the backend. -/
theorem unobserved_after (world : World σ) (calls : List (Call σ)) :
    (after backend.observed (world.observed []) (calls.map Call.observed)).unobserved =
      after backend world calls := by
  suffices hall : ∀ h : History Fn (σ × List (Attempt Fn)),
      ((calls.map Call.observed).foldl (call backend.observed) h).unobserved =
        calls.foldl (call backend) h.unobserved from hall _
  induction calls with
  | nil => exact fun _ => rfl
  | cons c rest ih =>
    intro h
    rw [List.map_cons, List.foldl_cons, List.foldl_cons, ih, unobserved_call]

end History

end KernelForge
