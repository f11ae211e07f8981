import KernelForge.Kernel.Provider

/-!
# What work on a state keeps

Work keeps an invariant if the invariant holds of the state afterwards, also when the work fails.
The rules below follow the way in which work is put together; a request to a cache keeps what its
builder and the changes to the cache keep.
-/

namespace KernelForge

variable {S α β : Type}

/-- Work goes on with the result and the state of the work before it, unless that failed. -/
theorem bind_apply (work : ExceptT KernelError (StateM S) α)
    (next : α → ExceptT KernelError (StateM S) β) (s : S) :
    (work >>= next) s = match work s with
      | (.ok a, s') => next a s'
      | (.error error, s') => (.error error, s') := by
  simp only [bind, ExceptT.bind, ExceptT.mk, StateT.bind]
  rcases work s with ⟨error | a, s'⟩ <;> rfl

/-- Work that succeeds hands its result on. -/
theorem bind_of_ok {work : ExceptT KernelError (StateM S) α}
    {next : α → ExceptT KernelError (StateM S) β} {s s' : S} {a : α} (h : work s = (.ok a, s')) :
    (work >>= next) s = next a s' := by
  rw [bind_apply, h]

/-- Nothing comes after work that fails. -/
theorem bind_of_error {work : ExceptT KernelError (StateM S) α}
    {next : α → ExceptT KernelError (StateM S) β} {s s' : S} {error : KernelError}
    (h : work s = (.error error, s')) : (work >>= next) s = (.error error, s') := by
  rw [bind_apply, h]

/-- Work in two steps succeeds only if both do. -/
theorem ok_of_bind_fst {work : ExceptT KernelError (StateM S) α}
    {next : α → ExceptT KernelError (StateM S) β} {s : S} {b : β}
    (h : ((work >>= next) s).1 = .ok b) :
    ∃ a s', work s = (.ok a, s') ∧ (next a s').1 = .ok b := by
  rcases hwork : work s with ⟨error | a, s'⟩
  · rw [bind_of_error hwork] at h
    cases h
  · rw [bind_of_ok hwork] at h
    exact ⟨a, s', rfl, h⟩

/-- Work in two steps that succeeds ends where the second step does. -/
theorem ok_of_bind_apply {work : ExceptT KernelError (StateM S) α}
    {next : α → ExceptT KernelError (StateM S) β} {s s' : S} {b : β}
    (h : (work >>= next) s = (.ok b, s')) :
    ∃ a s₁, work s = (.ok a, s₁) ∧ next a s₁ = (.ok b, s') := by
  obtain ⟨a, s₁, hwork, -⟩ := ok_of_bind_fst (congrArg Prod.fst h)
  rw [bind_of_ok hwork] at h
  exact ⟨a, s₁, hwork, h⟩

/-- Work that keeps an invariant, and whose results have a property. -/
def Keeps (inv : S → Prop) (work : ExceptT KernelError (StateM S) α) (post : α → Prop) : Prop :=
  ∀ s, inv s → inv (work s).2 ∧ ∀ a, (work s).1 = .ok a → post a

namespace Keeps

variable {inv : S → Prop} {post : α → Prop} {post' : β → Prop}
  {work : ExceptT KernelError (StateM S) α}

/-- A value keeps everything. -/
theorem pure {a : α} (h : post a) : Keeps inv (Pure.pure a) post := by
  intro s hs
  refine ⟨hs, fun b hb => ?_⟩
  cases hb
  exact h

/-- So does a failure. -/
theorem throw (error : KernelError) : Keeps inv (throw error) post := by
  intro s hs
  refine ⟨hs, fun a ha => ?_⟩
  cases ha

/-- What is read from a state for which the invariant holds. -/
theorem get : Keeps inv MonadState.get inv := by
  intro s hs
  refine ⟨hs, fun a ha => ?_⟩
  cases ha
  exact hs

/-- Work in two parts keeps what both parts keep. -/
theorem bind {next : α → ExceptT KernelError (StateM S) β} (h : Keeps inv work post)
    (hnext : ∀ a, post a → Keeps inv (next a) post') : Keeps inv (work >>= next) post' := by
  intro s hs
  obtain ⟨hkept, hpost⟩ := h s hs
  rw [bind_apply]
  cases hwork : work s with
  | mk result s' =>
    rw [hwork] at hkept hpost
    cases result with
    | ok a => exact hnext a (hpost a rfl) s' hkept
    | error error =>
      refine ⟨hkept, fun a ha => ?_⟩
      cases ha

end Keeps

/-- The cache after a build: it has the value, if there is one, and the key was left. -/
def BuildCache.close {K V : Type} [DecidableEq K] (cache : BuildCache K V) (key : K) :
    Except KernelError V → BuildCache K V
  | .ok value => (cache.keep key value).leave key
  | .error _ => cache.leave key

namespace CacheSlot

variable {K V : Type} [DecidableEq K] (slot : CacheSlot S K V) {key : K} {s : S}
  {build : ExceptT KernelError (StateM S) V}

/-- A request for a key that has a value gives it and counts a hit. -/
theorem request_of_hit {value : V} (h : (slot.get s).get? key = some value) :
    slot.request key build s = (.ok value, slot.modify .countHit s) := by
  simp only [request, h]

/-- A request for a key that is being built is refused. -/
theorem request_of_marked (h : (slot.get s).get? key = none) (hmarked : key ∈ (slot.get s).marked) :
    slot.request key build s = (.error (.reentrantBuild (slot.get s).name), s) := by
  simp only [request, h, if_pos hmarked]

/-- A request for any other key gives what its builder gives. -/
theorem request_of_absent (h : (slot.get s).get? key = none) (hmarked : key ∉ (slot.get s).marked) :
    slot.request key build s =
      ((build (slot.modify (·.enter key) s)).1,
        slot.modify (·.close key (build (slot.modify (·.enter key) s)).1)
          (build (slot.modify (·.enter key) s)).2) := by
  simp only [request, h, if_neg hmarked]
  rcases build (slot.modify (·.enter key) s) with ⟨error | value, s'⟩ <;> rfl

/-- A request keeps an invariant that the builder and every change to the cache keep. -/
theorem keeps_request {inv : S → Prop} {post : V → Prop} (key : K)
    (hcount : ∀ s, inv s → inv (slot.modify .countHit s))
    (henter : ∀ s, inv s → inv (slot.modify (·.enter key) s))
    (hleave : ∀ s, inv s → inv (slot.modify (·.leave key) s))
    (hkeep : ∀ s v, inv s → post v → inv (slot.modify (fun c => (c.keep key v).leave key) s))
    (hfound : ∀ s v, inv s → (slot.get s).get? key = some v → post v)
    (hbuild : Keeps inv build post) : Keeps inv (slot.request key build) post := by
  intro s hs
  cases hvalue : (slot.get s).get? key with
  | some value =>
    rw [slot.request_of_hit hvalue]
    refine ⟨hcount s hs, fun v hv => ?_⟩
    cases hv
    exact hfound s value hs hvalue
  | none =>
    by_cases hmarked : key ∈ (slot.get s).marked
    · rw [slot.request_of_marked hvalue hmarked]
      refine ⟨hs, fun a ha => ?_⟩
      cases ha
    · rw [slot.request_of_absent hvalue hmarked]
      obtain ⟨hkept, hpost⟩ := hbuild _ (henter s hs)
      refine ⟨?_, hpost⟩
      cases hresult : (build (slot.modify (·.enter key) s)).1 with
      | ok value => exact hkeep _ value hkept (hpost value hresult)
      | error error => exact hleave _ hkept

end CacheSlot

namespace Session

variable {Fn σ : Type} {inv : Session Fn σ → Prop}

/-- Work of the backend changes the world and nothing else. -/
theorem ofBackend_apply (work : BackendM σ α) (s : Session Fn σ) :
    ofBackend work s = ((work s.world).1, { s with world := (work s.world).2 }) := rfl

/-- Work of the backend keeps what is only about the provider. -/
theorem keeps_ofBackend {work : BackendM σ α} {post : α → Prop}
    (hworld : ∀ s world, inv s → inv { s with world := world })
    (hpost : ∀ world a, (work world).1 = .ok a → post a) : Keeps inv (ofBackend work) post := by
  intro s hs
  exact ⟨hworld s _ hs, fun a ha => hpost s.world a ha⟩

/-- A check keeps everything. -/
theorem keeps_ofExcept {value : Except KernelError α} {post : α → Prop}
    (h : ∀ a, value = .ok a → post a) : Keeps inv (ofExcept value) post := by
  intro s hs
  exact ⟨hs, h⟩

end Session

end KernelForge
