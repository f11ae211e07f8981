import KernelForge.Proofs.Provider.Keeps
import KernelForge.Proofs.Provider.Runs

/-!
# What histories preserve

A call on a provider registers modules, asks for functions and binds them, or launches. What these
keep therefore holds after any calls, and what holds of all functions that are given holds of the
functions of all kernels that somebody got.
-/

namespace KernelForge

variable {Fn σ : Type} {backend : Backend Fn σ} {inv : Session Fn σ → Prop}
  {post : Fn → Contract → Prop}

/-! ### Registrations -/

/-- A registration that succeeds changes the registry and nothing else. -/
theorem Provider.register_eq_ok {provider provider' : Provider Fn} {module name : String}
    (h : provider.register module = .ok (name, provider')) :
    ∃ registry, provider' = { provider with registry := registry } := by
  simp only [Provider.register] at h
  split at h
  · injection h with h
    exact ⟨_, (Prod.mk.inj h).2.symm⟩
  · split at h
    · injection h with h
      exact ⟨_, (Prod.mk.inj h).2.symm⟩
    · cases h

/-- A registration keeps what is not about the registry. -/
theorem Session.keeps_register {module : String}
    (h : ∀ (s : Session Fn σ) registry, inv s →
      inv { s with provider := { s.provider with registry := registry } }) :
    Keeps inv (Session.register module) fun _ => True := by
  intro s hs
  refine ⟨?_, fun _ _ => trivial⟩
  unfold Session.register
  split
  · next name provider hregister =>
    obtain ⟨registry, rfl⟩ := Provider.register_eq_ok hregister
    exact h s registry hs
  · exact hs

/-! ### Calls -/

/-- Requests for functions and launches keep an invariant, and the functions that are given have a
property with their contracts. -/
structure Backend.Serves (backend : Backend Fn σ) (inv : Session Fn σ → Prop)
    (post : Fn → Contract → Prop) : Prop where
  function : ∀ name module params,
    Keeps inv (backend.function name module params) fun result => post result.1 result.2
  launch : ∀ launch : Launch Fn, Keeps inv
    (Session.ofBackend (backend.launch launch.function launch.dims launch.values)) fun _ => True

/-- Registrations, requests for functions and launches keep an invariant, and the functions that are
given have a property with their contracts. -/
structure Backend.Preserves (backend : Backend Fn σ) (inv : Session Fn σ → Prop)
    (post : Fn → Contract → Prop) : Prop where
  register : ∀ module, Keeps inv (Session.register module) fun _ => True
  function : ∀ name module params,
    Keeps inv (backend.function name module params) fun result => post result.1 result.2
  launch : ∀ launch : Launch Fn, Keeps inv
    (Session.ofBackend (backend.launch launch.function launch.dims launch.values)) fun _ => True

/-- Registrations are left out. -/
theorem Backend.Preserves.serves (h : backend.Preserves inv post) : backend.Serves inv post :=
  ⟨h.function, h.launch⟩

/-- Every backend keeps what holds of everything. -/
theorem Backend.preserves_anything (backend : Backend Fn σ) :
    backend.Preserves (fun _ => True) fun _ _ => True :=
  ⟨fun _ _ _ => ⟨trivial, fun _ _ => trivial⟩, fun _ _ _ _ _ => ⟨trivial, fun _ _ => trivial⟩,
    fun _ _ _ => ⟨trivial, fun _ _ => trivial⟩⟩

/-- The function of a kernel has a property with the contract by which its arguments were
accepted. -/
def Obtained.From (post : Fn → Contract → Prop) : Obtained Fn → Prop
  | bound kernel => ∃ contract operands, post kernel.function contract ∧
      BoundArgument.list kernel.dims contract operands = .ok kernel.args
  | combination kernel => post kernel.function kernel.contract

/-- Binding a function accepts its arguments. -/
theorem Backend.bind_eq_ok {function : Fn} {contract : Contract} {dims : List UInt64}
    {operands : Operands} {kernel : BoundKernel Fn}
    (h : bind function contract dims operands = .ok kernel) :
    kernel.function = function ∧ kernel.dims = dims ∧
      BoundArgument.list dims contract operands = .ok kernel.args := by
  simp only [Backend.bind, Bind.bind, Except.bind] at h
  split at h
  · cases h
  · next args hargs =>
    unfold BoundKernel.create at h
    split at h
    · cases h
      exact ⟨rfl, rfl, hargs⟩
    · cases h

/-- A kernel is a function of the registered module that is bound to the operands. -/
theorem Backend.kernel_apply (backend : Backend Fn σ) (name : String) (params : Params)
    (dims : List UInt64) (operands : Operands) (s : Session Fn σ) :
    backend.kernel name params dims operands s =
      match s.provider.registry.get? name with
      | none => (.error (.unknownKernel name), s)
      | some module => (backend.function name module params >>= fun result =>
          Session.ofExcept (bind result.1 result.2 dims operands)) s := by
  have hget : (get : SessionM Fn σ (Session Fn σ)) s = (.ok s, s) := rfl
  unfold Backend.kernel
  rw [bind_apply, hget]
  cases hregistry : s.provider.registry.get? name with
  | none => simp only [hregistry]; rfl
  | some module => simp only [hregistry]

/-- A kernel that was bound has the function and accepted arguments. -/
theorem Obtained.from_bind {function : Fn} {contract : Contract} {dims : List UInt64}
    {operands : Operands} (hpost : post function contract) {kernel : BoundKernel Fn}
    (h : Backend.bind function contract dims operands = .ok kernel) :
    (bound kernel).From post := by
  obtain ⟨rfl, rfl, hargs⟩ := Backend.bind_eq_ok h
  exact ⟨contract, operands, hpost, hargs⟩

namespace Backend.Serves

/-- Requests for kernels keep the invariant. -/
theorem kernel (h : backend.Serves inv post) (name : String) (params : Params)
    (dims : List UInt64) (operands : Operands) :
    Keeps inv (backend.kernel name params dims operands)
      fun kernel => (Obtained.bound kernel).From post := by
  refine Keeps.get.bind fun s _ => ?_
  split
  · exact Keeps.throw _
  · exact (h.function _ _ _).bind fun _ hpost =>
      Session.keeps_ofExcept fun _ hkernel => Obtained.from_bind hpost hkernel

/-- So do requests for copies. -/
theorem copy (h : backend.Serves inv post) (target source : Operand) :
    Keeps inv (backend.copy target source) fun kernel => (Obtained.bound kernel).From post := by
  refine Keeps.bind (Session.keeps_ofExcept fun _ _ => trivial) fun layout _ => ?_
  exact (h.function _ _ _).bind fun _ hpost =>
    Session.keeps_ofExcept fun _ hkernel => Obtained.from_bind hpost hkernel

/-- So do requests for combinations. -/
theorem combination (h : backend.Serves inv post) (result : Operand) (terms : List Operand) :
    Keeps inv (backend.combination result terms)
      fun kernel => (Obtained.combination kernel).From post := by
  refine Keeps.bind (Session.keeps_ofExcept fun _ _ => trivial) fun layout _ => ?_
  exact (h.function _ _ _).bind fun _ hpost => Keeps.pure hpost

/-- A run launches or does nothing. -/
theorem run (h : backend.Serves inv post) (kernel : Obtained Fn) (args : List Scalar) :
    Keeps inv (Session.ofBackend (kernel.run backend args)) fun _ => True := by
  intro s hs
  refine ⟨?_, fun _ _ => trivial⟩
  rw [Session.ofBackend_apply, kernel.run_eq_launch]
  split
  · exact hs
  · next launch _ => exact (h.launch launch s hs).1

end Backend.Serves

/-- So does registering the kernels for exchange views. -/
theorem Backend.Preserves.packing (h : backend.Preserves inv post) :
    Keeps inv Packing.create fun _ => True :=
  (h.register _).bind fun _ _ => (h.register _).bind fun _ _ => Keeps.pure trivial

/-! ### Histories -/

/-- An invariant holds of the session, and a property of the functions of all kernels. -/
def History.Kept (inv : Session Fn σ → Prop) (post : Fn → Contract → Prop) (h : History Fn σ) :
    Prop :=
  inv h.session ∧ ∀ kernel ∈ h.kernels, kernel.From post

namespace History.Kept

variable {h : History Fn σ}

/-- Work that keeps the invariant keeps it in a history. -/
theorem perform (hk : h.Kept inv post) {α : Type} {work : SessionM Fn σ α} {result : α → Prop}
    (hwork : Keeps inv work result) : (h.perform work).Kept inv post :=
  ⟨(hwork _ hk.1).1, hk.2⟩

/-- So does work that obtains a kernel with the property. -/
theorem obtain (hk : h.Kept inv post) {α : Type} {wrap : α → Obtained Fn}
    {work : SessionM Fn σ α} (hwork : Keeps inv work fun kernel => (wrap kernel).From post) :
    (h.obtain wrap work).Kept inv post := by
  obtain ⟨hkept, hpost⟩ := hwork _ hk.1
  unfold History.obtain
  split
  · next kernel session hrun =>
    rw [hrun] at hkept hpost
    refine ⟨hkept, fun other hother => ?_⟩
    rcases List.mem_append.mp hother with hother | hother
    · exact hk.2 other hother
    · cases List.mem_singleton.mp hother
      exact hpost kernel rfl
  · next error session hrun =>
    rw [hrun] at hkept
    exact ⟨hkept, hk.2⟩

/-- A call that registers nothing keeps what requests for functions and launches keep. -/
theorem serve (hk : h.Kept inv post) (hs : backend.Serves inv post) (c : Call σ)
    (hregister : ∀ module, c ≠ .register module) (hpacking : c ≠ .packing)
    (hchange : ∀ f, c = .change f → ∀ s, inv s → inv { s with world := f s.world }) :
    (h.call backend c).Kept inv post := by
  cases c with
  | register module => exact absurd rfl (hregister module)
  | function name module params => exact hk.perform (hs.function name module params)
  | kernel name params dims operands => exact hk.obtain (hs.kernel name params dims operands)
  | combination result terms => exact hk.obtain (hs.combination result terms)
  | copy target source => exact hk.obtain (hs.copy target source)
  | packing => exact absurd rfl hpacking
  | packingKernel name view => exact hk.obtain (hs.kernel _ _ _ _)
  | run i args =>
    simp only [History.call]
    split
    · next kernel _ => exact hk.perform (hs.run kernel args)
    · exact hk
  | change f => exact ⟨hchange f rfl _ hk.1, hk.2⟩

/-- A call keeps what its parts keep. -/
theorem call (hk : h.Kept inv post) (hp : backend.Preserves inv post) (c : Call σ)
    (hchange : ∀ f, c = .change f → ∀ s, inv s → inv { s with world := f s.world }) :
    (h.call backend c).Kept inv post := by
  cases c with
  | register module => exact hk.perform (hp.register module)
  | packing => exact hk.perform hp.packing
  | _ => exact hk.serve hp.serves _ nofun nofun hchange

end History.Kept

/-- A call keeps the kernels that callers got. -/
theorem History.kernels_call (h : History Fn σ) (c : Call σ) :
    h.kernels <+: (h.call backend c).kernels := by
  have hobtain {α : Type} (wrap : α → Obtained Fn) (work : SessionM Fn σ α) :
      h.kernels <+: (h.obtain wrap work).kernels := by
    unfold History.obtain
    split
    · exact List.prefix_append _ _
    · exact List.prefix_refl _
  cases c with
  | register | function | packing | change => exact List.prefix_refl _
  | kernel name params dims operands => exact hobtain .bound (backend.kernel name params dims operands)
  | combination result terms => exact hobtain .combination (backend.combination result terms)
  | copy target source => exact hobtain .bound (backend.copy target source)
  | packingKernel name view => exact hobtain .bound (Packing.kernel backend name view)
  | run i args =>
    simp only [History.call]
    split
    · exact List.prefix_refl _
    · exact List.prefix_refl _

/-- Callers keep the kernels that they got, whatever is called. -/
theorem History.kernels_calls (h : History Fn σ) (calls : List (Call σ)) :
    h.kernels <+: (calls.foldl (History.call backend) h).kernels := by
  induction calls generalizing h with
  | nil => exact List.prefix_refl _
  | cons c rest ih => exact (h.kernels_call c).trans (ih (h.call backend c))

/-- What is preserved goes on to hold, whatever is called. -/
theorem Backend.Preserves.calls (h : backend.Preserves inv post) (calls : List (Call σ))
    (hchange : ∀ f, .change f ∈ calls → ∀ s, inv s → inv { s with world := f s.world })
    {start : History Fn σ} (hstart : start.Kept inv post) :
    (calls.foldl (History.call backend) start).Kept inv post := by
  induction calls generalizing start with
  | nil => exact hstart
  | cons c rest ih =>
    refine ih (fun f hf => hchange f (List.mem_cons_of_mem _ hf)) ?_
    refine hstart.call h c fun f hf => hchange f ?_
    rw [hf]
    exact List.mem_cons_self

/-- After any calls, an invariant holds that is preserved. -/
theorem Backend.Preserves.after (h : backend.Preserves inv post) {world : World σ}
    (hstart : inv ⟨world, .empty⟩) (calls : List (Call σ))
    (hchange : ∀ f, .change f ∈ calls → ∀ s, inv s → inv { s with world := f s.world }) :
    (History.after backend world calls).Kept inv post :=
  h.calls calls hchange ⟨hstart, fun _ hkernel => absurd hkernel List.not_mem_nil⟩

/-- What holds of a session at some moment, and is preserved, holds after any more calls. -/
theorem History.preserved_append {world : World σ} {earlier : List (Call σ)}
    (h : backend.Preserves inv fun _ _ => True)
    (hchange : ∀ s world, inv s → inv { s with world := world })
    (hearlier : inv (after backend world earlier).session) (later : List (Call σ)) :
    inv (after backend world (earlier ++ later)).session := by
  have hkernels : (after backend world earlier).Kept _ _ :=
    backend.preserves_anything.after trivial earlier fun _ _ _ h => h
  have happend : after backend world (earlier ++ later) =
      later.foldl (call backend) (after backend world earlier) := List.foldl_append
  rw [happend]
  exact (h.calls later (fun _ _ _ => hchange _ _) ⟨hearlier, hkernels.2⟩).1

end KernelForge
