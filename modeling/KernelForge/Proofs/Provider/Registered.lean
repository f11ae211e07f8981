import KernelForge.Proofs.Provider.Remembering

/-!
# Kernels of registered modules

A name that is registered for a module stays registered for it. A kernel that is given under the
name was built from what the module renders to, and its arguments are what the operands expand to.
-/

namespace KernelForge

variable {Fn σ : Type}

/-! ### Registered names -/

/-- A registration that succeeds binds the name of the module, and no name is bound anew. -/
theorem Provider.get?_of_register {provider provider' : Provider Fn} {module name : String}
    (h : provider.register module = .ok (name, provider')) :
    name = kernelName module ∧ provider'.registry.get? name = some module ∧
      ∀ other bound, provider.registry.get? other = some bound →
        provider'.registry.get? other = some bound := by
  simp only [Provider.register] at h
  split at h
  · next hnone =>
    cases h
    refine ⟨rfl, ?_, fun other bound hbound => ?_⟩
    · rw [NameMap.get?_insert, if_pos rfl]
    · rw [NameMap.get?_insert, if_neg]
      · exact hbound
      · rintro rfl
        rw [hnone] at hbound
        cases hbound
  · next existing hexisting =>
    split at h
    · next hsame =>
      cases h
      exact ⟨rfl, hsame ▸ hexisting, fun _ _ hbound => hbound⟩
    · cases h

/-- The registry of a session binds a name to a module. -/
def Session.Registered (s : Session Fn σ) (name module : String) : Prop :=
  s.provider.registry.get? name = some module

namespace Session

variable {s s' : Session Fn σ} {module name : String}

/-- Registering a module binds its name to it. -/
theorem registered_of_register (h : register module s = (.ok name, s')) :
    name = kernelName module ∧ s'.Registered name module := by
  unfold register at h
  split at h
  · next provider hregister =>
    cases h
    obtain ⟨hname, hbound, -⟩ := Provider.get?_of_register hregister
    exact ⟨hname, hbound⟩
  · cases h

/-- What is bound stays bound. -/
theorem Registered.keeps_register (name bound module : String) :
    Keeps (fun s : Session Fn σ => s.Registered name bound) (Session.register module)
      fun _ => True := by
  intro s hs
  refine ⟨?_, fun _ _ => trivial⟩
  unfold Session.register
  split
  · next provider hregister => exact (Provider.get?_of_register hregister).2.2 name bound hs
  · exact hs

end Session

/-- Requests for functions and launches have nothing to do with the registry. -/
theorem Backend.serves_registry (backend : Backend Fn σ) (P : NameMap String → Prop) :
    backend.Serves (fun s => P s.provider.registry) fun _ _ => True where
  function name module params := by
    refine (?_ : Keeps _ _ fun _ => True).bind fun rendered _ =>
      (?_ : Keeps _ _ fun _ => True).bind fun _ _ => Keeps.pure trivial
    · exact Session.renderSlot.keeps_request _ (fun _ h => h) (fun _ h => h) (fun _ h => h)
        (fun _ _ h _ => h) (fun _ _ _ _ => trivial)
        (Session.keeps_ofBackend (fun _ _ h => h) fun _ _ _ => trivial)
    · exact Session.buildSlot.keeps_request _ (fun _ h => h) (fun _ h => h) (fun _ h => h)
        (fun _ _ h _ => h) (fun _ _ _ _ => trivial)
        (Session.keeps_ofBackend (fun _ _ h => h) fun _ _ _ => trivial)
  launch _ := Session.keeps_ofBackend (fun _ _ h => h) fun _ _ _ => trivial

/-- A name stays registered for its module. -/
theorem Backend.preserves_registered (backend : Backend Fn σ) (name bound : String) :
    backend.Preserves (fun s => s.Registered name bound) fun _ _ => True where
  register := Session.Registered.keeps_register name bound
  function := (backend.serves_registry fun registry => registry.get? name = some bound).function
  launch := (backend.serves_registry fun registry => registry.get? name = some bound).launch

/-- A name that is registered after some calls is registered after any more calls. -/
theorem History.registered_append {backend : Backend Fn σ} {world : World σ}
    {earlier : List (Call σ)} {name bound : String}
    (h : (after backend world earlier).session.Registered name bound) (later : List (Call σ)) :
    (after backend world (earlier ++ later)).session.Registered name bound :=
  preserved_append (backend.preserves_registered name bound) (fun _ _ h => h) h later

/-! ### Kernels of a module -/

namespace History

variable {backend : Backend Fn σ} {renderer : Renderer} {world : World σ} {calls : List (Call σ)}
  {name module : String} {params : Params}

/-- A function that is given was built from an uncached rendering of its module. -/
theorem function_eq_ok {function : Fn} {contract : Contract}
    (hfunction : ((backend.rendering renderer).function name module params
      (after (backend.rendering renderer) world calls).session).1 = .ok (function, contract)) :
    ∃ rendered, renderer.renderKernel name module params = .ok rendered ∧
      contract = rendered.contract ∧
      ∃ before, (backend.build name rendered.source rendered.contract.slotTypes before).1 =
        .ok function := by
  have hsession : (observed backend renderer world calls).session.unobserved =
      (after (backend.rendering renderer) world calls).session :=
    congrArg History.session (unobserved_after world calls)
  obtain ⟨result, s', hobserved, hremembers, hanswers⟩ :=
    (remembers_observed backend renderer world calls).function name module params
  rw [← hsession, (backend.rendering renderer).follows_function] at hfunction
  obtain rfl : result = .ok (function, contract) := by
    rw [← hfunction]
    exact (congrArg Prod.fst hobserved).symm
  obtain ⟨rendered, hrender, rfl, hbuild⟩ := hanswers.of_ok
  exact ⟨rendered, hrender, rfl, hremembers.built _ _ hbuild⟩

/-- A kernel that is given was built from an uncached rendering of its module, and has the arguments
that its operands expand to. -/
theorem kernel_eq_ok {dims : List UInt64} {operands : Operands} {kernel : BoundKernel Fn}
    (hmodule : (after (backend.rendering renderer) world calls).session.Registered name module)
    (hkernel : ((backend.rendering renderer).kernel name params dims operands
      (after (backend.rendering renderer) world calls).session).1 = .ok kernel) :
    ∃ rendered, renderer.renderKernel name module params = .ok rendered ∧
      (∃ before, (backend.build name rendered.source rendered.contract.slotTypes before).1 =
        .ok kernel.function) ∧
      kernel.dims = dims ∧
      BoundArgument.list dims rendered.contract operands = .ok kernel.args := by
  have hregistry : (after (backend.rendering renderer) world calls).session.provider.registry.get?
      name = some module := hmodule
  rw [Backend.kernel_apply, hregistry] at hkernel
  obtain ⟨⟨function, contract⟩, s', hfunction, hbind⟩ := ok_of_bind_fst hkernel
  obtain ⟨rfl, hdims, hargs⟩ := Backend.bind_eq_ok hbind
  obtain ⟨rendered, hrender, rfl, hbuild⟩ := function_eq_ok (congrArg Prod.fst hfunction)
  exact ⟨rendered, hrender, hbuild, hdims, hargs⟩

end History

end KernelForge
