import KernelForge.Host.Backend
import KernelForge.Proofs.Provider.Preserves

/-!
# Launches have the slots of their functions

A function is remembered under the slots that it was built for, and an argument list is only
accepted with the slots of the contract. What a list is resolved to has the same slots, whichever
members of its banks are active. So every kernel that a caller ever gets is launched on values of
the slots that its function was built for.
-/

namespace KernelForge

variable {Fn σ : Type}

/-! ### Functions and the slots that they were built for -/

/-- Whether a backend gave a function when it built a source for slots. -/
def Backend.Built (backend : Backend Fn σ) (function : Fn) (slots : List SlotType) : Prop :=
  ∃ name source world, (backend.build name source slots world).1 = .ok function

/-- Every function that a session remembers was built for the slots that it is remembered under. -/
def Session.Sound (backend : Backend Fn σ) (s : Session Fn σ) : Prop :=
  ∀ key function, s.provider.builds.get? key = some function → backend.Built function key.slots

/-- The function of a kernel was built for the slots of the kernel. -/
def Obtained.Sound (backend : Backend Fn σ) : Obtained Fn → Prop
  | bound kernel => backend.Built kernel.function (kernel.args.map BoundArgument.slotType)
  | combination kernel => backend.Built kernel.function kernel.contract.slotTypes

/-- A kernel whose function was built for its slots is launched on values of the slots. -/
theorem Obtained.Sound.launch_slots {backend : Backend Fn σ} {kernel : Obtained Fn}
    (h : kernel.Sound backend) {args : List Scalar} {store : Store} {launch : Launch Fn}
    (hlaunch : kernel.launch args store = .ok launch) :
    backend.Built launch.function launch.slots := by
  cases kernel with
  | bound kernel =>
    simp only [Obtained.launch, BoundKernel.launch] at hlaunch
    split at hlaunch
    · cases hlaunch
      rw [Launch.slots, BoundArgument.map_slotType_resolve]
      exact h
    · cases hlaunch
  | combination kernel =>
    simp only [Obtained.launch, CombinationKernel.launch] at hlaunch
    split at hlaunch
    · split at hlaunch
      · split at hlaunch
        · cases hlaunch
        · next bound hbound =>
          cases hlaunch
          rw [Launch.slots, BoundArgument.map_slotType_resolve,
            BoundArgument.slotTypes_of_list hbound]
          exact h
      · cases hlaunch
    · cases hlaunch

namespace Backend

variable (backend : Backend Fn σ)

/-- Rendering through the cache leaves the functions alone. -/
theorem keeps_render (key : RenderKey) (work : BackendM σ RenderedKernel) :
    Keeps (Session.Sound backend) (Session.renderSlot.request key (Session.ofBackend work))
      fun _ => True := by
  refine Session.renderSlot.keeps_request key (fun _ h => h) (fun _ h => h) (fun _ h => h)
    (fun _ _ h _ => h) (fun _ _ _ _ => trivial) ?_
  exact Session.keeps_ofBackend (fun _ _ h => h) fun _ _ _ => trivial

/-- Building through the cache gives a function of the slots of the key. -/
theorem keeps_build (key : BuildKey) :
    Keeps (Session.Sound backend)
      (Session.buildSlot.request key
        (Session.ofBackend (backend.build key.name key.source key.slots)))
      (backend.Built · key.slots) := by
  refine Session.buildSlot.keeps_request key (fun _ h => h) (fun _ h => h) (fun _ h => h)
    (fun s v h hv => ?_) (fun s v h hv => h key v hv) ?_
  · intro other function hfunction
    change ((key, v) :: s.provider.builds.entries).lookup other = some function at hfunction
    by_cases hother : other = key
    · rw [hother, List.lookup_cons_self] at hfunction
      cases hfunction
      exact hother ▸ hv
    · rw [List.lookup_cons, beq_false_of_ne hother] at hfunction
      exact h other function hfunction
  · exact Session.keeps_ofBackend (fun _ _ h => h)
      fun world function hfunction => ⟨key.name, key.source, world, hfunction⟩

/-- The function of a kernel was built for the slots of the contract that comes with it. -/
theorem keeps_function (name module : String) (params : Params) :
    Keeps (Session.Sound backend) (backend.function name module params)
      fun result => backend.Built result.1 result.2.slotTypes := by
  refine (backend.keeps_render _ _).bind fun rendered _ => ?_
  exact (backend.keeps_build ⟨name, rendered.source, rendered.contract.slotTypes⟩).bind
    fun function hfunction => Keeps.pure hfunction

/-- What requests keep and give. -/
theorem preserves_sound :
    backend.Preserves (Session.Sound backend) fun function contract =>
      backend.Built function contract.slotTypes where
  register _ := Session.keeps_register fun _ _ h => h
  function := backend.keeps_function
  launch _ := Session.keeps_ofBackend (fun _ _ h => h) fun _ _ _ => trivial

end Backend

/-- Binding gives a kernel whose slots are those of the contract. -/
theorem Obtained.From.sound {backend : Backend Fn σ} {kernel : Obtained Fn}
    (h : kernel.From fun function contract => backend.Built function contract.slotTypes) :
    kernel.Sound backend := by
  cases kernel with
  | bound kernel =>
    obtain ⟨contract, operands, hbuilt, hargs⟩ := h
    rw [← BoundArgument.slotTypes_of_list hargs] at hbuilt
    exact hbuilt
  | combination kernel => exact h

/-! ### Histories -/

/-- After any calls, every kernel that somebody got is sound. -/
theorem History.sound_after (backend : Backend Fn σ) (world : World σ) (calls : List (Call σ)) :
    ∀ kernel ∈ (after backend world calls).kernels, kernel.Sound backend := by
  have hstart : Session.Sound backend ⟨world, .empty⟩ := fun _ _ h => by cases h
  have hkept := backend.preserves_sound.after hstart calls fun _ _ _ h => h
  exact fun kernel hkernel => (hkept.2 kernel hkernel).sound

/-! ### The host -/

namespace Host

open Compiler

/-- A function that is found in a module has the slots that were asked for. -/
theorem slots_of_resolve {file : ModuleFile} {name : String} {slots : List SlotType}
    {world : World State} {function : HostFunction}
    (h : (resolveFunction file name slots world).1 = .ok function) : function.slots = slots := by
  have hget : (get : HostM (World State)) world = (.ok world, world) := rfl
  simp only [resolveFunction, bind_apply, hget] at h
  split at h
  · cases h
    rfl
  · cases h

/-- Functions of the host carry the slots that they were built for. -/
theorem slots_of_built {renderer : Renderer} {function : HostFunction} {slots : List SlotType}
    (h : (backend renderer).Built function slots) : function.slots = slots := by
  obtain ⟨name, source, world, hbuild⟩ := h
  simp only [backend, bind_apply] at hbuild
  split at hbuild
  · exact slots_of_resolve hbuild
  · cases hbuild

/-- Work in the address space of running code only fails because the code crashes. -/
theorem inSpace_error {α : Type} {name : String}
    {work : Program → Space → Except Fault (α × Space)} {world : World State}
    {error : KernelError} (h : (inSpace name work world).1 = .error error) :
    error = .crashed name := by
  unfold inSpace at h
  split at h
  split at h
  · nomatch h
  · injection h with h
    exact h.symm

/-- A call on values of the slots of the function does not find a mismatch. -/
theorem callFunction_ne_mismatch {function : HostFunction} {values : List SlotValue}
    (h : function.slots = values.map SlotValue.slotType) (world : World State) (name : String)
    (slots given : List SlotType) :
    (callFunction function values world).1 ≠
      .error (.argumentMismatch (.functionSlots name slots given)) := by
  intro herror
  have hget : (get : HostM (World State)) world = (.ok world, world) := rfl
  simp only [callFunction, h, ne_eq, not_true_eq_false, if_false, bind_apply, hget] at herror
  cases inSpace_error herror

end Host

/-- After any calls on a provider over any backend, a run of a kernel that somebody got fails and
changes nothing, or is a launch on values of slots that the function was built for, and nothing
else. On the host, the function therefore never finds a mismatch. -/
theorem History.launches_fit_functions :
    (∀ {Fn σ : Type} (backend : Backend Fn σ) (world : World σ) (calls : List (Call σ)),
      ∀ kernel ∈ (after backend world calls).kernels, ∀ args w,
        match kernel.launch args w.store with
        | .error error => kernel.run backend args w = (.error error, w)
        | .ok launch =>
            kernel.run backend args w =
                backend.launch launch.function launch.dims launch.values w ∧
              backend.Built launch.function launch.slots) ∧
    ∀ (renderer : Renderer) (world : World Host.State) (calls : List (Call Host.State)),
      ∀ kernel ∈ (after (Host.backend renderer) world calls).kernels, ∀ args w launch,
        kernel.launch args w.store = .ok launch →
          launch.function.slots = launch.slots ∧ ∀ name slots given,
            (kernel.run (Host.backend renderer) args w).1 ≠
              .error (.argumentMismatch (.functionSlots name slots given)) := by
  refine ⟨fun backend world calls kernel hkernel args w => ?_,
    fun renderer world calls kernel hkernel args w launch hlaunch => ?_⟩
  · have hsound := sound_after backend world calls kernel hkernel
    have hrun := kernel.run_eq_launch backend args w
    cases hlaunch : kernel.launch args w.store with
    | error error =>
      rw [hlaunch] at hrun
      exact hrun
    | ok launch =>
      rw [hlaunch] at hrun
      exact ⟨hrun, hsound.launch_slots hlaunch⟩
  · have hsound := sound_after (Host.backend renderer) world calls kernel hkernel
    have hslots := Host.slots_of_built (hsound.launch_slots hlaunch)
    refine ⟨hslots, fun name slots given => ?_⟩
    rw [kernel.run_eq_launch, hlaunch]
    exact Host.callFunction_ne_mismatch hslots w name slots given

/-- A backend whose functions are the slots that they were built for. -/
def slotBackend : Backend (List SlotType) Unit where
  render name _ _ := pure ⟨name, .ofArguments 1 [⟨"p", .input, .pointer⟩]⟩
  build _ _ slots := pure slots
  launch _ _ _ := pure ()

/-- A module is registered, and a kernel of it is got over four elements. -/
def pointerCalls : List (Call Unit) :=
  [.register "fill.zero", .kernel "zero" .empty [4] (NameMap.empty.insert "p" (.pointer 64))]

/-- The kernel that was got launches a function on values of the slots of the function. -/
theorem pointerCalls_launch_fits :
    ∃ kernel ∈ (History.after slotBackend ⟨.empty, ()⟩ pointerCalls).kernels, ∃ launch,
      kernel.launch [] .empty = .ok launch ∧ slotBackend.Built launch.function launch.slots := by
  have hkernel : .bound ⟨[4], [.scalar .int32, .pointer],
      [.value (.scalar (.int32 4)), .value (.pointer 64)]⟩ ∈
      (History.after slotBackend ⟨.empty, ()⟩ pointerCalls).kernels :=
    List.mem_of_getElem? (i := 0) rfl
  have hfits := History.launches_fit_functions.1 slotBackend _ _ _ hkernel [] ⟨.empty, ()⟩
  exact ⟨_, hkernel, _, rfl, hfits.2⟩

end KernelForge
