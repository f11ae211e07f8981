import KernelForge.Host.Backend
import KernelForge.Proofs.Provider.Failures
import KernelForge.Proofs.Provider.Following

/-!
# Work of the host

The host backend compiles, loads and calls code. All of this happens in the address space of running
code, which has the buffers of the store but not the selections of banks. Operands are seen by none of
it, so it does not fail because operands do not go together. Kernels of the host that were given for
banks therefore use at every run the members that are active then.
-/

namespace KernelForge.Host

/-- Work of the host that leaves the selections of banks alone, and blames no operands when it fails. -/
structure Apart {α : Type} (work : HostM α) : Prop where
  selections_eq : ∀ world, (work world).2.store.selections = world.store.selections
  failsOnly : FailsOnly KernelError.IsOther work

/-! ### How work is put together -/

namespace Apart

variable {α β : Type}

/-- Doing nothing is apart. -/
theorem pure (a : α) : Apart (Pure.pure a) := ⟨fun _ => rfl, .pure a⟩

/-- So is failing for another reason than operands. -/
theorem throw {error : KernelError} (h : error.IsOther) : Apart (throw error : HostM α) :=
  ⟨fun _ => rfl, .throw h⟩

/-- So is reading the world. -/
theorem get : Apart (MonadState.get : HostM (World State)) := ⟨fun _ => rfl, .get⟩

/-- Work is apart if its first part is, and the rest whatever the first part gives. -/
theorem bind {work : HostM α} {next : α → HostM β} (h : Apart work) (hnext : ∀ a, Apart (next a)) :
    Apart (work >>= next) where
  selections_eq world := by
    have hfirst := h.selections_eq world
    rcases hwork : work world with ⟨error | a, world'⟩
    · rw [hwork] at hfirst
      rw [bind_of_error hwork]
      exact hfirst
    · rw [hwork] at hfirst
      rw [bind_of_ok hwork, (hnext a).selections_eq]
      exact hfirst
  failsOnly := h.failsOnly.bind fun a => (hnext a).failsOnly

/-- Nothing comes after a failure. -/
theorem throw_bind {error : KernelError} (h : error.IsOther) (next : β → HostM α) :
    Apart (MonadExcept.throw error >>= next) :=
  ⟨fun _ => rfl, .throw_bind h next⟩

/-- A change of the world that leaves the store alone. -/
theorem modify {f : World State → World State} (h : ∀ world, (f world).store = world.store) :
    Apart (MonadState.modifyGet fun world => (PUnit.unit, f world)) :=
  ⟨fun world => congrArg Store.selections (h world), .modify f⟩

/-- A loop is apart if its steps are. -/
theorem forIn {list : List α} {step : α → β → HostM (ForInStep β)} (h : ∀ a b, Apart (step a b))
    (start : β) : Apart (ForIn.forIn list start step) := by
  induction list generalizing start with
  | nil => exact pure start
  | cons a list ih =>
    rw [List.forIn_cons]
    refine (h a start).bind fun next => ?_
    cases next with
    | done b => exact pure b
    | yield b => exact ih b

/-- Whatever runs in the address space. -/
theorem inSpace (name : String) (work : Program → Space → Except Fault (α × Space)) :
    Apart (inSpace name work) where
  selections_eq world := by
    obtain ⟨⟨memory, selections⟩, config, program, names, data, freed, threads, levels⟩ := world
    simp only [Host.inSpace]
    split <;> rfl
  failsOnly world error herror := by
    obtain ⟨⟨memory, selections⟩, config, program, names, data, freed, threads, levels⟩ := world
    simp only [Host.inSpace] at herror
    split at herror
    · cases herror
    · cases herror
      rfl

end Apart

/-! ### Compiling and calling -/

/-- Linking a module into the program. -/
theorem apart_addObject (file : ModuleFile) (hasTeams : Bool) (object : Compiler.ObjectCode) :
    Apart (addObject file hasTeams object) := by
  unfold addObject
  refine Apart.get.bind fun world => (Apart.inSpace _ _).bind fun linked => ?_
  split
  · exact .pure _
  · exact .bind (.modify fun _ => rfl) fun _ => .pure _

/-- Linking the library with source. -/
theorem apart_addStandard : Apart addStandard := by
  unfold addStandard
  refine Apart.get.bind fun world => (apart_addObject _ _ _).bind fun added => ?_
  split
  · exact Apart.get.bind fun world => .modify fun _ => rfl
  · exact .pure _

/-- Loading a module, and running what it wants to run first. -/
theorem apart_loadObject (source : String) (object : Compiler.ObjectCode) (order : Order) :
    Apart (loadObject source object order) := by
  unfold loadObject
  refine Apart.get.bind fun world => ?_
  simp only []
  split
  case' isTrue => refine apart_addStandard.bind fun _ => ?_
  all_goals
    refine Apart.get.bind fun world => (apart_addObject _ _ _).bind fun added => ?_
    split
    · split
      · exact .throw_bind rfl _
      · exact .throw_bind rfl _
    · split
      · exact .throw_bind rfl _
      · refine Apart.get.bind fun world => ?_
        refine Apart.bind (.forIn (fun name _ => ?_) _) fun _ => .pure _
        split
        · exact (Apart.inSpace _ _).bind fun _ => .pure _
        · exact .pure _

/-- Compiling source fails as tools and libraries do. -/
theorem apart_compileModule (source : String) : Apart (compileModule source) := by
  unfold compileModule
  refine Apart.get.bind fun world => ?_
  simp only []
  split
  · exact .throw rfl
  · exact .throw rfl
  · exact .throw rfl
  · exact .throw rfl
  · split
    · exact .throw rfl
    · exact .throw rfl
    · exact apart_loadObject _ _ _

/-- Finding a function only reads the program. -/
theorem apart_resolveFunction (file : ModuleFile) (name : String) (slots : List SlotType) :
    Apart (resolveFunction file name slots) := by
  unfold resolveFunction
  refine Apart.get.bind fun world => ?_
  split
  · exact .pure _
  · exact .throw rfl

/-- Calling a function on values, once these have its types. -/
theorem apart_callFunction (f : HostFunction) (args : List SlotValue) :
    Apart (callFunction f args) := by
  unfold callFunction
  simp only []
  split
  · exact .throw_bind rfl _
  · exact Apart.get.bind fun _ => .inSpace _ _

/-- Building a function from source. -/
theorem apart_build (renderer : Renderer) (name source : String) (slots : List SlotType) :
    Apart ((backend renderer).build name source slots) :=
  (apart_compileModule source).bind fun file => apart_resolveFunction file name slots

/-! ### Kernels for banks -/

/-- The host backend has nothing to do with the selections of banks. -/
theorem keepsSelections (renderer : Renderer) : (backend renderer).KeepsSelections where
  render name module params world := by
    change (renderer.renderIn name module params world).2.store.selections = _
    unfold Renderer.renderIn
    cases renderer.renderKernel name module params <;> rfl
  build name source slots := (apart_build renderer name source slots).selections_eq
  launch f _ args := (apart_callFunction f args).selections_eq

open Rotation in
/-- On the host, copies of a bank share one selection whatever turns come, and every kernel that was
given for banks calls its function on the members that were last made active. -/
theorem kernels_use_selected (renderer : Renderer) (world : World State)
    {turns : List (Turn State)} (hturns : ∀ t ∈ turns, t.KeepsSelections) :
    let r := after (backend renderer) world turns
    let last := fun origin =>
      (activations (backend renderer) (start world) origin turns).getLast?
    r.Shared (backend renderer) last ∧
      ∀ earlier request later kernel, turns = earlier ++ .call (Request.call request) :: later →
        (∀ b, request.Uses b →
          ∃ handle ∈ (after (backend renderer) world earlier).handles, handle.bank = b) →
        (request.work (backend renderer)
          (after (backend renderer) world earlier).history.session).1 = .ok kernel →
        r.Follows (backend renderer) last request kernel := by
  refine ⟨shared_after (keepsSelections renderer) world hturns, ?_⟩
  rintro earlier request later kernel rfl hbanks hkernel
  exact follows_after (keepsSelections renderer) world hturns hbanks hkernel

end KernelForge.Host
