import KernelForge.Proofs.Provider.Keeps

/-!
# How work fails

Work is put together of parts, and fails with an error of one of them. A request for operands that do
not go together is refused by its first part, a check that changes nothing; no other part fails with an
error of that kind. So the request is refused if and only if the check fails, and then nothing has
happened.
-/

namespace KernelForge

/-- Whether an error says that operands do not go together. -/
def KernelError.isRejection : KernelError → Bool
  | incompatibleTraits _ | incompatibleShape _ => true
  | _ => false

/-- An error that says that operands do not go together. -/
abbrev KernelError.Rejects (error : KernelError) : Prop := error.isRejection = true

/-- An error that does not say so. -/
abbrev KernelError.IsOther (error : KernelError) : Prop := error.isRejection = false

/-- An error that says that layouts or element types do not go together. -/
def KernelError.OfTraits (error : KernelError) : Prop := ∃ fault, error = .incompatibleTraits fault

/-- An error that says that arguments do not fit a kernel. -/
def KernelError.OfArguments (error : KernelError) : Prop := ∃ fault, error = .argumentMismatch fault

/-- Layouts and types that do not go together are one way in which operands do not. -/
theorem KernelError.OfTraits.isRejection {error : KernelError} (h : error.OfTraits) :
    error.isRejection = true := by
  obtain ⟨fault, rfl⟩ := h
  rfl

/-- Arguments that do not fit are not the fault of the operands. -/
theorem KernelError.OfArguments.isOther {error : KernelError} (h : error.OfArguments) :
    error.IsOther := by
  obtain ⟨fault, rfl⟩ := h
  rfl

variable {S α β : Type} {kind : KernelError → Prop}

/-! ### Checks -/

/-- A check that fails only with errors of a kind. -/
def Refuses (kind : KernelError → Prop) (check : Except KernelError α) : Prop :=
  ∀ error, check = .error error → kind error

namespace Refuses

/-- An error of a kind is one of every wider kind. -/
theorem mono {kind' : KernelError → Prop} {check : Except KernelError α} (h : Refuses kind check)
    (himp : ∀ error, kind error → kind' error) : Refuses kind' check :=
  fun error heq => himp error (h error heq)

/-- A check that succeeds does not fail. -/
theorem ok (a : α) : Refuses kind (.ok a) := nofun

/-- A check that fails, fails with its error. -/
theorem error {error : KernelError} (h : kind error) :
    Refuses kind (.error error : Except KernelError α) := by
  intro error' heq
  cases heq
  exact h

/-- Nothing comes after a failure. -/
theorem throw_bind {error : KernelError} (h : kind error) (next : β → Except KernelError α) :
    Refuses kind (throw error >>= next) := Refuses.error h

/-- Two checks fail only as one of them does. -/
theorem bind {check : Except KernelError α} {next : α → Except KernelError β}
    (h : Refuses kind check) (hnext : ∀ a, Refuses kind (next a)) : Refuses kind (check >>= next) := by
  intro error heq
  cases check with
  | error failure =>
    cases heq
    exact h error rfl
  | ok a => exact hnext a error heq

/-- A check of every member of a list fails only as that of a member. -/
theorem forM {list : List α} {work : α → Except KernelError Unit}
    (h : ∀ a, Refuses kind (work a)) : Refuses kind (list.forM work) := by
  induction list with
  | nil => exact ok ()
  | cons a rest ih => exact (h a).bind fun _ => ih

/-- So does one that collects results. -/
theorem mapM {list : List α} {work : α → Except KernelError β} (h : ∀ a, Refuses kind (work a)) :
    Refuses kind (list.mapM work) := by
  induction list with
  | nil => exact ok []
  | cons a rest ih =>
    rw [List.mapM_cons]
    exact (h a).bind fun _ => ih.bind fun _ => ok _

end Refuses

/-! ### Work -/

/-- Work that fails only with errors of a kind. -/
def FailsOnly (kind : KernelError → Prop) (work : ExceptT KernelError (StateM S) α) : Prop :=
  ∀ s error, (work s).1 = .error error → kind error

namespace FailsOnly

variable {work : ExceptT KernelError (StateM S) α}

/-- An error of a kind is one of every wider kind. -/
theorem mono {kind' : KernelError → Prop} (h : FailsOnly kind work)
    (himp : ∀ error, kind error → kind' error) : FailsOnly kind' work :=
  fun s error herror => himp error (h s error herror)

/-- Doing nothing does not fail. -/
theorem pure (a : α) : FailsOnly kind (Pure.pure a : ExceptT KernelError (StateM S) α) := nofun

/-- A failure is one of its error. -/
theorem throw {error : KernelError} (h : kind error) :
    FailsOnly kind (throw error : ExceptT KernelError (StateM S) α) := by
  intro s error' heq
  cases heq
  exact h

/-- Reading the state does not fail. -/
theorem get : FailsOnly kind (MonadState.get : ExceptT KernelError (StateM S) S) := nofun

/-- Neither does changing it. -/
theorem modify (f : S → S) : FailsOnly kind
    (MonadState.modifyGet fun s => (PUnit.unit, f s) : ExceptT KernelError (StateM S) PUnit) := nofun

/-- Work in two parts fails only as one of them does. -/
theorem bind {next : α → ExceptT KernelError (StateM S) β} (h : FailsOnly kind work)
    (hnext : ∀ a, FailsOnly kind (next a)) : FailsOnly kind (work >>= next) := by
  intro s error heq
  rcases hwork : work s with ⟨failure | a, s'⟩
  · rw [bind_of_error hwork] at heq
    cases heq
    exact h s error (congrArg Prod.fst hwork)
  · rw [bind_of_ok hwork] at heq
    exact hnext a s' error heq

/-- Nothing comes after a failure. -/
theorem throw_bind {error : KernelError} (h : kind error)
    (next : β → ExceptT KernelError (StateM S) α) :
    FailsOnly kind (MonadExcept.throw error >>= next) := by
  intro s failure heq
  cases heq
  exact h

end FailsOnly

/-- A request to a cache fails as its builder does, or because its key is being built. -/
theorem CacheSlot.failsOnly_request {K V : Type} [DecidableEq K] (slot : CacheSlot S K V) (key : K)
    {build : ExceptT KernelError (StateM S) V} (hmarked : ∀ name, kind (.reentrantBuild name))
    (hbuild : FailsOnly kind build) : FailsOnly kind (slot.request key build) := by
  intro s error herror
  cases hvalue : (slot.get s).get? key with
  | some value =>
    rw [slot.request_of_hit hvalue] at herror
    cases herror
  | none =>
    by_cases hkey : key ∈ (slot.get s).marked
    · rw [slot.request_of_marked hvalue hkey] at herror
      cases herror
      exact hmarked _
    · rw [slot.request_of_absent hvalue hkey] at herror
      exact hbuild _ error herror

namespace Session

variable {Fn σ : Type}

/-- Work of the backend fails in a session as it does by itself. -/
theorem failsOnly_ofBackend {work : BackendM σ α} (h : FailsOnly kind work) :
    FailsOnly kind (ofBackend work : SessionM Fn σ α) := by
  intro s error herror
  rw [ofBackend_apply] at herror
  exact h s.world error herror

/-- So does a check. -/
theorem failsOnly_ofExcept {check : Except KernelError α} (h : Refuses kind check) :
    FailsOnly kind (ofExcept check : SessionM Fn σ α) := fun _ error herror => h error herror

/-! ### Checks before work -/

/-- Work that is refused with errors of a kind if something is unfit, and only then. Nothing of a state
has changed when it is refused. -/
structure RefusedIf (work : SessionM Fn σ α) (kind : KernelError → Prop) (unfit : Prop) : Prop where
  iff : ∀ s, (∃ error, kind error ∧ (work s).1 = .error error) ↔ unfit
  unchanged : ∀ s error, kind error → (work s).1 = .error error → work s = (.error error, s)

/-- What is refused by a check that work begins with, if no other part of the work fails with an error
of that kind. -/
theorem RefusedIf.of_check {check : Except KernelError α} {next : α → SessionM Fn σ β} {unfit : Prop}
    (hcheck : Refuses kind check) (hunfit : (∃ error, check = .error error) ↔ unfit)
    (hnext : ∀ a, FailsOnly (fun error => ¬kind error) (next a)) :
    RefusedIf (ofExcept check >>= next) kind unfit := by
  have hfails (s : Session Fn σ) (error : KernelError) (hkind : kind error)
      (herror : ((ofExcept check >>= next) s).1 = .error error) : check = .error error := by
    cases hresult : check with
    | error failure =>
      rw [hresult] at herror
      cases herror
      rfl
    | ok a =>
      rw [hresult] at herror
      exact absurd hkind (hnext a s error herror)
  have hrefused (s : Session Fn σ) {error : KernelError} (herror : check = .error error) :
      (ofExcept check >>= next) s = (.error error, s) := by
    rw [herror]
    rfl
  constructor
  · intro s
    rw [← hunfit]
    constructor
    · rintro ⟨error, hkind, herror⟩
      exact ⟨error, hfails s error hkind herror⟩
    · rintro ⟨error, herror⟩
      exact ⟨error, hcheck error herror, congrArg Prod.fst (hrefused s herror)⟩
  · intro s error hkind herror
    exact hrefused s (hfails s error hkind herror)

end Session

end KernelForge
