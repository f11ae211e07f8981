import KernelForge.Proofs.Provider.History

/-!
# What runs launch

A kernel that a caller got resolves its arguments at every run. A run fails and changes nothing, or
is one launch. What an argument list is resolved to has the slots of the list, whichever members of
its banks are active.
-/

namespace KernelForge

/-- Two steps succeed one after the other only if both do. -/
theorem ok_of_bind {ε α β : Type} {first : Except ε α} {next : α → Except ε β} {b : β}
    (h : first >>= next = .ok b) : ∃ a, first = .ok a ∧ next a = .ok b := by
  cases first with
  | error error => cases h
  | ok a => exact ⟨a, rfl, h⟩

/-- What is not an error is a result. -/
theorem exists_of_isOk {ε α : Type} {result : Except ε α} (h : result.isOk = true) :
    ∃ a, result = .ok a := by
  cases result with
  | error error => cases h
  | ok a => exact ⟨a, rfl⟩

/-! ### Argument lists -/

namespace BoundArgument

/-- An argument has one type, whatever it is resolved to. -/
theorem slotType_resolve (store : Store) (arg : BoundArgument) :
    (arg.resolve store).slotType = arg.slotType := by
  cases arg <;> rfl

/-- An argument list keeps its slots when it is resolved. -/
theorem map_slotType_resolve (store : Store) (args : List BoundArgument) :
    (args.map (·.resolve store)).map SlotValue.slotType = args.map slotType := by
  rw [List.map_map]
  exact List.map_congr_left fun arg _ => arg.slotType_resolve store

/-- A number that is in range becomes a 32-bit integer. -/
theorem int32_eq_ok {what : String} {n : UInt64} {arg : BoundArgument}
    (h : int32 what n = .ok arg) :
    n.toNat < twoPow 31 ∧ arg = .value (.scalar (.int32 (Int32.ofNat n.toNat))) := by
  unfold int32 at h
  split at h
  · next hlt =>
    cases h
    exact ⟨hlt, rfl⟩
  · cases h

/-- A size below `2 ^ 31` is passed as an `int`. -/
theorem int32_of_lt {what : String} {n : UInt64} (h : n.toNat < twoPow 31) :
    int32 what n = .ok (.value (.scalar (.int32 (Int32.ofNat n.toNat)))) :=
  if_pos h

/-- An argument list that is accepted has the dimensions first, then what the operands fill, and its
slots are those of the contract. -/
theorem list_eq_ok {dims : List UInt64} {contract : Contract} {operands : Operands}
    {args : List BoundArgument} (h : list dims contract operands = .ok args) :
    ∃ dimArgs filled, dims.mapM (int32 "dimension") = .ok dimArgs ∧
      ofDeclared operands contract.declared = .ok filled ∧ args = dimArgs ++ filled ∧
      args.map slotType = contract.slotTypes := by
  unfold list at h
  split at h
  · cases h
  · obtain ⟨dimArgs, hdims, h⟩ := ok_of_bind h
    obtain ⟨filled, hfilled, h⟩ := ok_of_bind h
    simp only [] at h
    split at h
    · next hslots =>
      cases h
      exact ⟨dimArgs, filled, hdims, hfilled, rfl, hslots⟩
    · cases h

/-- An argument list that is accepted has the slots of the contract. -/
theorem slotTypes_of_list {dims : List UInt64} {contract : Contract} {operands : Operands}
    {args : List BoundArgument} (h : list dims contract operands = .ok args) :
    args.map slotType = contract.slotTypes := by
  obtain ⟨_, _, -, -, -, hslots⟩ := list_eq_ok h
  exact hslots

end BoundArgument

/-! ### Launches -/

/-- What a run hands to the backend. -/
structure Launch (Fn : Type) where
  function : Fn
  dims : List UInt64
  values : List SlotValue

/-- The slots of the values that are handed over. -/
def Launch.slots {Fn : Type} (launch : Launch Fn) : List SlotType :=
  launch.values.map SlotValue.slotType

variable {Fn σ : Type}

/-- What the run of a bound kernel launches. -/
def BoundKernel.launch (kernel : BoundKernel Fn) (args : List Scalar) (store : Store) :
    Except KernelError (Launch Fn) :=
  if args.isEmpty then .ok ⟨kernel.function, kernel.dims, kernel.args.map (·.resolve store)⟩
  else .error (.argumentMismatch (.unexpected "pointwise kernels take" args.length))

/-- What the run of a combination launches. -/
def CombinationKernel.launch (kernel : CombinationKernel Fn) (args : List Scalar) (store : Store) :
    Except KernelError (Launch Fn) :=
  match args with
  | weight :: weights =>
      if weights.length = kernel.terms.length then
        match BoundArgument.list [kernel.count] kernel.contract
            (kernel.operands weight weights) with
        | .error error => .error error
        | .ok bound => .ok ⟨kernel.function, [kernel.count], bound.map (·.resolve store)⟩
      else .error (.argumentMismatch (.coefficients (1 + kernel.terms.length) args.length))
  | [] => .error (.argumentMismatch (.coefficients (1 + kernel.terms.length) 0))

namespace Obtained

/-- What the run of a kernel launches. -/
def launch : Obtained Fn → List Scalar → Store → Except KernelError (Launch Fn)
  | bound kernel => kernel.launch
  | combination kernel => kernel.launch

/-- A run fails and changes nothing, or is the launch and nothing else. -/
theorem run_eq_launch (backend : Backend Fn σ) (kernel : Obtained Fn) (args : List Scalar)
    (world : World σ) :
    kernel.run backend args world = match kernel.launch args world.store with
      | .error error => (.error error, world)
      | .ok launch => backend.launch launch.function launch.dims launch.values world := by
  cases kernel with
  | bound kernel =>
    simp only [run, launch, BoundKernel.run, BoundKernel.launch]
    split
    · rfl
    · rfl
  | combination kernel =>
    cases args with
    | nil => rfl
    | cons weight weights =>
      simp only [run, launch, CombinationKernel.run, CombinationKernel.launch]
      split
      · cases
          BoundArgument.list [kernel.count] kernel.contract (kernel.operands weight weights) with
        | error error => rfl
        | ok bound => rfl
      · rfl

end Obtained

end KernelForge
