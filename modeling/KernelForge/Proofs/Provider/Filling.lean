import KernelForge.Proofs.Entry.Parameters
import KernelForge.Proofs.Provider.Runs

/-!
# What operands fill

The operands of a kernel fill the slots of its declared arguments one after the other. Operands that
fill them with the right types make an argument list, unless a dimension is too wide for an `int`.
-/

namespace KernelForge

/-- A list of what there is for every entry of a list. -/
theorem exists_forall₂ {α β : Type} {r : α → β → Prop} {p : β → Prop} {list : List α}
    (h : ∀ a ∈ list, ∃ b, r a b ∧ p b) : ∃ bs, List.Forall₂ r list bs ∧ ∀ b ∈ bs, p b := by
  induction list with
  | nil => exact ⟨[], .nil, fun b hb => absurd hb List.not_mem_nil⟩
  | cons a list ih =>
    obtain ⟨b, hr, hp⟩ := h a List.mem_cons_self
    obtain ⟨bs, hrs, hps⟩ := ih fun other hother => h other (List.mem_cons_of_mem _ hother)
    exact ⟨b :: bs, .cons hr hrs, List.forall_mem_cons.mpr ⟨hp, hps⟩⟩

/-- Every entry has its own in a list that goes with it. -/
theorem exists_of_forall₂ {α β : Type} {r : α → β → Prop} {list : List α} {bs : List β}
    (h : List.Forall₂ r list bs) : ∀ a ∈ list, ∃ b, r a b := by
  induction h with
  | nil => nofun
  | cons hr _ ih => exact List.forall_mem_cons.mpr ⟨⟨_, hr⟩, ih⟩

/-- There is a name for every dimension. -/
theorem length_dimNames {ndim : UInt64} (h : ndim ≤ 2) : (dimNames ndim).length = ndim.toNat := by
  obtain rfl | rfl | rfl : ndim = 0 ∨ ndim = 1 ∨ ndim = 2 := by
    rw [UInt64.le_iff_toNat_le] at h
    simp only [← UInt64.toNat_inj]
    have htwo : (2 : UInt64).toNat = 2 := rfl
    have hone : (1 : UInt64).toNat = 1 := rfl
    have hzero : (0 : UInt64).toNat = 0 := rfl
    omega
  all_goals rfl

/-- The declared arguments of a kernel with their slots. -/
theorem Contract.declared_ofArguments {ndim : UInt64} (h : ndim ≤ 2) (args : List Argument) :
    (Contract.ofArguments ndim args).declared = args.map fun arg => (arg.name, arg.slots) := by
  have hlength' : (dimNames ndim).length =
      ((dimNames ndim).map fun _ => [SlotType.scalar .int32]).length := by rw [List.length_map]
  have hpairs : (args.map Argument.name).zip (args.map Argument.slots) =
      args.map fun arg => (arg.name, arg.slots) := List.zip_map'
  have hdims : ((dimNames ndim).zip ((dimNames ndim).map fun _ => [SlotType.scalar .int32])).length =
      ndim.toNat := by
    rw [List.length_zip, List.length_map, Nat.min_self, length_dimNames h]
  rw [declared]
  simp only [ofArguments]
  rw [List.zip_append hlength', List.drop_left' hdims, hpairs]

/-- A dimension, as kernels get it. -/
def SlotValue.ofCount (n : UInt64) : SlotValue := .scalar (.int32 (Int32.ofNat n.toNat))

namespace BoundArgument

/-- Dimensions are accepted if an `int` holds each of them, and are then values of their own. -/
theorem mapM_int32_eq_ok_iff {what : String} {dims : List UInt64} {args : List BoundArgument} :
    dims.mapM (int32 what) = .ok args ↔
      (∀ n ∈ dims, n.toNat < twoPow 31) ∧ args = dims.map fun n => .value (.ofCount n) := by
  induction dims generalizing args with
  | nil => exact ⟨fun h => ⟨nofun, (Except.ok.inj h).symm⟩, fun h => congrArg Except.ok h.2.symm⟩
  | cons n dims ih =>
    rw [List.mapM_cons, List.forall_mem_cons]
    constructor
    · intro h
      obtain ⟨first, hfirst, h⟩ := ok_of_bind h
      obtain ⟨rest, hrest, h⟩ := ok_of_bind h
      obtain ⟨hlt, rfl⟩ := int32_eq_ok hfirst
      obtain ⟨hlts, rfl⟩ := ih.mp hrest
      exact ⟨⟨hlt, hlts⟩, (Except.ok.inj h).symm⟩
    · rintro ⟨⟨hlt, hlts⟩, rfl⟩
      rw [int32_of_lt hlt, ih.mpr ⟨hlts, rfl⟩]
      rfl

variable {operands : Operands}

/-- An operand fills the slots of a declared argument. -/
def Fills (operands : Operands) (declared : String × List SlotType) (own : List BoundArgument) :
    Prop :=
  ∃ operand, operands.get? declared.1 = some operand ∧
    ofOperand declared.1 operand declared.2 = .ok own

/-- An operand fills as many slots as are declared. -/
theorem length_ofOperand {name : String} {operand : Operand} {slots : List SlotType}
    (h : ofOperand name operand slots = .ok own) : own.length = slots.length := by
  unfold ofOperand at h
  split at h
  case h_2 =>
    obtain ⟨sub, -, h⟩ := ok_of_bind h
    cases h
    rfl
  case h_4 =>
    obtain ⟨sub, -, h⟩ := ok_of_bind h
    cases h
    rfl
  case h_9 => cases h
  all_goals
    cases h
    rfl

/-- Declared arguments are filled one after the other. -/
theorem ofDeclared_eq_ok_iff {declared : List (String × List SlotType)}
    {args : List BoundArgument} : ofDeclared operands declared = .ok args ↔
      ∃ filled, List.Forall₂ (Fills operands) declared filled ∧ args = filled.flatten := by
  induction declared generalizing args with
  | nil =>
    constructor
    · intro h
      cases h
      exact ⟨[], .nil, rfl⟩
    · rintro ⟨filled, hfilled, rfl⟩
      cases hfilled
      rfl
  | cons first rest ih =>
    obtain ⟨name, slots⟩ := first
    constructor
    · intro h
      unfold ofDeclared at h
      split at h
      · cases h
      · next operand hoperand =>
        obtain ⟨own, hown, h⟩ := ok_of_bind h
        obtain ⟨others, hothers, h⟩ := ok_of_bind h
        cases h
        obtain ⟨filled, hfilled, rfl⟩ := ih.mp hothers
        exact ⟨own :: filled, .cons ⟨operand, hoperand, hown⟩ hfilled, rfl⟩
    · rintro ⟨filled, hfilled, rfl⟩
      cases hfilled with
      | @cons _ own _ filled hown hrest =>
        obtain ⟨operand, hoperand, hown⟩ := hown
        have hothers := ih.mpr ⟨filled, hrest, rfl⟩
        simp only [] at hoperand hown
        rw [ofDeclared, hoperand]
        change (ofOperand name operand slots >>= fun own =>
          ofDeclared operands rest >>= fun others => Except.ok (own ++ others)) = _
        rw [hown, hothers]
        rfl

/-- An argument list, in terms of what the operands fill. -/
theorem list_eq_ok_iff {dims : List UInt64} {contract : Contract} {bound : List BoundArgument} :
    list dims contract operands = .ok bound ↔
      dims.length = contract.ndim.toNat ∧ (∀ n ∈ dims, n.toNat < twoPow 31) ∧
        ∃ filled, ofDeclared operands contract.declared = .ok filled ∧
          bound = (dims.map fun n => .value (.ofCount n)) ++ filled ∧
          bound.map slotType = contract.slotTypes := by
  constructor
  · intro h
    obtain ⟨dimArgs, filled, hdims, hfilled, hbound, htypes⟩ := list_eq_ok h
    obtain ⟨hlt, rfl⟩ := mapM_int32_eq_ok_iff.mp hdims
    refine ⟨?_, hlt, filled, hfilled, hbound, htypes⟩
    by_contra hne
    rw [list, if_pos hne] at h
    cases h
  · rintro ⟨hlength, hlt, filled, hfilled, rfl, htypes⟩
    have hdims : dims.mapM (int32 "dimension") = .ok (dims.map fun n => .value (.ofCount n)) :=
      mapM_int32_eq_ok_iff.mpr ⟨hlt, rfl⟩
    rw [list, if_neg (not_not_intro hlength)]
    change (dims.mapM (int32 "dimension") >>= fun dimArgs =>
      ofDeclared operands contract.declared >>= fun filled => _) = _
    rw [hdims, hfilled]
    exact if_pos htypes

/-- Over one dimension, an argument list is the size of the dimension and what the operands fill; it
is refused for a size that an `int` cannot hold. -/
theorem list_one {args : List Argument} {filled : List BoundArgument} (n : UInt64)
    (h : List.Forall₂ (Fills operands) (args.map fun arg => (arg.name, arg.slots))
      (filled.map fun arg => [arg]))
    (htypes : filled.map slotType = args.flatMap Argument.slots) :
    list [n] (.ofArguments 1 args) operands =
      if n.toNat < twoPow 31 then
        .ok (.value (.scalar (.int32 (Int32.ofNat n.toNat))) :: filled)
      else .error (.argumentMismatch (.tooWide "dimension" n)) := by
  have hfilled : ofDeclared operands (Contract.ofArguments 1 args).declared = .ok filled := by
    rw [Contract.declared_ofArguments (by decide)]
    refine ofDeclared_eq_ok_iff.mpr ⟨_, h, ?_⟩
    rw [← List.flatMap_def, List.flatMap_singleton']
  have hslots : (BoundArgument.value (.scalar (.int32 (Int32.ofNat n.toNat))) :: filled).map
      slotType = (Contract.ofArguments 1 args).slotTypes := by
    rw [Contract.slotTypes_ofArguments, List.map_cons, htypes]
    rfl
  by_cases hlt : n.toNat < twoPow 31
  · rw [if_pos hlt]
    exact list_eq_ok_iff.mpr ⟨rfl, by simpa using hlt, filled, hfilled, rfl, hslots⟩
  · have hndim : ¬[n].length ≠ (Contract.ofArguments 1 args).ndim.toNat := not_not_intro rfl
    have hdims : [n].mapM (int32 "dimension") =
        .error (.argumentMismatch (.tooWide "dimension" n)) := by
      simp only [List.mapM_cons, List.mapM_nil, int32, if_neg hlt]
      rfl
    rw [if_neg hlt, list, if_neg hndim, hdims]
    rfl

end BoundArgument

end KernelForge
