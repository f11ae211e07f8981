import KernelForge.Proofs.Storage.Buffers
import KernelForge.Storage.Operand

/-!
# Banks of matrices

All members of a bank have one layout, because a bank is only made of such matrices. What is computed
from the layout of a bank is therefore right for every member that may become the active one. Which
member that is depends on the store; whatever the store holds, it is one of the members.
-/

namespace KernelForge

namespace Bank

/-- All members have the layout of the bank. -/
def Uniform (bank : Bank) : Prop := ∀ m ∈ bank.members, m.layout = bank.layout

/-- A bank that somebody made. -/
def Made (bank : Bank) : Prop :=
  ∃ members initial store store', create members initial store = .ok (bank, store')

variable {bank : Bank} {store store' : Store}

/-- A new bank has the members that it was made of, which have one layout, and a selection of its
own. -/
theorem create_eq_ok {members : List Matrix} {initial : UInt64}
    (h : create members initial store = .ok (bank, store')) :
    bank.members = members ∧ bank.Uniform ∧ initial.toNat < bank.size ∧
      bank.selector = store.selections.size ∧
      store' = { store with selections := store.selections.push initial.toNat } := by
  unfold create at h
  split at h
  · cases h
  · next first others =>
    split at h
    · cases h
    · next hinitial =>
      split at h
      · cases h
      · next hnone =>
        cases h
        refine ⟨rfl, fun m hm => ?_, Nat.lt_of_not_le hinitial, rfl, rfl⟩
        rw [List.findIdx?_eq_none_iff] at hnone
        exact Decidable.not_not.mp (of_decide_eq_false (hnone m hm))

/-- A bank that was made has members of one layout. -/
theorem Made.uniform (h : bank.Made) : bank.Uniform := by
  obtain ⟨members, initial, store, store', hcreate⟩ := h
  exact (create_eq_ok hcreate).2.1

/-- The active member is one of the members. -/
theorem active_mem (bank : Bank) (store : Store) : bank.active store ∈ bank.members := by
  rw [active, List.getD_eq_getElem?_getD]
  cases hmember : bank.members[bank.selected store]? with
  | none => exact List.mem_cons_self
  | some m => exact List.mem_of_getElem? hmember

/-- The active member is the one that is selected. -/
theorem getElem?_selected {store : Store} (h : bank.selected store < bank.size) :
    bank.members[bank.selected store]? = some (bank.active store) := by
  have hmember : bank.members[bank.selected store]? = some bank.members[bank.selected store] :=
    List.getElem?_eq_getElem h
  rw [active, List.getD_eq_getElem?_getD, hmember]
  rfl

/-- The active member has the layout of the bank. -/
theorem Uniform.layout_active (h : bank.Uniform) (store : Store) :
    (bank.active store).layout = bank.layout :=
  h _ (bank.active_mem store)

/-- A selection that succeeds replaces the selection of the bank; it succeeds just for the numbers of
members. -/
theorem select_eq_ok {index : UInt64} : select bank index store = .ok ((), store') ↔
    index.toNat < bank.size ∧
      store' = { store with
        selections := store.selections.setIfInBounds bank.selector index.toNat } := by
  unfold select
  constructor
  · intro h
    split at h
    · next hlt =>
      cases h
      exact ⟨hlt, rfl⟩
    · cases h
  · rintro ⟨hlt, rfl⟩
    rw [if_pos hlt]

end Bank

/-! ### Operands -/

namespace Operand

/-- The matrix that a matrix or bank stands for. -/
def matrixAt (store : Store) : Operand → Option Matrix
  | matrix m => some m
  | bank b => some (b.active store)
  | view _ | exchangeView _ | scalar _ | pointer _ => none

/-- Every matrix that it can stand for owns its elements. -/
def Stored : Operand → Prop
  | matrix m => ∃ memory : Memory, memory.WellFormed ∧ m.Owned memory
  | bank b => b.Made ∧ ∀ m ∈ b.members, ∃ memory : Memory, memory.WellFormed ∧ m.Owned memory
  | view _ | exchangeView _ | scalar _ | pointer _ => True

variable {operand : Operand} {layout : Layout}

/-- An operand with a layout stands for a matrix of the layout, which owns its elements. -/
theorem Stored.exists_matrixAt (h : operand.Stored) (hlayout : operand.layout? = some layout)
    (store : Store) :
    ∃ m, operand.matrixAt store = some m ∧ m.layout = layout ∧
      ∃ memory : Memory, memory.WellFormed ∧ m.Owned memory := by
  cases operand with
  | matrix m => exact ⟨m, rfl, Option.some.inj hlayout, h⟩
  | bank b =>
    obtain ⟨hmade, howned⟩ := h
    refine ⟨b.active store, rfl, ?_, howned _ (b.active_mem store)⟩
    exact (hmade.uniform.layout_active store).trans (Option.some.inj hlayout)
  | view _ | exchangeView _ | scalar _ | pointer _ => cases hlayout

end Operand

end KernelForge
