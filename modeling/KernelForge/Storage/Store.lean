import KernelForge.Storage.Matrix

/-!
# The store and matrix banks

A bank is a list of interchangeable matrices of one layout, one of which is active. Which one is part
of the store, next to memory, so that every copy of a bank sees the same choice.
-/

namespace KernelForge

/-- Memory, and the active member of every bank. -/
structure Store where
  memory : Memory
  selections : Array Nat
  deriving DecidableEq, Inhabited

/-- A request on the store. -/
abbrev StoreM := StateT Store (Except StorageError)

namespace Store

/-- The store without buffers and banks. -/
def empty : Store := ⟨.empty, #[]⟩

/-- Makes a request on memory. -/
def withMemory {α : Type} (request : MemoryM α) : StoreM α := fun ⟨memory, selections⟩ =>
  match request memory with
  | .ok (a, memory) => .ok (a, ⟨memory, selections⟩)
  | .error error => .error error

end Store

/-- Matrices of one layout that take turns. -/
structure Bank where
  first : Matrix
  others : List Matrix
  /-- Where the store keeps the number of the active member. -/
  selector : Nat
  deriving DecidableEq, Repr

namespace Bank

/-- All members, in order. -/
def members (bank : Bank) : List Matrix := bank.first :: bank.others

/-- A new bank. -/
def create (members : List Matrix) (initial : UInt64) : StoreM Bank := fun store =>
  match members with
  | [] => .error (.emptyShape "matrix bank" [0])
  | first :: others =>
      if members.length ≤ initial.toNat then .error (.outOfBounds initial members.length)
      else match members.findIdx? (·.layout ≠ first.layout) with
        | some index => .error (.bankMember index)
        | none =>
            .ok (⟨first, others, store.selections.size⟩,
              { store with selections := store.selections.push initial.toNat })

variable (bank : Bank)

/-- The number of members. -/
def size : Nat := bank.members.length

/-- The layout of all members. -/
def layout : Layout := bank.first.layout

/-- The number of the active member. -/
def selected (store : Store) : Nat := store.selections.getD bank.selector 0

/-- The active member. -/
def active (store : Store) : Matrix := bank.members.getD (bank.selected store) bank.first

/-- Makes a member the active one. -/
def select (index : UInt64) : StoreM Unit := fun store =>
  if index.toNat < bank.size then
    .ok ((), { store with
      selections := store.selections.setIfInBounds bank.selector index.toNat })
  else .error (.outOfBounds index bank.size)

/-- A member by its number. -/
def member? (index : UInt64) : Option Matrix := bank.members[index.toNat]?

end Bank

end KernelForge
