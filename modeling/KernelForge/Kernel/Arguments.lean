import KernelForge.Kernel.Error
import KernelForge.Storage.Operand
import KernelForge.Template.Contract

/-!
# Binding operands to kernels

Operands are expanded into the argument list that a kernel's contract asks for: the dimensions, then
for every declared argument the slots that its operand fills. A bank fills its slot with the address of
whichever member is active when the list is resolved.
-/

namespace KernelForge

/-- One value of an argument list. -/
inductive SlotValue where
  | scalar (value : Scalar)
  | pointer (address : UInt64)
  deriving DecidableEq

/-- The type of the slot that a value fills. -/
def SlotValue.slotType : SlotValue → SlotType
  | scalar value => .scalar value.elementType
  | pointer _ => .pointer

/-- A value of an argument list that may depend on the store. -/
inductive BoundArgument where
  | value (v : SlotValue)
  /-- The address of the active member. -/
  | bank (b : Bank)
  deriving DecidableEq

namespace BoundArgument

/-- The type of the slot that an argument fills. -/
def slotType : BoundArgument → SlotType
  | value v => v.slotType
  | bank _ => .pointer

/-- The value that an argument has at this point. -/
def resolve (store : Store) : BoundArgument → SlotValue
  | value v => v
  | bank b => .pointer (b.active store).address

/-- An address that does not depend on the store. -/
def address (a : UInt64) : BoundArgument := .value (.pointer a)

/-- A 32-bit integer, when the number is in range. -/
def int32 (what : String) (n : UInt64) : Except KernelError BoundArgument :=
  if n.toNat < twoPow 31 then .ok (.value (.scalar (.int32 (Int32.ofNat n.toNat))))
  else .error (.argumentMismatch (.tooWide what n))

/-- The slots that an operand fills, where an argument of these slots is declared. -/
def ofOperand (name : String) (operand : Operand) (slots : List SlotType) :
    Except KernelError (List BoundArgument) := do
  match operand, slots with
  | .matrix m, [.pointer] => return [address m.address]
  | .matrix m, [.pointer, _] =>
      return [address m.address, ← int32 "leadsubdim" m.layout.subLeading]
  | .bank b, [.pointer] => return [.bank b]
  | .bank b, [.pointer, _] => return [.bank b, ← int32 "leadsubdim" b.layout.subLeading]
  | .view v, [.pointer, .pointer] | .exchangeView ⟨v, _⟩, [.pointer, .pointer] =>
      return [address v.mapping.address, address v.strides.address]
  | .scalar s, [.scalar type] => return [.value (.scalar (s.cast type))]
  | .pointer a, [.pointer] => return [address a]
  | _, _ => throw (.argumentMismatch (.cannotFill operand.kind name slots))

/-- The slots of declared arguments, in order. -/
def ofDeclared (operands : Operands) :
    List (String × List SlotType) → Except KernelError (List BoundArgument)
  | [] => .ok []
  | (name, slots) :: rest => do
      match operands.get? name with
      | none => throw (.argumentMismatch (.missingOperand name))
      | some operand =>
          let own ← ofOperand name operand slots
          return own ++ (← ofDeclared operands rest)

/-- The argument list of a kernel over dimensions, for the operands of its arguments. -/
def list (dims : List UInt64) (contract : Contract) (operands : Operands) :
    Except KernelError (List BoundArgument) := do
  if dims.length ≠ contract.ndim.toNat then
    throw (.argumentMismatch (.dimensionCount dims.length contract.ndim))
  let dimArgs ← dims.mapM (int32 "dimension")
  let args := dimArgs ++ (← ofDeclared operands contract.declared)
  if args.map slotType = contract.slotTypes then return args
  throw (.argumentMismatch (.slotTypes (args.map slotType) contract.slotTypes))

end BoundArgument

end KernelForge
