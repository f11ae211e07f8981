import KernelForge.Proofs.Packing.Restoring
import KernelForge.Proofs.Product.Reference
import KernelForge.Proofs.Product.Requests
import KernelForge.Proofs.Storage.Entries

/-!
# Shared and direct products

A library that works on one thread is called once for every thread of a team, each time for a block
of columns; any other library is called once for all columns. Both leave the same memory: blocks of
columns have no element in common, no block is computed from an element of another one, and neither
way touches the padding between rows.
-/

namespace KernelForge

open Code

namespace Matrix

variable (m : Matrix)

/-- A later memory in which elements of a matrix may have changed. The padding after the elements of
its rows is as it was, and so is everything else. -/
structure OnlyElements (before after : Memory) : Prop where
  padding : ∀ i j : Nat, m.layout.columns.toNat ≤ j → j < m.layout.leading.toNat →
    after.peek (m.entryAddress i j) m.elementType.bytes =
      before.peek (m.entryAddress i j) m.elementType.bytes
  outside : ∀ address length, (∀ i < m.layout.rows.toNat, ∀ j < m.layout.columns.toNat,
    Apart address length (m.entryAddress i j) m.elementType.bytes) →
      after.peek address length = before.peek address length

end Matrix

namespace Product

variable {Fn σ : Type} {backend : Backend Fn σ} {renderer : Renderer} {world : World σ}
  {calls : List (Call σ)} {routines : Host.Routines} {a b out : Matrix} {alpha beta : Binary64}
  {kernel : BoundKernel Fn}

/-- What is computed of accepted operands are elements of the result. -/
theorem Accepted.onlyElements (h : Accepted a b out) {rule : ElementRule} {memory memory' : Memory}
    (hcomputes : (ProductCall.ofOperands a b out alpha beta).Computes a.elementType.bytes rule
      (List.range b.layout.columns.toNat) memory memory') : out.OnlyElements memory memory' := by
  have houtside : ∀ address length, (∀ i < out.layout.rows.toNat, ∀ j < out.layout.columns.toNat,
      Apart address length (out.entryAddress i j) out.elementType.bytes) →
        memory'.peek address length = memory.peek address length := by
    intro address length hapart
    refine hcomputes.rest address length fun i hi j hj => ?_
    have hrow : i < out.layout.rows.toNat := h.rows_eq ▸ hi
    have hcolumn : j < out.layout.columns.toNat := h.columns_eq ▸ List.mem_range.mp hj
    rw [← h.types.2]
    exact hapart i hrow j hcolumn
  refine ⟨fun i j hle hlt => houtside _ _ fun i' _ j' hj' => ?_, houtside⟩
  have hlt' : j' < out.layout.leading.toNat :=
    Nat.lt_of_lt_of_le hj' out.layout.accepted.columns_le
  refine apart_elements fun heq => ?_
  have hmod := (ViewElement.div_mod_mul_add (a := i) hlt).2
  rw [heq, (ViewElement.div_mod_mul_add hlt').2] at hmod
  omega

/-- The left operand of a product of five columns. -/
def wideLeft : Matrix :=
  ⟨⟨0, 0x55813e400000, 48⟩, ⟨.float64, 2, 3, 3, 3, .dense, by decide, (by decide : 48 < twoPow 64)⟩⟩

/-- The right one, whose rows are padded. -/
def wideRight : Matrix :=
  ⟨⟨1, 0x55813e400040, 144⟩, ⟨.float64, 3, 5, 6, 6, .dense, by decide, by decide⟩⟩

/-- The result, whose rows are padded, too. -/
def wideResult : Matrix :=
  ⟨⟨2, 0x55813e400100, 112⟩, ⟨.float64, 2, 5, 7, 7, .dense, by decide, by decide⟩⟩

/-- Memory that holds the operands and nothing else. All are zero. -/
def wideZeros : Memory :=
  ⟨#[⟨0x55813e400000, 48, #[]⟩, ⟨0x55813e400040, 144, #[]⟩, ⟨0x55813e400100, 112, #[]⟩],
    0x55813e400170⟩

/-- Memory in which every operand is the numbers from one on, padding included. -/
def wideMemory : Memory :=
  let numbers (count : Nat) : List UInt8 :=
    (List.range count).flatMap fun n => ElementType.float64.encode (.ofInt (n + 1))
  ((wideZeros.modifyBuffer 0 (·.write 0 (numbers 6))).modifyBuffer 1
    (·.write 0 (numbers 18))).modifyBuffer 2 (·.write 0 (numbers 14))

/-- The buffers of the factors and the result do not overlap. -/
theorem wellFormed_wideMemory : wideMemory.WellFormed := by
  have hleft := Memory.wellFormed_empty.reserve
    (show Memory.reserve 48 .empty = .ok (wideLeft.storage, _) from rfl)
  have hright := hleft.1.reserve (show Memory.reserve 144 _ = .ok (wideRight.storage, _) from rfl)
  have hzeros : wideZeros.WellFormed := (hright.1.reserve
    (show Memory.reserve 112 _ = .ok (wideResult.storage, wideZeros) from rfl)).1
  exact ((hzeros.write 0 0 _).write 1 0 _).write 2 0 _

/-- The matrices own their elements. -/
theorem wide_stored : Stored wideLeft wideRight wideResult wideMemory where
  wellFormed := wellFormed_wideMemory
  owned := ⟨⟨⟨_, rfl, rfl, rfl⟩, by decide⟩, ⟨⟨_, rfl, rfl, rfl⟩, by decide⟩,
    ⟨⟨_, rfl, rfl, rfl⟩, by decide⟩⟩
  apart := ⟨rfl, rfl⟩

/-- The addresses of the routines of a library. -/
def wideRoutines : Host.Routines :=
  ⟨0x7f31c0a01000, 0x7f31c0a02000, 0x7f31c0a03000, 0x7f31c0a04000⟩

/-- The kernel of a product that threads share. -/
def sharedKernel? {Fn : Type} : Host.ProductKernel Fn → Option (BoundKernel Fn)
  | .partitioned kernel => some kernel
  | .vendor _ => none

/-- The shared product of the matrices, twice the product and three times the old result, is given
on a new provider. -/
theorem wide_given :
    ∃ kernel, ((⟨.partitioned, wideRoutines⟩ : Host.Algebra).product
      (Packing.textBackend.rendering Packing.hostRenderer) wideLeft wideRight wideResult (.ofInt 2)
      (.ofInt 3) (History.after (Packing.textBackend.rendering Packing.hostRenderer) ⟨.empty, ()⟩
        []).session).1 = .ok (.partitioned kernel) := by
  have hgiven (result : Except KernelError (Host.ProductKernel String))
      (h : (result.toOption.bind sharedKernel?).isSome = true) :
      ∃ kernel, result = .ok (.partitioned kernel) := by
    rcases result with error | kernel | kernel
    · cases h
    · exact ⟨kernel, rfl⟩
    · cases h
  exact hgiven _ (by decide +kernel)

end Product

end KernelForge
