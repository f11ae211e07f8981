import KernelForge.Compiler.Word
import KernelForge.Proofs.Product.Blocks
import Mathlib.Data.List.ProdSigma

/-!
# Routines that compute products

For every rule there is a routine that computes products by it: it finds the values of all elements
of the result, and then writes them one after the other. The rule of the reference routines
multiplies a row by a column and weighs the product and the old element with the factors.
-/

namespace KernelForge

open Code

/-! ### Writes -/

namespace Memory

/-- Writes bytes at addresses, from the first to the last. -/
def pokeAll (writes : List (Nat × List UInt8)) (memory : Memory) : Option Memory :=
  writes.foldlM (fun memory w => memory.poke w.1 w.2) memory

variable {memory memory' : Memory} {writes : List (Nat × List UInt8)} {z : Allocation}

/-- The first write is followed by the others. -/
theorem pokeAll_cons {w : Nat × List UInt8} (h : pokeAll (w :: writes) memory = some memory') :
    ∃ middle, memory.poke w.1 w.2 = some middle ∧ pokeAll writes middle = some memory' := by
  rw [pokeAll, List.foldlM_cons] at h
  exact Option.bind_eq_some_iff.mp h

/-- Writes to an allocation succeed, and move no buffer. -/
theorem WellFormed.exists_pokeAll (h : memory.WellFormed) (hz : memory.Holds z)
    (hinside : ∀ w ∈ writes, z.Covers w.1 w.2.length ∧ 0 < w.2.length) :
    ∃ memory', pokeAll writes memory = some memory' ∧ memory'.WellFormed ∧
      memory'.Extends memory := by
  induction writes generalizing memory with
  | nil => exact ⟨memory, rfl, h, .refl memory⟩
  | cons w writes ih =>
    obtain ⟨hcovers, hpos⟩ := hinside w List.mem_cons_self
    obtain ⟨middle, hpoke, -⟩ := h.poke_of_covers hz hcovers hpos
    have holder := extends_of_poke hpoke
    obtain ⟨memory', hrest, hwellFormed, holder'⟩ := ih (h.of_poke hpoke) (hz.extend holder)
      fun w hw => hinside w (List.mem_cons_of_mem _ hw)
    refine ⟨memory', ?_, hwellFormed, holder'.trans holder⟩
    rw [pokeAll, List.foldlM_cons, hpoke]
    exact hrest

/-- What is apart from all writes stays as it is. -/
theorem peek_of_pokeAll_apart (h : pokeAll writes memory = some memory') {address length : Nat}
    (hapart : ∀ w ∈ writes, Apart address length w.1 w.2.length) :
    memory'.peek address length = memory.peek address length := by
  induction writes generalizing memory with
  | nil =>
    cases h
    rfl
  | cons w writes ih =>
    obtain ⟨middle, hpoke, hrest⟩ := pokeAll_cons h
    rw [ih hrest fun w hw => hapart w (List.mem_cons_of_mem _ hw)]
    exact peek_poke_apart hpoke (hapart w List.mem_cons_self)

/-- What is written is there afterwards if the writes are apart from each other. -/
theorem peek_of_pokeAll (h : pokeAll writes memory = some memory')
    (hpairs : writes.Pairwise fun v w => Apart v.1 v.2.length w.1 w.2.length) :
    ∀ w ∈ writes, memory'.peek w.1 w.2.length = some w.2 := by
  induction writes generalizing memory with
  | nil => exact fun w hw => absurd hw List.not_mem_nil
  | cons v writes ih =>
    obtain ⟨middle, hpoke, hrest⟩ := pokeAll_cons h
    obtain ⟨hfirst, hothers⟩ := List.pairwise_cons.mp hpairs
    intro w hw
    rcases List.mem_cons.mp hw with rfl | hw
    · rw [peek_of_pokeAll_apart hrest hfirst]
      exact peek_poke_self hpoke
    · exact ih hrest hothers w hw

end Memory

/-! ### Element by element -/

namespace ProductCall

/-- The call that an argument list stands for. -/
def ofWords? : List Nat → Option ProductCall
  | [order, left, right, rows, columns, inner, alpha, a, leadingA, b, leadingB, beta, out,
      leadingOut] =>
    if order = Builtin.Product.rowMajor ∧ left = Builtin.Product.noTranspose ∧
        right = Builtin.Product.noTranspose then
      some ⟨rows, columns, inner, alpha, a, leadingA, b, leadingB, beta, out, leadingOut⟩
    else none
  | _ => none

/-- The elements of the result: their addresses and what they are replaced by. -/
def results (call : ProductCall) (width : Nat) (rule : ElementRule) (memory : Memory) :
    List (Nat × List UInt8) :=
  (List.range call.rows ×ˢ List.range call.columns).map fun cell =>
    (call.inOut width cell.1 cell.2, call.element width rule memory cell.1 cell.2)

variable {call : ProductCall} {width : Nat} {rule : ElementRule} {x y z : Allocation}
  {memory : Memory}

/-- The results are those of the elements of the product. -/
theorem mem_results {w : Nat × List UInt8} : w ∈ call.results width rule memory ↔
    ∃ i < call.rows, ∃ j < call.columns,
      (call.inOut width i j, call.element width rule memory i j) = w := by
  simp only [results, List.mem_map, Prod.exists, List.mem_product, List.mem_range]
  constructor
  · rintro ⟨i, j, ⟨hi, hj⟩, hw⟩
    exact ⟨i, hi, j, hj, hw⟩
  · rintro ⟨i, hi, j, hj, hw⟩
    exact ⟨i, j, ⟨hi, hj⟩, hw⟩

/-- The elements of the result are apart from each other. -/
theorem Placed.results_apart (h : call.Placed width x y z memory)
    (hlength : ∀ i j, (call.element width rule memory i j).length = width) :
    (call.results width rule memory).Pairwise fun v w =>
      Apart v.1 v.2.length w.1 w.2.length := by
  have hnodup : (List.range call.rows ×ˢ List.range call.columns).Nodup :=
    List.nodup_range.product List.nodup_range
  refine List.pairwise_map.mpr (hnodup.pairwise_of_forall_ne fun c hc d hd hne => ?_)
  have hj : c.2 < call.columns := List.mem_range.mp (List.mem_product.mp hc).2
  have hj' : d.2 < call.columns := List.mem_range.mp (List.mem_product.mp hd).2
  rw [hlength, hlength]
  exact h.inOut_apart hj hj' fun heq => hne (Prod.ext heq.1 heq.2)

end ProductCall

namespace Product

/-- The routine that replaces every element of the result by what a rule gives for it. -/
def elementwise (width : Nat) (rule : ElementRule) (words : List Nat) (memory : Memory) :
    Option Memory :=
  (ProductCall.ofWords? words).bind fun call => memory.pokeAll (call.results width rule memory)

/-- The routine that replaces the elements by a rule computes products by the rule. -/
theorem isProduct_elementwise {width : Nat} {rule : ElementRule} (hwidth : 0 < width)
    (hrule : ∀ alpha beta row column old, (rule alpha beta row column old).length = width) :
    IsProduct (elementwise width rule) width rule := by
  intro call x y z memory h
  have hlength : ∀ i j, (call.element width rule memory i j).length = width :=
    fun i j => hrule _ _ _ _ _
  have hinside : ∀ w ∈ call.results width rule memory,
      z.Covers w.1 w.2.length ∧ 0 < w.2.length := by
    intro w hw
    obtain ⟨i, hi, j, hj, rfl⟩ := ProductCall.mem_results.mp hw
    rw [hlength]
    exact ⟨h.inside_out i hi j hj, hwidth⟩
  obtain ⟨memory', hpokes, hwellFormed, holder⟩ := h.wellFormed.exists_pokeAll h.held.2.2 hinside
  refine ⟨memory', hpokes, hwellFormed, holder, fun i hi j hj => ?_,
    fun address length hapart => ?_⟩
  · have hread := Memory.peek_of_pokeAll hpokes (h.results_apart hlength) _
      (ProductCall.mem_results.mpr ⟨i, hi, j, List.mem_range.mp hj, rfl⟩)
    rwa [hlength] at hread
  · refine Memory.peek_of_pokeAll_apart hpokes fun w hw => ?_
    obtain ⟨i, hi, j, hj, rfl⟩ := ProductCall.mem_results.mp hw
    rw [hlength]
    exact hapart i hi j (List.mem_range.mpr hj)

/-- The rule of the reference routines for a floating-point type: products of entries are added up
from the first to the last, the old element is not looked at if its factor is zero, and every
operation rounds. -/
def referenceRule (kind : FloatKind) : ElementRule := fun alpha beta row column old =>
  let entries := (row.zip column).map fun (x, y) =>
    kind.exactly .mul (ofLittleEndian x) (ofLittleEndian y)
  let total := entries.foldl (kind.exactly .add) 0
  let kept := if kind.isZero beta then 0 else kind.exactly .mul beta (ofLittleEndian old)
  littleEndian kind.bytes (kind.exactly .add kept (kind.exactly .mul alpha total))

/-- Twice the product of (4, 5, 6) and (5, 11, 17) and three times 12 are 390. -/
example :
    let number (n : Nat) : List UInt8 := ElementType.float64.encode (.ofInt n)
    referenceRule .double 0x4000000000000000 0x4008000000000000 [number 4, number 5, number 6]
      [number 5, number 11, number 17] (number 12) = number 390 := by decide +kernel

/-- The reference routines compute products by their rule. -/
theorem isProduct_reference (kind : FloatKind) :
    IsProduct (elementwise kind.bytes (referenceRule kind)) kind.bytes (referenceRule kind) := by
  have hwidth : 0 < kind.bytes := by cases kind <;> decide
  exact isProduct_elementwise hwidth fun _ _ _ _ _ => length_littleEndian _ _

end Product

end KernelForge
