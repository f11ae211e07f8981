import KernelForge.Kernel.Grid
import Mathlib.Order.Bounds.Basic

/-!
# Grids cover tightly

A number of blocks covers the elements if there are at least as many threads. These numbers are the
upper set of one quotient, which is rounded up, so the grid for a count of elements is the least of
them, and it exists as soon as this least number is one of 32 bits. All properties of grids follow from
what least elements are: the last block is needed, and more elements need no fewer blocks.
-/

namespace KernelForge

/-- The bound of `int`. -/
theorem twoPow_31 : twoPow 31 = 2147483648 := rfl

/-- The number of its patterns. -/
theorem twoPow_32 : twoPow 32 = 4294967296 := rfl

namespace LaunchGrid

/-! ### Numbers of blocks -/

section Covering

variable {count count' block blocks blocks' : Nat}

/-- The numbers of blocks of so many threads that have a thread for every element. -/
def covering (count block : Nat) : Set Nat := {blocks | count ≤ blocks * block}

/-- The blocks that cover are those from a quotient on. -/
theorem mem_covering_iff (hblock : 0 < block) :
    blocks ∈ covering count block ↔ (count + block - 1) / block ≤ blocks := by
  have hquotient := Nat.div_le_iff_le_mul_add_pred (a := count + block - 1) (c := blocks) hblock
  rw [hquotient, Nat.mul_comm block]
  change count ≤ blocks * block ↔ _
  omega

/-- The quotient that is rounded up is the least number of blocks that covers. -/
theorem isLeast_covering (hblock : 0 < block) :
    IsLeast (covering count block) ((count + block - 1) / block) :=
  ⟨(mem_covering_iff hblock).mpr le_rfl, fun _ hcovers => (mem_covering_iff hblock).mp hcovers⟩

/-- The last block of the least number of blocks is needed. -/
theorem lt_of_isLeast (h : IsLeast (covering count block) blocks) (hcount : 0 < count) :
    0 < blocks ∧ (blocks - 1) * block < count := by
  have hpos : 0 < blocks := by
    refine Nat.pos_of_ne_zero fun hzero => ?_
    have hcovers : count ≤ blocks * block := h.1
    rw [hzero, Nat.zero_mul] at hcovers
    omega
  refine ⟨hpos, Nat.lt_of_not_le fun hcovers => ?_⟩
  have hle : blocks ≤ blocks - 1 := h.2 hcovers
  omega

/-- More elements need no fewer blocks. -/
theorem isLeast_mono (h : IsLeast (covering count block) blocks)
    (h' : IsLeast (covering count' block) blocks') (hle : count ≤ count') : blocks ≤ blocks' :=
  h.2 (le_trans hle h'.1)

end Covering

/-- A number of 32 bits is the least one if the natural number is. -/
theorem isLeast_toNat {count block blocks : Nat} (h : IsLeast (covering count block) blocks)
    (hlt : blocks < twoPow 32) : IsLeast (covering count block) (UInt32.ofNat blocks).toNat := by
  have htoNat : (UInt32.ofNat blocks).toNat = blocks := UInt32.toNat_ofNat_of_lt hlt
  rwa [htoNat]

/-! ### Grids -/

variable {count : UInt64} {block : UInt32} {g : LaunchGrid}

/-- The count of threads does not wrap. -/
theorem toNat_threads (g : LaunchGrid) : g.threads.toNat = g.grid.toNat * g.block.toNat := by
  have hgrid := g.grid.toNat_lt
  have hblock := g.block.toNat_lt
  have hlt : g.grid.toNat * g.block.toNat < 2 ^ 64 :=
    calc g.grid.toNat * g.block.toNat < 2 ^ 32 * 2 ^ 32 := Nat.mul_lt_mul'' hgrid hblock
      _ = 2 ^ 64 := by decide
  rw [threads, UInt64.toNat_mul, UInt32.toNat_toUInt64, UInt32.toNat_toUInt64,
    Nat.mod_eq_of_lt hlt]

/-- The grid of elements is the least one that covers them. -/
theorem forElements_eq_ok_iff :
    forElements count block = .ok g ↔ 0 < count.toNat ∧ 0 < block.toNat ∧ g.block = block ∧
      IsLeast (covering count.toNat block.toNat) g.grid.toNat := by
  rw [forElements]
  split
  · next hcount => simp [hcount]
  · next hcount =>
    have hcount' : 0 < count.toNat := UInt64.pos_iff_ne_zero.mpr hcount
    split
    · next hblock => simp [hblock]
    · next hblock =>
      have hblock' : 0 < block.toNat := UInt32.pos_iff_ne_zero.mpr hblock
      have hleast : IsLeast (covering count.toNat block.toNat) _ := isLeast_covering hblock'
      simp only []
      split
      · next hlt =>
        have hgrid := isLeast_toNat hleast hlt
        constructor
        · rintro ⟨⟩
          exact ⟨hcount', hblock', rfl, hgrid⟩
        · rintro ⟨-, -, rfl, hg⟩
          rw [UInt32.toNat_inj.mp (hgrid.unique hg)]
      · next hge =>
        refine ⟨nofun, fun ⟨_, _, _, hg⟩ => absurd ?_ hge⟩
        rw [hleast.unique hg]
        exact g.grid.toNat_lt

/-- Why elements have no grid: nothing is to be done, or not even the most blocks cover them. -/
theorem forElements_eq_error_iff {error : KernelError} :
    forElements count block = .error error ↔
      count.toNat = 0 ∧ error = .emptyLaunch "zero elements" ∨
      0 < count.toNat ∧ block.toNat = 0 ∧ error = .emptyLaunch "zero threads per block" ∨
      0 < count.toNat ∧ 0 < block.toNat ∧
        (∀ blocks < twoPow 32, blocks ∉ covering count.toNat block.toNat) ∧
        error = .launchOverflow count block := by
  rw [forElements]
  split
  · next hcount => simp [hcount, eq_comm]
  · next hcount =>
    have hcount' : 0 < count.toNat := UInt64.pos_iff_ne_zero.mpr hcount
    split
    · next hblock => simp [hblock, hcount', Nat.ne_of_gt hcount', eq_comm]
    · next hblock =>
      have hblock' : 0 < block.toNat := UInt32.pos_iff_ne_zero.mpr hblock
      simp only [hcount', hblock', Nat.ne_of_gt hcount', Nat.ne_of_gt hblock', false_and,
        and_false, true_and, false_or, mem_covering_iff hblock', Nat.not_le]
      split
      · next hlt => exact ⟨nofun, fun h => absurd (h.1 _ hlt) (Nat.lt_irrefl _)⟩
      · next hge =>
        simp only [Except.error.injEq, eq_comm (a := error), iff_and_self]
        exact fun _ blocks hblocks => Nat.lt_of_lt_of_le hblocks (Nat.not_lt.mp hge)

/-- A count of elements has a grid exactly if neither it nor the size of a block is zero and the least
number of blocks that covers it is one of 32 bits, and this is the number of blocks of the grid. Its
last block is needed, and its threads are counted in 64 bits without wrapping. A zero is refused as
an empty launch, and every other refusal is an overflow. Fewer elements have a grid too, and it is no
larger. -/
theorem forElements_tight (count : UInt64) (block : UInt32) :
    ((∃ g, forElements count block = .ok g) ↔ 0 < count.toNat ∧ 0 < block.toNat ∧
      ∃ blocks, IsLeast (covering count.toNat block.toNat) blocks ∧ blocks < twoPow 32) ∧
    (∀ g, forElements count block = .ok g → g.block = block ∧
      IsLeast (covering count.toNat block.toNat) g.grid.toNat ∧
      (g.grid.toNat - 1) * block.toNat < count.toNat ∧ count.toNat ≤ g.threads.toNat ∧
      g.threads.toNat = g.grid.toNat * g.block.toNat) ∧
    (∀ error, forElements count block = .error error ↔
      count.toNat = 0 ∧ error = .emptyLaunch "zero elements" ∨
      0 < count.toNat ∧ block.toNat = 0 ∧ error = .emptyLaunch "zero threads per block" ∨
      0 < count.toNat ∧ 0 < block.toNat ∧
        (∀ blocks < twoPow 32, blocks ∉ covering count.toNat block.toNat) ∧
        error = .launchOverflow count block) ∧
    ∀ more g', count ≤ more → 0 < count.toNat → forElements more block = .ok g' →
      ∃ g, forElements count block = .ok g ∧ g.grid ≤ g'.grid := by
  have hexists : (∃ g, forElements count block = .ok g) ↔ 0 < count.toNat ∧ 0 < block.toNat ∧
      ∃ blocks, IsLeast (covering count.toNat block.toNat) blocks ∧ blocks < twoPow 32 := by
    simp only [forElements_eq_ok_iff]
    constructor
    · rintro ⟨g, hcount, hblock, -, hleast⟩
      exact ⟨hcount, hblock, _, hleast, g.grid.toNat_lt⟩
    · rintro ⟨hcount, hblock, blocks, hleast, hlt⟩
      exact ⟨⟨UInt32.ofNat blocks, block⟩, hcount, hblock, rfl, isLeast_toNat hleast hlt⟩
  refine ⟨hexists, fun g hg => ?_, fun error => forElements_eq_error_iff, ?_⟩
  · obtain ⟨hcount, -, hsize, hleast⟩ := forElements_eq_ok_iff.mp hg
    have hcovers : count.toNat ≤ g.grid.toNat * block.toNat := hleast.1
    refine ⟨hsize, hleast, (lt_of_isLeast hleast hcount).2, ?_, toNat_threads g⟩
    rwa [toNat_threads, hsize]
  · intro more g' hle hcount hmore
    obtain ⟨-, hblock, -, hleast'⟩ := forElements_eq_ok_iff.mp hmore
    have hleast : IsLeast (covering count.toNat block.toNat) _ := isLeast_covering hblock
    have hgrid := isLeast_mono hleast hleast' hle
    obtain ⟨g, hg⟩ := hexists.mpr ⟨hcount, hblock, _, hleast, hgrid.trans_lt g'.grid.toNat_lt⟩
    refine ⟨g, hg, ?_⟩
    exact isLeast_mono (forElements_eq_ok_iff.mp hg).2.2.2 hleast' hle

/-- The most elements that blocks of two threads cover, and one more. -/
theorem pairsOfThreads_tight :
    forElements 8589934590 2 = .ok ⟨4294967295, 2⟩ ∧ 4294967294 * 2 < 8589934590 ∧
      (∃ g, forElements 3 2 = .ok g ∧ g.grid ≤ 4294967295) ∧
      forElements 8589934591 2 = .error (.launchOverflow 8589934591 2) := by
  have hmost : forElements 8589934590 2 = .ok ⟨4294967295, 2⟩ := by decide
  obtain ⟨-, -, hlast, -, -⟩ := (forElements_tight 8589934590 2).2.1 _ hmost
  have hfew := (forElements_tight 3 2).2.2.2 8589934590 _ (by decide) (by decide) hmost
  refine ⟨hmost, hlast, hfew, ((forElements_tight 8589934591 2).2.2.1 _).mpr ?_⟩
  refine .inr (.inr ⟨by decide, by decide, fun blocks hblocks hcovers => ?_, rfl⟩)
  have hle : 8589934591 ≤ blocks * 2 := hcovers
  rw [twoPow_32] at hblocks
  omega

end LaunchGrid

end KernelForge
