import KernelForge.Proofs.Padding.Steps

/-!
# Norms of padded matrices

The norm routine of a library gets all entries of a matrix, padding included, while reading the matrix
gives its elements only. Since sessions keep padding zero, both have the same squares in sum.
-/

namespace KernelForge

/-! ### What is summed up -/

/-- The sum of the squares of the numbers at some addresses. -/
def ExactMemory.squares {R : Type} [Ring R] (m : ExactMemory R) (addresses : List Nat) : R :=
  (addresses.map fun address => m.numbers address * m.numbers address).sum

namespace Host

/-- The addresses that the routine reads: as many as it is passed, one element after the other. -/
def NormKernel.addresses (kernel : NormKernel) : List Nat :=
  (List.range (intWord kernel.count)).map fun k =>
    kernel.x.address.toNat + k * kernel.x.elementType.bytes

/-- A norm that is given is that of all entries of its matrix. -/
theorem Algebra.norm_eq_ok {algebra : Algebra} {m : Matrix} {kernel : NormKernel}
    (h : algebra.norm m = .ok kernel) :
    kernel.x = m ∧ intWord kernel.count = m.layout.elements.toNat := by
  obtain ⟨⟨⟩, -, h⟩ := ok_of_bind h
  obtain ⟨count, hcount, h⟩ := ok_of_bind h
  cases h
  obtain ⟨hlt, rfl⟩ := sizeInt32_eq_ok hcount
  exact ⟨rfl, Product.intWord_ofNat hlt⟩

end Host

namespace Padding

/-! ### Sessions -/

/-- In every state that a session comes to, the padding of a matrix is zero. So the routine for its
norm, which gets all entries, and a reader, who gets the elements row by row, see the same sum of
squares. -/
theorem Reached.norms_skip_padding {Fn σ R : Type} [Ring R] [DecidableEq R] {w : Tools Fn σ R}
    {s : State R} (hw : w.Standard) (hreached : Reached w s) {m : Matrix} (hm : m ∈ s.matrices) :
    (∀ i < m.layout.rows.toNat, ∀ j, m.layout.columns.toNat ≤ j → j < m.layout.leading.toNat →
      s.exact.numbers (m.entryAddress i j) = 0) ∧
    m.get m.elementType s.exact.memory =
      .ok (m.elementAddresses.map (s.exact.memory.valueAt m.elementType), s.exact.memory) ∧
    (m.elementAddresses = (List.range m.layout.rows.toNat).flatMap fun i =>
      (List.range m.layout.columns.toNat).map (m.entryAddress i)) ∧
    ∀ (algebra : Host.Algebra) (kernel : Host.NormKernel), algebra.norm m = .ok kernel →
      kernel.addresses.length = m.layout.leading.toNat * m.layout.rows.toNat ∧
        s.exact.squares kernel.addresses = s.exact.squares m.elementAddresses := by
  have hsound := hreached.sound hw
  have howned := hsound.owned m hm
  refine ⟨fun i hi j hj hj' => hsound.zero _ ⟨m, hm, i, j, hi, hj, hj', rfl⟩,
    howned.get_eq_map hsound.wellFormed, Matrix.elementAddresses_eq, fun algebra kernel hkernel => ?_⟩
  obtain ⟨rfl, hcount⟩ := Host.Algebra.norm_eq_ok hkernel
  have hsum := Matrix.sum_entries
    (f := fun address => s.exact.numbers address * s.exact.numbers address) fun address hpadding => by
      rw [hsound.zero address ⟨_, hm, hpadding⟩, mul_zero]
  constructor
  · rw [Host.NormKernel.addresses, List.length_map, List.length_range, hcount,
      Layout.toNat_elements]
  · rw [ExactMemory.squares, Host.NormKernel.addresses, hcount, List.map_map]
    exact hsum

/-! ### A product of padded matrices -/

/-- Built-in modules for the host, and the reference product on rational numbers. -/
def rationalTools : Tools String Unit ℚ where
  backend := Packing.textBackend
  renderer := Packing.hostRenderer
  allocator := .host
  routines := ⟨16, 16, 32, 32⟩
  multiply := Product.exactProduct
  reading := .rational

/-- The routine, the iterations and the threads in order are standard. -/
theorem rationalTools_standard : rationalTools.Standard := by
  refine ⟨Allocator.host_exact, Product.writesResult_exactProduct, ?_, ?_, ?_, ?_, ?_⟩
  all_goals
    simp only [rationalTools, Packing.hostRenderer, Renderer.ofTarget, TemplateLibrary.builtin,
      Builtin.templates, NameMap.ofList, List.foldl_cons, List.foldl_nil, NameMap.get?_insert]
    rfl

/-- Matrices of two rows of two elements, each followed by one element of padding. -/
def squareMatrix (index : Nat) (address : UInt64) : Matrix :=
  ⟨⟨index, address, 48⟩, ⟨.float64, 2, 2, 3, 3, .dense, by decide, by decide⟩⟩

/-- The matrix that is squared. -/
def squareLeft : Matrix := squareMatrix 0 0x55813e400000

/-- The matrix of its square. -/
def squareResult : Matrix := squareMatrix 1 0x55813e400040

/-- Memory that holds the first of two such matrices. -/
def oneSquare : Memory := ⟨#[⟨0x55813e400000, 48, #[]⟩], 0x55813e400030⟩

/-- Memory that holds both. -/
def twoSquares : Memory :=
  ⟨#[⟨0x55813e400000, 48, #[]⟩, ⟨0x55813e400040, 48, #[]⟩], 0x55813e400070⟩

/-- The first one holds the numbers from one to four. -/
def squaresWritten : Memory :=
  twoSquares.modifyBuffer 0 (·.write 0 (([1, 2, 0, 3, 4, 0] : List Int).flatMap fun n =>
    ElementType.float64.encode (.ofInt n)))

/-- Both matrices were made, the first one was written, and the second one is its square. -/
def squareState : State ℚ :=
  let call : ProductCall := .ofOperands squareLeft squareLeft squareResult (.ofInt 1) (.ofInt 0)
  let written : ExactMemory ℚ :=
    (((State.start fun _ => 7).exact.reread .rational squareLeft oneSquare).reread .rational
      squareResult twoSquares).reread .rational squareLeft squaresWritten
  ⟨Product.multiply Product.exactProduct (call.values .double
    (Reading.rational.number .double call.alpha) (Reading.rational.number .double call.beta)) written,
    [squareResult, squareLeft], []⟩

/-- The state is reached by making both matrices, writing the first one and multiplying. -/
theorem squareState_reached : Reached rationalTools squareState := by
  have hcreate : Matrix.create .host .float64 2 2 (some 3) none .dense .empty =
      .ok (squareLeft, oneSquare) := rfl
  have hcreate' : Matrix.create .host .float64 2 2 (some 3) none .dense oneSquare =
      .ok (squareResult, twoSquares) := rfl
  have hset : squareLeft.set .float64 [.ofInt 1, .ofInt 2, .ofInt 3, .ofInt 4] twoSquares =
      .ok ((), squaresWritten) := rfl
  have hshape : Host.ProductShape.ofOperands squareLeft squareLeft squareResult =
      .ok (.ofLayouts squareLeft squareLeft squareResult) := rfl
  have hkernel : ((⟨.vendor, rationalTools.routines⟩ : Host.Algebra).product
      (rationalTools.backend.rendering rationalTools.renderer) squareLeft squareLeft squareResult
      (.ofInt 1) (.ofInt 0) (rationalTools.after ⟨.empty, ()⟩ [])).1 =
        .ok (.vendor ⟨16, squareLeft, squareLeft, squareResult, .ofInt 1, .ofInt 0, .ofLayouts _ _ _⟩) :=
    congrArg Prod.fst (Product.vendor_eq_ok hshape _ _)
  have hleft : squareLeft ∈ [squareResult, squareLeft] := List.mem_cons_of_mem _ List.mem_cons_self
  have hmatrices : ∀ m ∈ [squareLeft, squareLeft, squareResult], m ∈ [squareResult, squareLeft] := by
    simp
  exact ⟨fun _ => 7, (((Relation.ReflTransGen.refl.tail (.create hcreate)).tail
    (.create hcreate')).tail (.set hleft hset)).tail (.direct hmatrices hkernel rfl)⟩

/-- The square of a matrix is written between padding: its entries have the norm of its elements. -/
theorem squareResult_norm : ∃ kernel,
    (⟨.vendor, rationalTools.routines⟩ : Host.Algebra).norm squareResult = .ok kernel ∧
      kernel.addresses.length = 6 ∧ squareResult.elementAddresses.length = 4 ∧
      squareState.exact.squares kernel.addresses = 858 := by
  have hnorm : (⟨.vendor, rationalTools.routines⟩ : Host.Algebra).norm squareResult =
      .ok ⟨32, squareResult, 6, none⟩ := rfl
  obtain ⟨-, -, -, hnorms⟩ := Reached.norms_skip_padding rationalTools_standard squareState_reached
    (List.mem_cons_self : squareResult ∈ squareState.matrices)
  obtain ⟨hlength, hsquares⟩ := hnorms _ _ hnorm
  refine ⟨_, hnorm, hlength, rfl, hsquares.trans ?_⟩
  decide +kernel

end Padding

end KernelForge
