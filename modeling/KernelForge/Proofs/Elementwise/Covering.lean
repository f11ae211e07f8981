import KernelForge.Kernel.Recording
import KernelForge.Proofs.Elementwise.Requests
import KernelForge.Proofs.Storage.Addresses

/-!
# Element-wise kernels cover their operands

Matrices of one layout that own their elements take the same number of bytes, and the count that an
element-wise kernel is launched over is the number of their elements, padding included. Every index
below it is therefore the number of an element of every operand, whichever members of banks are
active. A count that an `int` cannot hold is refused: a combination refuses it at every run, a copy
when it is asked for.
-/

namespace KernelForge

open Code Builtin

variable {Fn σ : Type}

/-! ### Matrices of a count of elements -/

/-- The elements of a type with the numbers below a count are all elements of a matrix, padding
included, and fill its allocation. -/
structure Matrix.CoveredBy (m : Matrix) (type : ElementType) (count : Nat) : Prop where
  type_eq : m.elementType = type
  count_eq : count = m.layout.leading.toNat * m.layout.rows.toNat
  size_eq : count * type.bytes = m.storage.size
  inside : ∀ x < count, m.storage.Covers (m.address.toNat + x * type.bytes) type.bytes

/-- A matrix that owns its elements is covered by the count of its layout. -/
theorem Matrix.Owned.coveredBy {m : Matrix} {memory : Memory} (h : m.Owned memory) :
    m.CoveredBy m.elementType m.layout.elements.toNat := by
  have hcount := m.layout.toNat_elements
  have hsize : m.layout.elements.toNat * m.elementType.bytes = m.storage.size := by
    rw [hcount, h.size_eq]
  refine ⟨rfl, hcount, hsize, fun x hx => ⟨Nat.le_add_right _ _, ?_⟩⟩
  have hlast : (x + 1) * m.elementType.bytes ≤ m.storage.size :=
    hsize ▸ Nat.mul_le_mul_right _ hx
  rw [Nat.succ_mul] at hlast
  have haddress : m.address = m.storage.address := rfl
  rw [haddress]
  omega

/-- An operand that owns its elements stands for a matrix that the count of its layout covers. -/
theorem Operand.Stored.exists_covered {operand : Operand} {layout : Layout} (h : operand.Stored)
    (hlayout : operand.layout? = some layout) (store : Store) :
    ∃ m, operand.matrixAt store = some m ∧ m.layout = layout ∧
      m.CoveredBy layout.elementType layout.elements.toNat := by
  obtain ⟨m, hm, rfl, memory, -, howned⟩ := h.exists_matrixAt hlayout store
  exact ⟨m, hm, rfl, howned.coveredBy⟩

namespace Elementwise

/-! ### Values -/

/-- The values for a combination of matrices: the count, the result with its factor, and every term
with its factor. -/
def combinationValues (type : ElementType) (n : UInt64) (y : Matrix) (weight : Scalar)
    (xs : List (Matrix × Scalar)) : List SlotValue :=
  SlotValue.ofCount n :: .pointer y.address :: .scalar (weight.cast type) ::
    xs.flatMap fun x => [.pointer x.1.address, .scalar (x.2.cast type)]

/-- The values for a copy of a matrix. -/
def copyValues (n : UInt64) (target source : Matrix) : List SlotValue :=
  [SlotValue.ofCount n, .pointer target.address, .pointer source.address]

/-- What terms fill is resolved to the addresses of the matrices that they stand for. -/
theorem resolve_terms {store : Store} {layout : Layout} {type : ElementType} {terms : List Operand}
    {xs : List Matrix} (weights : List Scalar)
    (hlayouts : ∀ term ∈ terms, term.layout? = some layout)
    (hterms : List.Forall₂ (fun term x => term.matrixAt store = some x) terms xs) :
    ((terms.zip weights).flatMap fun term => [term.1.pointerArgument, term.2.argument type]).map
        (·.resolve store) =
      (xs.zip weights).flatMap fun x => [.pointer x.1.address, .scalar (x.2.cast type)] := by
  induction hterms generalizing weights with
  | nil => rfl
  | @cons term x terms xs hterm _ ih =>
    cases weights with
    | nil => rfl
    | cons weight weights =>
      have hlayout := hlayouts term List.mem_cons_self
      have hresolve := (Operand.fills_pointer hlayout "").2.2 store x hterm
      rw [List.zip_cons_cons, List.zip_cons_cons, List.flatMap_cons, List.flatMap_cons,
        List.map_append, ih weights fun other hother => hlayouts other (List.mem_cons_of_mem _ hother),
        List.map_cons, List.map_cons, hresolve]
      rfl

/-! ### Launches -/

section Launches

variable {layout : Layout} {store : Store}

/-- What a combination launches: its function over all elements, on the matrices that its operands
stand for; nothing if the factors are not as many as the operands, or the count is too wide for an
`int`. -/
theorem launch_combination {kernel : CombinationKernel Fn}
    (hcontract : kernel.contract =
      .ofArguments 1 (Combination.arguments kernel.elementType kernel.terms.length))
    (hresult : kernel.result.layout? = some layout)
    (hlayouts : ∀ term ∈ kernel.terms, term.layout? = some layout) {y : Matrix} {xs : List Matrix}
    (hy : kernel.result.matrixAt store = some y)
    (hxs : List.Forall₂ (fun term x => term.matrixAt store = some x) kernel.terms xs)
    (weight : Scalar) {weights : List Scalar} (hlength : weights.length = kernel.terms.length) :
    kernel.launch (weight :: weights) store =
      if kernel.count.toNat < twoPow 31 then
        .ok ⟨kernel.function, [kernel.count], combinationValues kernel.elementType kernel.count y
          weight (xs.zip weights)⟩
      else .error (.argumentMismatch (.tooWide "dimension" kernel.count)) := by
  obtain ⟨hfills, htypes⟩ := CombinationKernel.fills_filled weight hlength hresult hlayouts
  have hlist := BoundArgument.list_one kernel.count hfills htypes
  rw [← hcontract] at hlist
  have hvalues : (kernel.filled weight weights).map (·.resolve store) =
      .pointer y.address :: .scalar (weight.cast kernel.elementType) ::
        (xs.zip weights).flatMap fun x =>
          [.pointer x.1.address, .scalar (x.2.cast kernel.elementType)] := by
    rw [CombinationKernel.filled, List.map_cons, List.map_cons, resolve_terms weights hlayouts hxs,
      (Operand.fills_pointer hresult "").2.2 store y hy]
    rfl
  simp only [CombinationKernel.launch, if_pos hlength, hlist]
  by_cases hlt : kernel.count.toNat < twoPow 31
  · rw [if_pos hlt, if_pos hlt]
    simp only [List.map_cons, hvalues]
    rfl
  · rw [if_neg hlt, if_neg hlt]

end Launches

/-! ### Every launch -/

section Covering

variable {backend : Backend Fn σ} {renderer : Renderer} {world : World σ} {calls : List (Call σ)}

/-- Terms that own their elements stand for matrices that the count of their layout covers. -/
theorem exists_covered_terms {terms : List Operand} {layout : Layout}
    (hstored : ∀ term ∈ terms, term.Stored) (hlayouts : ∀ term ∈ terms, term.layout? = some layout)
    (store : Store) :
    ∃ xs, List.Forall₂ (fun term x => term.matrixAt store = some x) terms xs ∧
      ∀ x ∈ xs, x.CoveredBy layout.elementType layout.elements.toNat :=
  exists_forall₂ fun term hterm => by
    obtain ⟨x, hx, -, hcovered⟩ :=
      (hstored term hterm).exists_covered (hlayouts term hterm) store
    exact ⟨x, hx, hcovered⟩

/-- A combination was built for an element type, and has a count of elements: every run of it is
refused as a whole, or is one launch over the count, which covers the matrices that the operands stand
for by then. -/
def CombinationCovers (backend : Backend Fn σ) (renderer : Renderer) (result : Operand)
    (terms : List Operand) (kernel : CombinationKernel Fn) : Prop :=
  ∃ (type : ElementType) (n : UInt64), type.isFloat = true ∧
    Built backend renderer type Combination.kernelName (Combination.arguments type terms.length)
      (combinationText terms.length type) kernel.function ∧
    ∀ (args : List Scalar) (now : World σ), ∃ y xs, result.matrixAt now.store = some y ∧
      List.Forall₂ (fun term x => term.matrixAt now.store = some x) terms xs ∧
      (∀ m ∈ y :: xs, m.CoveredBy type n.toNat) ∧
      ((args.length ≠ 1 + terms.length ∨ twoPow 31 ≤ n.toNat) ∧
          (∃ fault, kernel.run (backend.rendering renderer) args now =
            (.error (.argumentMismatch fault), now)) ∨
        n.toNat < twoPow 31 ∧ ∃ weight weights, args = weight :: weights ∧
          weights.length = terms.length ∧
          kernel.run (backend.rendering renderer) args now = backend.launch kernel.function [n]
            (combinationValues type n y weight (xs.zip weights)) now)

/-- A combination that was obtained covers its operands at every launch. -/
theorem combination_covers {result : Operand} {terms : List Operand} {kernel : CombinationKernel Fn}
    (htemplate : renderer.templates.get? Combination.module = some Combination.template)
    (hcount : terms.length < twoPow 64) (hstored : ∀ operand ∈ result :: terms, operand.Stored)
    (hkernel : ((backend.rendering renderer).combination result terms
      (History.after (backend.rendering renderer) world calls).session).1 = .ok kernel) :
    CombinationCovers backend renderer result terms kernel := by
  obtain ⟨layout, hresult, hlayouts, hfloat, hbuilt, hcontract, helements, htype, rfl, rfl⟩ :=
    combination_eq_ok htemplate hcount hkernel
  refine ⟨kernel.elementType, kernel.count, htype ▸ hfloat, htype ▸ hbuilt, fun args now => ?_⟩
  obtain ⟨y, hy, -, hcovered⟩ :=
    (hstored _ List.mem_cons_self).exists_covered hresult now.store
  obtain ⟨xs, hxs, hcoveredTerms⟩ := exists_covered_terms
    (fun term hterm => hstored term (List.mem_cons_of_mem _ hterm)) hlayouts now.store
  rw [← htype, ← helements] at hcovered hcoveredTerms
  refine ⟨y, xs, hy, hxs, List.forall_mem_cons.mpr ⟨hcovered, hcoveredTerms⟩, ?_⟩
  have hrun := Obtained.run_eq_launch (backend.rendering renderer) (.combination kernel) args now
  simp only [Obtained.run, Obtained.launch] at hrun
  rw [hrun]
  cases args with
  | nil =>
    refine .inl ⟨.inl ?_, _, rfl⟩
    rw [List.length_nil]
    omega
  | cons weight weights =>
    by_cases hlength : weights.length = kernel.terms.length
    · rw [launch_combination (htype ▸ hcontract) hresult hlayouts hy hxs weight hlength]
      by_cases hlt : kernel.count.toNat < twoPow 31
      · rw [if_pos hlt]
        exact .inr ⟨hlt, weight, weights, rfl, hlength, rfl⟩
      · rw [if_neg hlt]
        exact .inl ⟨.inr (Nat.not_lt.mp hlt), _, rfl⟩
    · refine .inl ⟨.inl ?_, .coefficients (1 + kernel.terms.length) (weight :: weights).length, ?_⟩
      · rw [List.length_cons]
        omega
      · simp only [CombinationKernel.launch, if_neg hlength]

/-- A copy was built for an element type, and has a count of elements that an `int` can hold: every
run of it is refused as a whole, or is one launch over the count, which covers the matrices that both
operands stand for by then. -/
def CopyCovers (backend : Backend Fn σ) (renderer : Renderer) (target source : Operand)
    (kernel : BoundKernel Fn) : Prop :=
  ∃ (type : ElementType) (n : UInt64), type.isFloat = true ∧
    Built backend renderer type Copy.kernelName (Copy.arguments type) copyText kernel.function ∧
    n.toNat < twoPow 31 ∧
    ∀ (args : List Scalar) (now : World σ), ∃ dst src, target.matrixAt now.store = some dst ∧
      source.matrixAt now.store = some src ∧ dst.CoveredBy type n.toNat ∧
      src.CoveredBy type n.toNat ∧
      (args ≠ [] ∧ (∃ fault, kernel.run (backend.rendering renderer) args now =
          (.error (.argumentMismatch fault), now)) ∨
        args = [] ∧ kernel.run (backend.rendering renderer) args now =
          backend.launch kernel.function [n] (copyValues n dst src) now)

/-- So does a copy. -/
theorem copy_covers {target source : Operand} {kernel : BoundKernel Fn}
    (htemplate : renderer.templates.get? Copy.module = some Copy.template)
    (hstored : target.Stored ∧ source.Stored)
    (hkernel : ((backend.rendering renderer).copy target source
      (History.after (backend.rendering renderer) world calls).session).1 = .ok kernel) :
    CopyCovers backend renderer target source kernel := by
  obtain ⟨layout, htarget, hsource, hfloat, hbuilt, hlt, hfields⟩ := copy_eq_ok htemplate hkernel
  refine ⟨layout.elementType, layout.elements, hfloat, hbuilt, hlt, fun args now => ?_⟩
  obtain ⟨dst, hdst, -, hcoveredTarget⟩ := hstored.1.exists_covered htarget now.store
  obtain ⟨src, hsrc, -, hcoveredSource⟩ := hstored.2.exists_covered hsource now.store
  refine ⟨dst, src, hdst, hsrc, hcoveredTarget, hcoveredSource, ?_⟩
  cases args with
  | nil =>
    refine .inr ⟨rfl, ?_⟩
    have hrun := Obtained.run_eq_launch (backend.rendering renderer) (.bound kernel) [] now
    refine hrun.trans ?_
    have hresolveTarget := (Operand.fills_pointer htarget "").2.2 now.store dst hdst
    have hresolveSource := (Operand.fills_pointer hsource "").2.2 now.store src hsrc
    have hvalues : kernel.args.map (·.resolve now.store) = copyValues layout.elements dst src := by
      rw [hfields]
      simp only [List.map_cons, List.map_nil, hresolveTarget, hresolveSource]
      rfl
    change backend.launch kernel.function kernel.dims (kernel.args.map (·.resolve now.store)) now = _
    rw [hvalues, hfields]
  | cons arg args => exact .inl ⟨List.cons_ne_nil _ _, _, rfl⟩

/-- Combinations and copies that are given, after any calls on a new provider and for any precision,
cover the matrices that their operands stand for at every launch. A copy of more elements than an
`int` can hold is not given: it is refused once its function was asked for, and launches nothing. -/
theorem launches_cover_operands
    (hcombination : renderer.templates.get? Combination.module = some Combination.template)
    (hcopy : renderer.templates.get? Copy.module = some Copy.template) (world : World σ)
    (calls : List (Call σ)) :
    let forging := backend.rendering renderer
    let s := (History.after forging world calls).session
    (∀ result terms kernel, terms.length < twoPow 64 →
      (∀ operand ∈ result :: terms, operand.Stored) →
      (forging.combination result terms s).1 = .ok kernel →
        CombinationCovers backend renderer result terms kernel) ∧
      ∀ target source, target.Stored → source.Stored →
        (∀ kernel, (forging.copy target source s).1 = .ok kernel →
          CopyCovers backend renderer target source kernel) ∧
        ∀ layout, Backend.copyLayout target source = .ok layout →
          twoPow 31 ≤ layout.leading.toNat * layout.rows.toNat →
          forging.copy target source s =
            match forging.function Copy.kernelName Copy.module
              (params NameMap.empty layout.elementType) s with
            | (.ok _, s') => (.error (.argumentMismatch (.tooWide "dimension" layout.elements)), s')
            | (.error error, s') => (.error error, s') := by
  intro forging s
  refine ⟨fun result terms kernel hcount hstored hkernel =>
    combination_covers hcombination hcount hstored hkernel, fun target source htarget hsource => ?_⟩
  refine ⟨fun kernel hkernel => copy_covers hcopy ⟨htarget, hsource⟩ hkernel,
    fun layout hlayout hwide => copy_too_wide hcopy hlayout ?_⟩
  obtain ⟨m, -, rfl, hcovered⟩ :=
    htarget.exists_covered (Backend.copyLayout_eq_ok hlayout).1 .empty
  rwa [hcovered.count_eq]

end Covering

/-! ### A bank as the result -/

/-- Two rows of three elements, each followed by one element of padding. -/
def paddedLayout : Layout := ⟨.float64, 2, 3, 4, 4, .dense, by decide, by decide⟩

/-- Three matrices of the layout. -/
def paddedMatrix (index : Nat) (address : UInt64) : Matrix := ⟨⟨index, address, 64⟩, paddedLayout⟩

/-- Memory that holds them. -/
def paddedMemory : Memory :=
  ⟨#[⟨0x55813e400000, 64, #[]⟩, ⟨0x55813e400040, 64, #[]⟩, ⟨0x55813e400080, 64, #[]⟩],
    0x55813e4000c0⟩

/-- The buffers of the matrices do not overlap. -/
theorem wellFormed_paddedMemory : paddedMemory.WellFormed := by
  have hfirst := Memory.wellFormed_empty.reserve
    (show Memory.reserve 64 .empty = .ok (⟨0, 0x55813e400000, 64⟩, _) from rfl)
  have hsecond := hfirst.1.reserve
    (show Memory.reserve 64 _ = .ok (⟨1, 0x55813e400040, 64⟩, _) from rfl)
  exact (hsecond.1.reserve
    (show Memory.reserve 64 _ = .ok (⟨2, 0x55813e400080, 64⟩, paddedMemory) from rfl)).1

/-- A bank of two of them. -/
def paddedBank : Bank := ⟨paddedMatrix 0 0x55813e400000, [paddedMatrix 1 0x55813e400040], 0⟩

/-- The second member is active, and nothing was asked of the backend. -/
def paddedWorld : World Recording := ⟨⟨paddedMemory, #[1]⟩, .empty 0⟩

/-- A renderer for single precision. -/
def singleRenderer : Renderer := .ofTarget .host .single .builtin

/-- The bank and the matrix are stored in these buffers. -/
theorem paddedMatrices_stored (operand : Operand)
    (h : operand ∈ [.bank paddedBank, .matrix (paddedMatrix 2 0x55813e400080)]) :
    operand.Stored := by
  have howned (m : Matrix) (hm : m ∈ [paddedMatrix 0 0x55813e400000, paddedMatrix 1 0x55813e400040,
      paddedMatrix 2 0x55813e400080]) :
      ∃ memory : Memory, memory.WellFormed ∧ m.Owned memory := by
    refine ⟨paddedMemory, wellFormed_paddedMemory, ?_⟩
    simp only [List.mem_cons, List.not_mem_nil, or_false] at hm
    rcases hm with rfl | rfl | rfl
    all_goals exact ⟨⟨_, rfl, rfl, rfl⟩, by decide⟩
  simp only [List.mem_cons, List.not_mem_nil, or_false] at h
  rcases h with rfl | rfl
  · refine ⟨⟨[paddedMatrix 0 0x55813e400000, paddedMatrix 1 0x55813e400040], 1, ⟨paddedMemory, #[]⟩,
      ⟨paddedMemory, #[1]⟩, rfl⟩, fun m hm => howned m ?_⟩
    exact List.mem_append_left [paddedMatrix 2 0x55813e400080] hm
  · exact howned _ (by simp)

/-- A combination of matrices of double precision into the bank, by a renderer for single precision,
is launched over all eight elements, on the second member of the bank. -/
theorem paddedBank_covered : ∃ kernel,
    ((Recording.backend singleRenderer).combination (.bank paddedBank)
      [.matrix (paddedMatrix 2 0x55813e400080)] ⟨paddedWorld, .empty⟩).1 = .ok kernel ∧
    (kernel.run (Recording.backend singleRenderer) [.float64 (.ofInt 2), .float64 (.ofInt 3)]
        paddedWorld).2.own.launches =
      [(kernel.function.name, [8], [.scalar (.int32 8), .pointer 0x55813e400040,
        .scalar (.float64 (.ofInt 2)), .pointer 0x55813e400080, .scalar (.float64 (.ofInt 3))])] := by
  have htemplates : singleRenderer.templates.get? Combination.module = some Combination.template ∧
      singleRenderer.templates.get? Copy.module = some Copy.template := by
    simp only [singleRenderer, Renderer.ofTarget, TemplateLibrary.builtin, Builtin.templates,
      NameMap.ofList, List.foldl_cons, List.foldl_nil, NameMap.get?_insert]
    exact ⟨rfl, rfl⟩
  cases hkernel : ((Recording.backend singleRenderer).combination (.bank paddedBank)
      [.matrix (paddedMatrix 2 0x55813e400080)] ⟨paddedWorld, .empty⟩).1 with
  | error error =>
    have hgiven : ((Recording.backend singleRenderer).combination (.bank paddedBank)
        [.matrix (paddedMatrix 2 0x55813e400080)] ⟨paddedWorld, .empty⟩).1.isOk = true := by
      decide +kernel
    rw [hkernel] at hgiven
    cases hgiven
  | ok kernel =>
    refine ⟨kernel, rfl, ?_⟩
    have hcovers : CombinationCovers (Recording.backend singleRenderer) singleRenderer
        (.bank paddedBank) [.matrix (paddedMatrix 2 0x55813e400080)] kernel :=
      (launches_cover_operands htemplates.1 htemplates.2 paddedWorld []).1 _ _ kernel (by decide)
        paddedMatrices_stored hkernel
    obtain ⟨type, n, -, -, hruns⟩ := hcovers
    obtain ⟨y, xs, hy, hxs, hcovered, hrun⟩ :=
      hruns [.float64 (.ofInt 2), .float64 (.ofInt 3)] paddedWorld
    obtain ⟨rfl, hcount, -, -⟩ := hcovered y List.mem_cons_self
    cases hy
    cases hxs with
    | cons hx hnil =>
      cases hx
      cases hnil
      obtain rfl : n = 8 := UInt64.toNat_inj.mp hcount
      rcases hrun with ⟨hrefused, -⟩ | ⟨-, weight, weights, hargs, -, hrun⟩
      · exact absurd hrefused (by decide)
      · cases hargs
        change (kernel.run ((Recording.backend singleRenderer).rendering singleRenderer) _
          _).2.own.launches = _
        rw [hrun]
        rfl

end Elementwise

end KernelForge
