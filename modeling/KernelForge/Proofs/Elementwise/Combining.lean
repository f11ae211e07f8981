import KernelForge.Proofs.Elementwise.Overwriting
import KernelForge.Proofs.Provider.Rejections

/-!
# What linear combinations compute

A run with one factor for the result and one for each term is one launch, on the values that the
factors and the operands have at that point. On exact numbers, the launch leaves the weighted sum in
every element of the result, padding included, whether or not the result is also one of the terms. A
run with any other number of factors is refused. A kernel is never changed, so that no run depends on
the runs before it.
-/

namespace KernelForge

open Code Builtin

namespace Elementwise

/-! ### Sums -/

section Sums

variable {R : Type} [Ring R]

/-- Memory after a combination: every element of the result, padding included, is the old one times
its factor, and the weighted sum of the elements of the terms, as they all were before. -/
structure WeightedSums (type : ElementType) (count : Nat) (y : Matrix) (weight : R)
    (terms : List (Matrix × R)) (before after : ExactMemory R) : Prop where
  memory_eq : after.memory = before.memory
  elements_eq : ∀ x < count, after.numbers (y.address.toNat + x * type.bytes) =
    weight * before.numbers (y.address.toNat + x * type.bytes) +
      (terms.map fun term => term.2 * before.numbers (term.1.address.toNat + x * type.bytes)).sum
  others_eq : ∀ address, (∀ x < count, address ≠ y.address.toNat + x * type.bytes) →
    after.numbers address = before.numbers address

/-- The total is a sum over the terms. -/
theorem total_eq_sum (width : Nat) (terms : List (Matrix × R)) (x : Nat) (m : ExactMemory R) :
    total width terms x m =
      (terms.map fun term => term.2 * m.numbers (term.1.address.toNat + x * width)).sum := by
  rw [total, List.sum_eq_foldl, List.foldl_map]

/-- Leaving out the old element if its factor is zero makes no difference to the sum. -/
theorem combined_eq_sum [DecidableEq R] (width : Nat) (y : Matrix) (weight : R)
    (terms : List (Matrix × R)) (x : Nat) (m : ExactMemory R) :
    combined width y weight terms x m = weight * m.numbers (y.address.toNat + x * width) +
      (terms.map fun term => term.2 * m.numbers (term.1.address.toNat + x * width)).sum := by
  rw [combined, total_eq_sum]
  by_cases hzero : weight = 0
  · rw [if_pos hzero, hzero, zero_mul, zero_add]
  · rw [if_neg hzero]

/-- Different places of two matrices have different addresses: the matrices are in one allocation
and have the same elements, or have no address in common. -/
theorem address_ne_of_ne {type : ElementType} {count x x' : Nat} {y z : Matrix} {memory : Memory}
    (hmemory : memory.WellFormed) (hy : y.CoveredBy type count ∧ memory.Holds y.storage)
    (hz : z.CoveredBy type count ∧ memory.Holds z.storage) (hx : x < count) (hx' : x' < count)
    (hne : x ≠ x') : z.address.toNat + x * type.bytes ≠ y.address.toNat + x' * type.bytes := by
  have hpos := type.bytes_pos
  by_cases hindex : z.storage.index = y.storage.index
  · have hstorage : z.storage = y.storage := hz.2.eq_of_index hy.2 hindex
    have haddress : z.address = y.address := congrArg Allocation.address hstorage
    rw [haddress]
    exact (apart_elements hne).ne hpos hpos
  · exact (hmemory.apart_of_covers hz.2 hy.2 hindex (hz.1.inside x hx) (hy.1.inside x' hx')).ne
      hpos hpos

variable [DecidableEq R] {reading : Reading R} {order : Nat → List Nat} {limit : Nat}
  {type : ElementType} {kind : FloatKind} {n : UInt64} {m : ExactMemory R} {y : Matrix}

/-- On exact numbers, a combination leaves the weighted sums, in whatever order its iterations run. -/
theorem exists_weightedSums (hkind : type.cType = .float kind) (hn : n.toNat < twoPow 31)
    (horder : (order n.toNat).Perm (List.range n.toNat)) (hmemory : m.memory.WellFormed)
    (weight : Scalar) (xs : List (Matrix × Scalar))
    (hresult : y.CoveredBy type n.toNat ∧ m.memory.Holds y.storage)
    (hterms : ∀ x ∈ xs, x.1.CoveredBy type n.toNat ∧ m.memory.Holds x.1.storage) :
    ∃ m', Host.runExact reading order limit Combination.kernelName
        (Combination.arguments type xs.length) (Combination.body type xs.length)
        (combinationValues type n y weight xs) m = .ok m' ∧
      WeightedSums type n.toNat y (reading.factor kind (weight.cast type))
        (xs.map fun x => (x.1, reading.factor kind (x.2.cast type))) m m' := by
  have hbytes : type.bytes = kind.bytes := by
    cases type <;> cases hkind <;> rfl
  refine ⟨_, runExact_combination order kind n y hkind hbytes hn horder hmemory weight xs hresult
    hterms, ExactMemory.memory_putAll .., fun x hx => ?_, fun address haddress => ?_⟩
  · have hmem : x ∈ order n.toNat := horder.mem_iff.mpr (List.mem_range.mpr hx)
    have hlt : ∀ x' ∈ order n.toNat, x' < n.toNat := fun x' hx' =>
      List.mem_range.mp (horder.mem_iff.mp hx')
    have hnodup : ((order n.toNat).map fun x => y.address.toNat + x * type.bytes).Nodup := by
      refine (horder.nodup_iff.mpr List.nodup_range).map_on fun x hx x' hx' heq => ?_
      by_contra hne
      exact address_ne_of_ne hmemory hresult hresult (hlt x hx) (hlt x' hx') hne heq
    -- An element of the result is read by its own iteration only, so all that is read is old.
    have hold {now : ExactMemory R} {z : Matrix}
        (hnow : ∀ address, (∀ x' ∈ order n.toNat, y.address.toNat + x' * type.bytes ≠
          y.address.toNat + x * type.bytes → address ≠ y.address.toNat + x' * type.bytes) →
            now.numbers address = m.numbers address)
        (hz : z.CoveredBy type n.toNat ∧ m.memory.Holds z.storage) :
        now.numbers (z.address.toNat + x * type.bytes) =
          m.numbers (z.address.toNat + x * type.bytes) := by
      refine hnow _ fun x' hx' hother => address_ne_of_ne hmemory hresult hz hx (hlt x' hx') ?_
      rintro rfl
      exact hother rfl
    rw [← combined_eq_sum]
    refine ExactMemory.numbers_putAll_of_mem hmem hnodup fun now hnow => ?_
    rw [combined_eq_sum, combined_eq_sum, hold hnow hresult]
    refine congrArg (_ + List.sum ·) (List.map_congr_left fun term hterm => ?_)
    obtain ⟨entry, hentry, rfl⟩ := List.mem_map.mp hterm
    rw [hold hnow (hterms entry hentry)]
  · exact ExactMemory.numbers_putAll_of_ne fun x hx =>
      haddress x (List.mem_range.mp (horder.mem_iff.mp hx))

end Sums

/-! ### Requests -/

section Requests

variable {Fn σ : Type} {backend : Backend Fn σ} {renderer : Renderer}

/-- A function of a name is missing: it is just being built, or the backend refuses to build it. -/
def Missing (backend : Backend Fn σ) (name : String) (error : KernelError) : Prop :=
  (∃ cache, error = .reentrantBuild cache) ∨
    ∃ source slots world, (backend.build name source slots world).1 = .error error

/-- The module of combinations is rendered for any floating-point type and any number of terms. -/
theorem exists_renderKernel
    (htemplate : renderer.templates.get? Combination.module = some Combination.template)
    {type : ElementType} (hfloat : type.isFloat = true) {n : Nat} (hn : n < twoPow 63) :
    ∃ rendered, renderer.renderKernel Combination.kernelName Combination.module
      (params (countParams n) type) = .ok rendered := by
  have hparam := get?_floatType (countParams n) type
  have hlt : n < 2 ^ 64 := Nat.lt_trans hn (by decide)
  have hcount : (params (countParams n) type).count Combination.countParam = .ok n := by
    have hvalue : (UInt64.ofNat n).toNat = n := UInt64.toNat_ofNat_of_lt' hlt
    rw [Params.count_of_lt (get?_countParam n type) (by rwa [hvalue]), hvalue]
  have htype : (params (countParams n) type).floatType = .ok type := by
    rw [Params.floatType_of_get? hparam, if_pos hfloat]
  have hscript : renderer.script Combination.module (params (countParams n) type) =
      .ok (type, .declare Combination.kernelName 1 (Combination.arguments type n)
        (combinationText n type)) := by
    rw [Renderer.script, TemplateLibrary.find, htemplate, Renderer.complete_of_get? hparam]
    change (Params.floatType _ >>= fun floatType => _) = _
    rw [htype]
    change Except.ok (type, Script.withValue (Params.count _ _) _) = _
    rw [hcount]
    rfl
  refine ⟨⟨renderer.kernelText type Combination.kernelName (Combination.arguments type n)
    (combinationText n type), .ofArguments 1 (Combination.arguments type n)⟩, ?_⟩
  rw [Renderer.renderKernel, Renderer.renderModule, hscript]
  rfl

/-- A combination of operands of one layout of a floating-point type is given unless its function is
missing. -/
theorem failsOnly_combination
    (htemplate : renderer.templates.get? Combination.module = some Combination.template)
    {result : Operand} {terms : List Operand} {layout : Layout}
    (hresult : result.layout? = some layout) (hterms : ∀ term ∈ terms, term.layout? = some layout)
    (hfloat : layout.elementType.isFloat = true) (hcount : terms.length < twoPow 63) :
    FailsOnly (Missing backend Combination.kernelName)
      ((backend.rendering renderer).combination result terms) := by
  obtain ⟨rendered, hrendered⟩ := exists_renderKernel htemplate hfloat hcount
  have hrender : FailsOnly (Missing backend Combination.kernelName)
      (renderer.renderIn Combination.kernelName Combination.module
        (params (countParams terms.length) layout.elementType) : BackendM σ RenderedKernel) := by
    rw [Renderer.renderIn, hrendered]
    exact .pure rendered
  have hbuild (source : String) (slots : List SlotType) :
      FailsOnly (Missing backend Combination.kernelName)
        (backend.build Combination.kernelName source slots) :=
    fun world error herror => .inr ⟨source, slots, world, herror⟩
  have hmarked (cache : String) : Missing backend Combination.kernelName (.reentrantBuild cache) :=
    .inl ⟨cache, rfl⟩
  unfold Backend.combination
  rw [Backend.combinationLayout_of_layouts hresult hterms hfloat]
  change FailsOnly _ ((backend.rendering renderer).function Combination.kernelName
    Combination.module (params (countParams terms.length) layout.elementType) >>= fun _ => _)
  refine .bind ?_ fun _ => .pure _
  refine .bind (Session.renderSlot.failsOnly_request _ hmarked
    (Session.failsOnly_ofBackend hrender)) fun rendered => ?_
  refine .bind (Session.buildSlot.failsOnly_request _ hmarked
    (Session.failsOnly_ofBackend (hbuild _ _))) fun function => ?_
  exact .pure _

end Requests

/-! ### Runs -/

section Runs

variable {Fn σ : Type} {backend : Backend Fn σ} {renderer : Renderer}

/-- The code of a combination adds up a result and terms: on exact numbers of any ring it leaves the
weighted sums, in whatever order its iterations run. -/
def AddsUp (type : ElementType) (n : UInt64) (y : Matrix) (weight : Scalar)
    (xs : List (Matrix × Scalar)) : Prop :=
  ∀ (R : Type) [Ring R] [DecidableEq R] (reading : Reading R) (kind : FloatKind)
    (order : Nat → List Nat) (limit : Nat) (m : ExactMemory R), type.cType = .float kind →
    (order n.toNat).Perm (List.range n.toNat) → m.memory.WellFormed →
    (∀ z ∈ y :: xs.map Prod.fst, m.memory.Holds z.storage) →
      ∃ m', Host.runExact reading order limit Combination.kernelName
          (Combination.arguments type xs.length) (Combination.body type xs.length)
          (combinationValues type n y weight xs) m = .ok m' ∧
        WeightedSums type n.toNat y (reading.factor kind (weight.cast type))
          (xs.map fun x => (x.1, reading.factor kind (x.2.cast type))) m m'

/-- The code of a combination of so many terms does not read the old result if its factor is zero: on
every machine, it does what the code does that overwrites the result. -/
def OverwritesOnZero (type : ElementType) (n : Nat) : Prop :=
  ∀ (M : Machine) (ctx : Context M) (s : RunState M) (kind given : FloatKind) (weight : M.Real given)
    (count : Value M.Real) (target : CType) (a : Int) (rest : List (Value M.Real)),
    type.cType = .float kind → M.eq (M.convert kind weight) (M.ofInt kind 0) = true →
      Program.enter (Host.loopFunction Combination.kernelName (Combination.arguments type n)
          (Combination.body type n)) ctx
          (count :: .pointer target (.address a) :: .float given weight :: rest) s =
        Program.enter (Host.loopFunction Combination.kernelName (Combination.arguments type n)
          (overwriting type n)) ctx
          (count :: .pointer target (.address a) :: .float given weight :: rest) s

/-- What every run of a combination of operands of a layout does, whatever was run before: with one
factor for the result and one for each term, it launches the function once, on the matrices that the
operands stand for by then, which adds them up. With any other number of factors it is refused. -/
structure Combines (backend : Backend Fn σ) (renderer : Renderer) (layout : Layout) (result : Operand)
    (terms : List Operand) (kernel : CombinationKernel Fn) : Prop where
  built : Built backend renderer layout.elementType Combination.kernelName
    (Combination.arguments layout.elementType terms.length)
    (combinationText terms.length layout.elementType) kernel.function
  count_eq : layout.elements.toNat = layout.leading.toNat * layout.rows.toNat
  launched : ∀ (weight : Scalar) (weights : List Scalar) (now : World σ),
    weights.length = terms.length → ∃ y xs, result.matrixAt now.store = some y ∧
      List.Forall₂ (fun term x => term.matrixAt now.store = some x) terms xs ∧
      kernel.run (backend.rendering renderer) (weight :: weights) now =
        backend.launch kernel.function [layout.elements]
          (combinationValues layout.elementType layout.elements y weight (xs.zip weights)) now ∧
      AddsUp layout.elementType layout.elements y weight (xs.zip weights)
  refused : ∀ (args : List Scalar) (now : World σ), args.length ≠ 1 + terms.length →
    kernel.run (backend.rendering renderer) args now =
      (.error (.argumentMismatch (.coefficients (1 + terms.length) args.length)), now)

/-- A run with a wrong number of factors is refused, and nothing changes. -/
theorem run_of_length_ne (kernel : CombinationKernel Fn) {args : List Scalar}
    (h : args.length ≠ 1 + kernel.terms.length) (now : World σ) :
    kernel.run backend args now =
      (.error (.argumentMismatch (.coefficients (1 + kernel.terms.length) args.length)), now) := by
  cases args with
  | nil => rfl
  | cons weight weights =>
    have hne : weights.length ≠ kernel.terms.length := by
      rw [List.length_cons] at h
      omega
    simp only [CombinationKernel.run, if_neg hne]
    rfl

/-- What covers a result and terms is added up. -/
theorem addsUp_of_covered {type : ElementType} {n : UInt64} {y : Matrix} {xs : List Matrix}
    (hn : n.toNat < twoPow 31) (hy : y.CoveredBy type n.toNat)
    (hxs : ∀ x ∈ xs, x.CoveredBy type n.toNat) (weight : Scalar) (weights : List Scalar) :
    AddsUp type n y weight (xs.zip weights) := by
  intro R _ _ reading kind order limit m hkind horder hmemory hheld
  refine exists_weightedSums hkind hn horder hmemory weight (xs.zip weights)
    ⟨hy, hheld y List.mem_cons_self⟩ fun entry hentry => ⟨hxs _ (List.of_mem_zip hentry).1, ?_⟩
  exact hheld _ (List.mem_cons_of_mem _ (List.mem_map_of_mem hentry))

variable {result : Operand} {terms : List Operand} {layout : Layout}

/-- A combination that is given, after any calls, combines its operands. -/
theorem combines_of_given
    (htemplate : renderer.templates.get? Combination.module = some Combination.template)
    (hresult : result.layout? = some layout) (hwide : layout.leading.toNat * layout.rows.toNat < twoPow 31)
    (hcount : terms.length < twoPow 64) (hstored : ∀ operand ∈ result :: terms, operand.Stored)
    {world : World σ} {calls : List (Call σ)} {kernel : CombinationKernel Fn}
    (hkernel : ((backend.rendering renderer).combination result terms
      (History.after (backend.rendering renderer) world calls).session).1 = .ok kernel) :
    Combines backend renderer layout result terms kernel := by
  obtain ⟨found, hfound, hlayouts, -, hbuilt, hcontract, helements, htype, rfl, rfl⟩ :=
    combination_eq_ok htemplate hcount hkernel
  obtain rfl : layout = found := Option.some.inj (hresult.symm.trans hfound)
  have hcovered (store : Store) := (hstored _ List.mem_cons_self).exists_covered hresult store
  have hcountEq : layout.elements.toNat = layout.leading.toNat * layout.rows.toNat := by
    obtain ⟨y, -, rfl, hy⟩ := hcovered .empty
    exact hy.count_eq
  have hlt : layout.elements.toNat < twoPow 31 := by rwa [hcountEq]
  refine ⟨hbuilt, hcountEq, fun weight weights now hlength => ?_,
    fun args now hne => run_of_length_ne kernel hne now⟩
  obtain ⟨y, hy, -, hycovered⟩ := hcovered now.store
  obtain ⟨xs, hxs, hxscovered⟩ := exists_covered_terms
    (fun term hterm => hstored term (List.mem_cons_of_mem _ hterm)) hlayouts now.store
  refine ⟨y, xs, hy, hxs, ?_, addsUp_of_covered hlt hycovered hxscovered weight weights⟩
  have hrun := Obtained.run_eq_launch (backend.rendering renderer) (.combination kernel)
    (weight :: weights) now
  simp only [Obtained.run, Obtained.launch] at hrun
  rw [hrun, launch_combination (htype ▸ hcontract) hresult hlayouts hy hxs weight hlength, helements,
    htype, if_pos hlt]
  rfl

/-- A kernel that a caller got is the one that he goes on to run, whatever is called. -/
theorem call_run_of_given {forging : Backend Fn σ} {world : World σ} {calls : List (Call σ)}
    {kernel : CombinationKernel Fn}
    (hkernel : (forging.combination result terms (History.after forging world calls).session).1 =
      .ok kernel) (later : List (Call σ)) (args : List Scalar) :
    let now := History.after forging world (calls ++ .combination result terms :: later)
    now.call forging (.run (History.after forging world calls).kernels.length args) =
      now.perform (Session.ofBackend (kernel.run forging args)) := by
  intro now
  let before := History.after forging world calls
  have hgiven : (before.call forging (.combination result terms)).kernels =
      before.kernels ++ [.combination kernel] := by
    simp only [History.call, History.obtain]
    split
    · next given session hwork =>
      have hgiven : Except.ok given = Except.ok kernel := (congrArg Prod.fst hwork).symm.trans hkernel
      cases hgiven
      rfl
    · next error session hwork => cases (congrArg Prod.fst hwork).symm.trans hkernel
  have hnow : now = later.foldl (History.call forging)
      (before.call forging (.combination result terms)) := by
    change (calls ++ _ :: later).foldl _ _ = _
    rw [List.foldl_append, List.foldl_cons]
    rfl
  have hkept : before.kernels ++ [.combination kernel] <+: now.kernels := by
    rw [hnow, ← hgiven]
    exact History.kernels_calls _ later
  have hkernels : now.kernels[(History.after forging world calls).kernels.length]? =
      some (.combination kernel) := by
    obtain ⟨others, hothers⟩ := hkept
    rw [← hothers, List.append_assoc, List.getElem?_append_right (Nat.le_refl _), Nat.sub_self]
    rfl
  simp only [History.call, hkernels]
  rfl

end Runs

/-! ### A result that is one of the terms -/

/-- Numbers in the padded matrices: sevens in the last one, ones before. -/
def paddedNumbers : ExactMemory ℚ :=
  ⟨paddedMemory, fun address => if address < 0x55813e400080 then 1 else 7⟩

/-- A matrix, and the bank that is the result. -/
def paddedTerms : List Operand := [.matrix (paddedMatrix 2 0x55813e400080), .bank paddedBank]

end Elementwise

end KernelForge
