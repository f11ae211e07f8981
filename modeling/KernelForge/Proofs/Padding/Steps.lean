import KernelForge.Proofs.Exact.Elementwise
import KernelForge.Proofs.Exact.Packing
import KernelForge.Proofs.Packing.Restoring
import KernelForge.Proofs.Padding.Views

/-!
# Steps keep padding zero

Element-wise kernels run over padding: they compute zero there, since their operands have one layout
and so their padding at the same places. Products and packing kernels change elements of matrices only.
So every step of a session keeps all padding zero.
-/

namespace KernelForge

/-! ### Zeros -/

namespace Elementwise

variable {R : Type} [Ring R] {width x : Nat} {terms : List (Matrix × R)} {m : ExactMemory R}

/-- The weighted sum of zeros. -/
theorem total_eq_zero
    (h : ∀ term ∈ terms, m.numbers (term.1.address.toNat + x * width) = 0) :
    total width terms x m = 0 := by
  induction terms with
  | nil => rfl
  | cons term terms ih =>
    have hfirst := h term List.mem_cons_self
    rw [total, List.foldl_cons, hfirst, mul_zero, add_zero]
    exact ih fun other hother => h other (List.mem_cons_of_mem _ hother)

/-- A combination of zeros. -/
theorem combined_eq_zero [DecidableEq R] {y : Matrix} (weight : R)
    (hy : m.numbers (y.address.toNat + x * width) = 0)
    (h : ∀ term ∈ terms, m.numbers (term.1.address.toNat + x * width) = 0) :
    combined width y weight terms x m = 0 := by
  rw [combined, total_eq_zero h, hy, mul_zero, add_zero, ite_self]

end Elementwise

namespace Padding

variable {Fn σ R : Type} [Ring R]

namespace State

variable {s : State R}

/-! ### Operands -/

omit [Ring R] in
/-- An operand with a layout stands for a matrix of the session with this layout. -/
theorem Has.exists_matrixAt {operand : Operand} {layout : Layout} (h : s.Has operand)
    (hlayout : operand.layout? = some layout) (store : Store) :
    ∃ m ∈ s.matrices, operand.matrixAt store = some m ∧ m.layout = layout := by
  cases operand with
  | matrix m => exact ⟨m, h, rfl, Option.some.inj hlayout⟩
  | bank b =>
    obtain ⟨hmade, hmembers⟩ := h
    exact ⟨b.active store, hmembers _ (b.active_mem store), rfl,
      (hmade.uniform.layout_active store).trans (Option.some.inj hlayout)⟩
  | view _ | exchangeView _ | scalar _ | pointer _ => cases hlayout

omit [Ring R] in
/-- Terms of one layout stand for matrices of the session with this layout. -/
theorem exists_matricesAt {terms : List Operand} {layout : Layout} (h : ∀ term ∈ terms, s.Has term)
    (hlayouts : ∀ term ∈ terms, term.layout? = some layout) (store : Store) :
    ∃ xs, List.Forall₂ (fun term x => term.matrixAt store = some x) terms xs ∧
      ∀ x ∈ xs, x ∈ s.matrices ∧ x.layout = layout :=
  exists_forall₂ fun term hterm => by
    obtain ⟨x, hx, hmatrix, hlayout⟩ := (h term hterm).exists_matrixAt (hlayouts term hterm) store
    exact ⟨x, hmatrix, hx, hlayout⟩

/-- A matrix of the session is covered by the count of elements of its layout. -/
theorem Sound.coveredBy (h : s.Sound) {m : Matrix} {layout : Layout} (hm : m ∈ s.matrices)
    (hlayout : m.layout = layout) : m.CoveredBy layout.elementType layout.elements.toNat := by
  subst hlayout
  exact (h.owned m hm).coveredBy

variable [DecidableEq R] {w : Tools Fn σ R} {world : World σ} {calls : List (Call σ)}
  {selections : Array Nat} {launch : Launch Fn} {limit : Nat} {exact : ExactMemory R}

/-! ### Kernels -/

omit [DecidableEq R] in
/-- A combination is launched only with a factor for the result and each term. -/
theorem exists_weights {kernel : CombinationKernel Fn} {weights : List Scalar} {store : Store}
    (h : kernel.launch weights store = .ok launch) :
    ∃ weight rest, weights = weight :: rest ∧ rest.length = kernel.terms.length := by
  cases weights with
  | nil => cases h
  | cons weight rest =>
    refine ⟨weight, rest, rfl, ?_⟩
    by_contra hlength
    simp only [CombinationKernel.launch, if_neg hlength] at h
    cases h

/-- A combination that is launched puts weighted sums at the places of all entries of a matrix. Its
terms are matrices with the same layout. -/
theorem Sound.run_combination (h : s.Sound) (hw : w.Standard) {result : Operand}
    {terms : List Operand} {kernel : CombinationKernel Fn} {weights : List Scalar}
    (hhas : ∀ operand ∈ result :: terms, s.Has operand) (hcount : terms.length < twoPow 64)
    (hkernel : ((w.backend.rendering w.renderer).combination result terms
      (w.after world calls)).1 = .ok kernel)
    (hlaunch : kernel.launch weights ⟨s.exact.memory, selections⟩ = .ok launch)
    {order : Nat → List Nat} (horder : ∀ n, (order n).Perm (List.range n)) (limit : Nat) :
    ∃ (y : Matrix) (weight : R) (xs : List (Matrix × R)), y ∈ s.matrices ∧
      (∀ x ∈ xs, x.1 ∈ s.matrices ∧ x.1.layout = y.layout) ∧
      Host.runExact w.reading order limit Builtin.Combination.kernelName
          (Builtin.Combination.arguments kernel.elementType terms.length)
          (Builtin.Combination.body kernel.elementType terms.length) launch.values s.exact =
        .ok (s.exact.putAll (fun k => y.address.toNat + k * y.elementType.bytes)
          (Elementwise.combined y.elementType.bytes y weight xs)
          (order y.layout.elements.toNat)) := by
  obtain ⟨layout, hresult, hlayouts, hfloat, -, hcontract, helements, htype, rfl, rfl⟩ :=
    Elementwise.combination_eq_ok hw.combination hcount hkernel
  obtain ⟨kind, hkind, hbytes⟩ := ElementType.exists_floatKind hfloat
  obtain ⟨y, hy, hyAt, rfl⟩ := (hhas _ List.mem_cons_self).exists_matrixAt hresult
    ⟨s.exact.memory, selections⟩
  obtain ⟨xs, hxsAt, hxs⟩ := exists_matricesAt
    (fun term hterm => hhas term (List.mem_cons_of_mem _ hterm)) hlayouts
    ⟨s.exact.memory, selections⟩
  obtain ⟨weight, rest, rfl, hlength⟩ := exists_weights hlaunch
  rw [Elementwise.launch_combination (htype ▸ hcontract) hresult hlayouts hyAt hxsAt weight hlength]
    at hlaunch
  split at hlaunch
  swap
  · cases hlaunch
  next hsmall =>
  cases hlaunch
  rw [helements] at hsmall ⊢
  have hterms : ∀ x ∈ xs.zip rest, x.1 ∈ s.matrices ∧ x.1.layout = y.layout :=
    fun x hx => hxs x.1 (List.of_mem_zip hx).1
  have hzip : (xs.zip rest).length = kernel.terms.length := by
    rw [List.length_zip, ← hxsAt.length_eq, hlength, Nat.min_self]
  rw [← hzip, htype]
  refine ⟨y, _, (xs.zip rest).map fun x =>
    (x.1, w.reading.factor kind (x.2.cast y.layout.elementType)), hy, fun x hx => ?_,
    Elementwise.runExact_combination order kind y.layout.elements y hkind hbytes hsmall (horder _)
      h.wellFormed weight (xs.zip rest) ⟨h.coveredBy hy rfl, (h.owned y hy).held⟩
      fun x hx => ⟨h.coveredBy (hterms x hx).1 (hterms x hx).2, (h.owned _ (hterms x hx).1).held⟩⟩
  obtain ⟨entry, hentry, rfl⟩ := List.mem_map.mp hx
  exact hterms entry hentry

/-- A combination computes zero from padding. -/
theorem Sound.combination (h : s.Sound) (hw : w.Standard) {result : Operand} {terms : List Operand}
    {kernel : CombinationKernel Fn} {weights : List Scalar}
    (hhas : ∀ operand ∈ result :: terms, s.Has operand) (hcount : terms.length < twoPow 64)
    (hkernel : ((w.backend.rendering w.renderer).combination result terms
      (w.after world calls)).1 = .ok kernel)
    (hlaunch : kernel.launch weights ⟨s.exact.memory, selections⟩ = .ok launch)
    (hruns : w.Runs limit kernel.elementType (moduleTypeNames kernel.elementType)
      Builtin.Combination.kernelName
      (Builtin.Combination.arguments kernel.elementType terms.length)
      (Builtin.Combination.body kernel.elementType terms.length) launch s.exact exact) :
    (⟨exact, s.matrices, s.views⟩ : State R).Sound := by
  obtain ⟨order, horder, hrun⟩ := hruns.run
  obtain ⟨y, weight, xs, hy, hxs, hresult⟩ :=
    h.run_combination hw hhas hcount hkernel hlaunch horder limit
  cases hrun.symm.trans hresult
  refine h.putAll fun k hk hpadding now hnow => ?_
  have hlt : k < y.layout.elements.toNat := List.mem_range.mp ((horder _).mem_iff.mp hk)
  exact Elementwise.combined_eq_zero _ (hnow _ hpadding) fun x hx =>
    hnow _ (h.paddingAt_same hy (hxs x hx).1 (hxs x hx).2 hlt hpadding)

/-- A copy that is launched puts all entries of a matrix at the places of those of another one with the
same layout. -/
theorem Sound.run_copy (h : s.Sound) (hw : w.Standard) {target source : Operand} {layout : Layout}
    {kernel : BoundKernel Fn} (htarget : s.Has target) (hsource : s.Has source)
    (hlayout : target.layout? = some layout)
    (hkernel : ((w.backend.rendering w.renderer).copy target source (w.after world calls)).1 =
      .ok kernel)
    (hlaunch : kernel.launch [] ⟨s.exact.memory, selections⟩ = .ok launch)
    {order : Nat → List Nat} (horder : ∀ n, (order n).Perm (List.range n)) (limit : Nat) :
    ∃ dst src : Matrix, dst ∈ s.matrices ∧ src ∈ s.matrices ∧ src.layout = dst.layout ∧
      Host.runExact w.reading order limit Builtin.Copy.kernelName
          (Builtin.Copy.arguments layout.elementType) Builtin.Copy.body launch.values s.exact =
        .ok (s.exact.putAll (fun k => dst.address.toNat + k * dst.elementType.bytes)
          (fun k now => now.numbers (src.address.toNat + k * dst.elementType.bytes))
          (order dst.layout.elements.toNat)) := by
  obtain ⟨layout', htargetLayout, hsourceLayout, hfloat, -, hsmall, hfields⟩ :=
    Elementwise.copy_eq_ok hw.copy hkernel
  obtain rfl : layout' = layout := Option.some.inj (htargetLayout.symm.trans hlayout)
  obtain ⟨kind, hkind, hbytes⟩ := ElementType.exists_floatKind hfloat
  obtain ⟨dst, hdst, hdstAt, rfl⟩ := htarget.exists_matrixAt htargetLayout
    ⟨s.exact.memory, selections⟩
  obtain ⟨src, hsrc, hsrcAt, hsrcLayout⟩ := hsource.exists_matrixAt hsourceLayout
    ⟨s.exact.memory, selections⟩
  have hdstPointer := (Operand.fills_pointer htargetLayout "").2.2 _ dst hdstAt
  have hsrcPointer := (Operand.fills_pointer hsourceLayout "").2.2 _ src hsrcAt
  rw [hfields] at hlaunch
  cases hlaunch
  simp only [List.map_cons, List.map_nil, hdstPointer, hsrcPointer]
  exact ⟨dst, src, hdst, hsrc, hsrcLayout, Elementwise.runExact_copy hkind hbytes hsmall (horder _)
    h.wellFormed (h.coveredBy hdst rfl) (h.coveredBy hsrc hsrcLayout)
    ⟨(h.owned dst hdst).held, (h.owned src hsrc).held⟩⟩

/-- A copy takes padding to padding. -/
theorem Sound.copy (h : s.Sound) (hw : w.Standard) {target source : Operand} {layout : Layout}
    {kernel : BoundKernel Fn} (htarget : s.Has target) (hsource : s.Has source)
    (hlayout : target.layout? = some layout)
    (hkernel : ((w.backend.rendering w.renderer).copy target source (w.after world calls)).1 =
      .ok kernel)
    (hlaunch : kernel.launch [] ⟨s.exact.memory, selections⟩ = .ok launch)
    (hruns : w.Runs limit layout.elementType [] Builtin.Copy.kernelName
      (Builtin.Copy.arguments layout.elementType) Builtin.Copy.body launch s.exact exact) :
    (⟨exact, s.matrices, s.views⟩ : State R).Sound := by
  obtain ⟨order, horder, hrun⟩ := hruns.run
  obtain ⟨dst, src, hdst, hsrc, hlayouts, hresult⟩ :=
    h.run_copy hw htarget hsource hlayout hkernel hlaunch horder limit
  cases hrun.symm.trans hresult
  refine h.putAll fun k hk hpadding now hnow => ?_
  have hlt : k < dst.layout.elements.toNat := List.mem_range.mp ((horder _).mem_iff.mp hk)
  exact hnow _ (h.paddingAt_same hdst hsrc hlayouts hlt hpadding)

omit [DecidableEq R] in
/-- Memory in which numbers of elements of a product changed at most. -/
theorem Sound.onlyResult (h : s.Sound) {a b out : Matrix} {alpha beta : Binary64}
    (hout : out ∈ s.matrices) (haccepted : Product.Accepted a b out)
    (honly : (ProductCall.ofOperands a b out alpha beta).OnlyResult a.elementType.bytes s.exact
      exact) : (⟨exact, s.matrices, s.views⟩ : State R).Sound := by
  refine h.numbers honly.memory_eq fun address hpadding => ?_
  rw [honly.numbers_eq address fun i hi j hj heq => ?_]
  · exact h.zero address hpadding
  · subst heq
    have hrow : i < out.layout.rows.toNat := haccepted.rows_eq ▸ hi
    have hcolumn : j < out.layout.columns.toNat := haccepted.columns_eq ▸ hj
    rw [← haccepted.types.2] at hpadding
    exact h.not_paddingAt ⟨out, hout, i, j, hrow, hcolumn, rfl⟩ hpadding

omit [DecidableEq R] in
/-- A direct product changes elements only. -/
theorem Sound.direct (h : s.Sound) (hw : w.Standard) {a b out : Matrix} {alpha beta : Binary64}
    {kernel : Host.VendorProduct} (hout : out ∈ s.matrices)
    (hkernel : ((⟨.vendor, w.routines⟩ : Host.Algebra).product (w.backend.rendering w.renderer)
      a b out alpha beta (w.after world calls)).1 = .ok (.vendor kernel))
    (hrun : Product.runDirect w.reading w.multiply kernel s.exact = some exact) :
    (⟨exact, s.matrices, s.views⟩ : State R).Sound := by
  obtain ⟨shape, session, hchecked, hrest⟩ := ok_of_bind_fst hkernel
  have hshape : Host.ProductShape.ofOperands a b out = .ok shape := congrArg Prod.fst hchecked
  obtain ⟨haccepted, rfl⟩ := Host.ProductShape.ofOperands_eq_ok hshape
  cases hrest
  exact h.onlyResult hout haccepted (Product.runDirect_onlyResult hw.multiply haccepted hrun)

/-- A shared product changes elements only. -/
theorem Sound.shared (h : s.Sound) (hw : w.Standard) {a b out : Matrix} {alpha beta : Binary64}
    {kernel : BoundKernel Fn} {order : Nat → List Nat} {team : Nat} (hout : out ∈ s.matrices)
    (hkernel : ((⟨.partitioned, w.routines⟩ : Host.Algebra).product
      (w.backend.rendering w.renderer) a b out alpha beta (w.after world calls)).1 =
        .ok (.partitioned kernel))
    (hlaunch : kernel.launch [] ⟨s.exact.memory, selections⟩ = .ok launch) (hteam : 0 < team)
    (hrun : Product.runExactShared w.reading order team (w.routines.product a.elementType)
      w.multiply a.elementType launch.values s.exact = .ok exact) :
    (⟨exact, s.matrices, s.views⟩ : State R).Sound := by
  obtain ⟨-, haccepted, hshares⟩ := Product.partitioned_eq_ok hw.product hkernel
  have hvalues := (hshares.launch ⟨s.exact.memory, selections⟩).symm.trans hlaunch
  cases hvalues
  obtain ⟨exact', hresult, honly⟩ := Product.runExactShared_onlyResult hw.multiply haccepted hteam
  cases hresult.symm.trans hrun
  exact h.onlyResult hout haccepted honly

/-- Packing changes elements of the exchange matrix only. -/
theorem Sound.pack (h : s.Sound) (hw : w.Standard) {v : ExchangeView} {kernel : BoundKernel Fn}
    (hv : v ∈ s.views) (hkernel : Packing.Gives w.backend w.renderer Packing.pack v kernel)
    (hlaunch : kernel.launch [] ⟨s.exact.memory, selections⟩ = .ok launch)
    (hlimit : v.view.rows.toNat < limit ∧ v.view.columns.toNat < limit)
    (hruns : w.Runs limit v.view.elementType [] Builtin.Packing.packKernelName
      (Builtin.Packing.arguments v.view.elementType .input .output)
      (Builtin.Packing.packBody v.view.rows.toNat v.view.columns.toNat) launch s.exact exact) :
    (⟨exact, s.matrices, s.views⟩ : State R).Sound := by
  obtain ⟨placed, hshows⟩ := h.views v hv
  obtain ⟨hfloat, hsmall, hloops⟩ := hkernel.pack hw.pack
    (hshows.stands.records.toNat_count h.wellFormed) hshows.shaped
  cases (hloops.launch ⟨s.exact.memory, selections⟩).symm.trans hlaunch
  obtain ⟨order, horder, hrun⟩ := hruns.run
  cases hrun.symm.trans (Packing.runExact_pack hfloat hsmall hlimit.1 hlimit.2 (horder _)
    hshows.stands)
  refine h.putAll fun e he hpadding => absurd hpadding (h.not_paddingAt ?_)
  have hhas : v.Has e := (ExchangeView.mem_elements (horder _)).mp he
  exact hshows.elementAt_exchange hhas

/-- Unpacking changes elements of the blocks of the view only. -/
theorem Sound.unpack (h : s.Sound) (hw : w.Standard) {v : ExchangeView} {kernel : BoundKernel Fn}
    (hv : v ∈ s.views) (hkernel : Packing.Gives w.backend w.renderer Packing.unpack v kernel)
    (hlaunch : kernel.launch [] ⟨s.exact.memory, selections⟩ = .ok launch)
    (hlimit : v.view.rows.toNat < limit ∧ v.view.columns.toNat < limit)
    (hruns : w.Runs limit v.view.elementType [] Builtin.Packing.unpackKernelName
      (Builtin.Packing.arguments v.view.elementType .output .input)
      (Builtin.Packing.unpackBody v.view.rows.toNat v.view.columns.toNat) launch s.exact exact) :
    (⟨exact, s.matrices, s.views⟩ : State R).Sound := by
  obtain ⟨placed, hshows⟩ := h.views v hv
  obtain ⟨hfloat, hsmall, hloops⟩ := hkernel.unpack hw.unpack
    (hshows.stands.records.toNat_count h.wellFormed) hshows.shaped
  cases (hloops.launch ⟨s.exact.memory, selections⟩).symm.trans hlaunch
  obtain ⟨order, horder, hrun⟩ := hruns.run
  cases hrun.symm.trans (Packing.runExact_unpack hfloat hsmall hlimit.1 hlimit.2 (horder _)
    hshows.stands)
  refine h.putAll fun e he hpadding => absurd hpadding (h.not_paddingAt ?_)
  exact hshows.element e ((ExchangeView.mem_elements (horder _)).mp he)

end State

/-! ### Steps -/

variable [DecidableEq R] {w : Tools Fn σ R} {s s' : State R}

/-- Every step keeps all padding zero. -/
theorem State.Sound.step (h : s.Sound) (hw : w.Standard) (hstep : Step w s s') : s'.Sound := by
  cases hstep with
  | create hcreate =>
    have hallocate := (Matrix.create_eq_ok_iff.mp hcreate).2
    have howned := Matrix.owned_of_create hw.allocator h.wellFormed hcreate
    exact h.insert w.reading (Matrix.cleared_of_allocate h.wellFormed hallocate howned) howned
      (Nat.le_of_eq (h.wellFormed.added hallocate).index_eq.symm)
  | view hmatrices hcreate =>
    exact h.insertExchange w.reading hmatrices (ExchangeView.fresh_of_create hw.allocator h.wellFormed
      (fun m hm => h.owned m (hmatrices m hm)) hcreate)
  | set hm hset =>
    exact h.write w.reading hm ((h.owned _ hm).cleared_of_set h.wellFormed hset)
  | fill hm hfill =>
    exact h.write w.reading hm ((h.owned _ hm).cleared_of_fill h.wellFormed hfill)
  | combination hhas hcount hkernel hlaunch hruns =>
    exact h.combination hw hhas hcount hkernel hlaunch hruns
  | copy htarget hsource hlayout hkernel hlaunch hruns =>
    exact h.copy hw htarget hsource hlayout hkernel hlaunch hruns
  | direct hmatrices hkernel hrun =>
    exact h.direct hw (hmatrices _ (by simp)) hkernel hrun
  | shared hmatrices hkernel hlaunch _ hteam _ hrun =>
    exact h.shared hw (hmatrices _ (by simp)) hkernel hlaunch hteam hrun
  | pack hv hkernel hlaunch hlimit hruns => exact h.pack hw hv hkernel hlaunch hlimit hruns
  | unpack hv hkernel hlaunch hlimit hruns => exact h.unpack hw hv hkernel hlaunch hlimit hruns

/-- All padding is zero in every state that a session comes to. -/
theorem Reached.sound (hw : w.Standard) (hreached : Reached w s) : s.Sound := by
  obtain ⟨numbers, hsteps⟩ := hreached
  induction hsteps with
  | refl => exact State.sound_start numbers
  | tail _ hstep ih =>
    exact ih.step hw hstep

end Padding

end KernelForge
