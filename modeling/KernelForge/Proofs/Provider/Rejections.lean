import KernelForge.Kernel.Recording
import KernelForge.Proofs.Elementwise.Covering
import KernelForge.Proofs.Host.Work
import KernelForge.Proofs.Product.Agreement
import KernelForge.Proofs.Provider.Expanding

/-!
# Operands that are refused

Element-wise kernels are given for matrices and banks of one layout and a floating-point type, products
for matrices of one such type whose sizes fit together and into values of type `int`. All of this is
checked before anything is registered, rendered or built, and nothing that comes later fails with an
error of the same kind.
-/

namespace KernelForge

variable {Fn σ : Type}

/-- Layouts or types that do not go together are blamed on operands. -/
theorem KernelError.rejects_traits (fault : TraitFault) : (incompatibleTraits fault).Rejects := rfl

/-- So are sizes. -/
theorem KernelError.rejects_shape (fault : ShapeFault) : (incompatibleShape fault).Rejects := rfl

/-- An error that blames no operands is not about layouts or types. -/
theorem KernelError.IsOther.not_ofTraits {error : KernelError} (h : error.IsOther) :
    ¬error.OfTraits := by
  intro hkind
  have htrue := hkind.isRejection
  rw [h] at htrue
  cases htrue

/-- Work that blames no operands does not fail because of layouts or types. -/
theorem FailsOnly.not_ofTraits {S α : Type} {work : ExceptT KernelError (StateM S) α}
    (h : FailsOnly KernelError.IsOther work) : FailsOnly (fun error => ¬error.OfTraits) work :=
  h.mono fun _ => KernelError.IsOther.not_ofTraits

/-! ### Parts that do not look at operands -/

/-- A backend that never blames operands for a failure: it does not get to see them before it is to
launch. -/
structure Backend.NeverRejects (backend : Backend Fn σ) : Prop where
  render : ∀ name module params, FailsOnly KernelError.IsOther (backend.render name module params)
  build : ∀ name source slots, FailsOnly KernelError.IsOther (backend.build name source slots)

/-- Rendering does not see operands. -/
theorem Renderer.failsOnly_renderIn (renderer : Renderer) (name module : String) (params : Params) :
    FailsOnly KernelError.IsOther
      (renderer.renderIn name module params : BackendM σ RenderedKernel) := by
  unfold renderIn
  cases renderer.renderKernel name module params with
  | ok rendered => exact .pure rendered
  | error error => exact .throw rfl

/-- The function of a kernel is not refused for its operands. -/
theorem Backend.NeverRejects.function {backend : Backend Fn σ} (h : backend.NeverRejects)
    (name module : String) (params : Params) :
    FailsOnly KernelError.IsOther (backend.function name module params) := by
  have hmarked : ∀ cache, (KernelError.reentrantBuild cache).IsOther := fun _ => rfl
  refine .bind (Session.renderSlot.failsOnly_request _ hmarked
    (Session.failsOnly_ofBackend (h.render name module params))) fun rendered => ?_
  refine .bind (Session.buildSlot.failsOnly_request _ hmarked
    (Session.failsOnly_ofBackend (h.build name _ _))) fun function => ?_
  exact .pure _

/-- Binding operands fails only because of the argument list or the dimensions. -/
theorem Backend.refuses_bind (function : Fn) (contract : Contract) (dims : List UInt64)
    (operands : Operands) :
    Refuses KernelError.IsOther (Backend.bind function contract dims operands) := by
  have harguments := (BoundArgument.refuses_list dims contract operands).mono fun _ h => h.isOther
  refine .bind harguments fun args => ?_
  unfold BoundKernel.create
  split
  · exact .ok _
  · exact .error rfl

/-! ### Operands of element-wise kernels -/

namespace Elementwise

/-- Operands of an element-wise kernel do not go together: one of them is neither a matrix nor a bank,
or has another layout than the first one, or their elements are not floating-point numbers. -/
def Disagree (first : Operand) (others : List Operand) : Prop :=
  (∃ operand ∈ first :: others,
    (∀ m, operand ≠ .matrix m) ∧ ∀ b, operand ≠ .bank b) ∨
  (∃ operand ∈ others, operand.layout? ≠ first.layout?) ∨
  ∃ layout, first.layout? = some layout ∧ layout.elementType.isFloat = false

end Elementwise

/-- Matrices and banks are the operands that have a layout. -/
theorem Operand.layout?_eq_none {operand : Operand} :
    operand.layout? = none ↔ (∀ m, operand ≠ .matrix m) ∧ ∀ b, operand ≠ .bank b := by
  cases operand <;> simp [layout?]

namespace Elementwise

/-- All other operands have one layout of a floating-point type. -/
theorem not_disagree_iff {first : Operand} {others : List Operand} : ¬Disagree first others ↔
    ∃ layout, first.layout? = some layout ∧ (∀ other ∈ others, other.layout? = some layout) ∧
      layout.elementType.isFloat = true := by
  simp only [Disagree, ← Operand.layout?_eq_none]
  constructor
  · intro h
    simp only [not_or, not_exists, not_and, not_not] at h
    obtain ⟨hmatrices, hsame, hfloat⟩ := h
    obtain ⟨layout, hlayout⟩ := Option.ne_none_iff_exists'.mp (hmatrices first List.mem_cons_self)
    refine ⟨layout, hlayout, fun other hother => ?_, ?_⟩
    · rw [hsame other hother, hlayout]
    · exact Bool.not_eq_false _ ▸ hfloat layout hlayout
  · rintro ⟨layout, hlayout, hothers, hfloat⟩ (⟨operand, hmem, hnone⟩ | ⟨operand, hmem, hne⟩ | hfixed)
    · rcases List.mem_cons.mp hmem with rfl | hmem
      · rw [hlayout] at hnone
        cases hnone
      · rw [hothers operand hmem] at hnone
        cases hnone
    · exact hne ((hothers operand hmem).trans hlayout.symm)
    · obtain ⟨other, hother, hfixed⟩ := hfixed
      rw [hlayout] at hother
      cases hother
      rw [hfloat] at hfixed
      cases hfixed

end Elementwise

namespace Operand

variable {operand : Operand} {layout : Layout}

/-- A layout that an operand has can be required of it. -/
theorem requireLayout_of_layout? (h : operand.layout? = some layout) :
    operand.requireLayout = .ok layout := by
  rw [requireLayout, h]

/-- An operand without a layout is refused as one of the wrong kind. -/
theorem refuses_requireLayout (operand : Operand) :
    Refuses KernelError.OfTraits operand.requireLayout := by
  unfold requireLayout
  split
  · exact .ok _
  · exact .error ⟨_, rfl⟩

end Operand

namespace Layout

/-- Different layouts are refused as such. -/
theorem refuses_requireSame (layout other : Layout) (name reference : String) :
    Refuses KernelError.OfTraits (layout.requireSame other name reference) := by
  unfold requireSame
  split
  · exact .ok _
  · exact .error ⟨_, rfl⟩

/-- So are elements that are not floating-point numbers. -/
theorem refuses_requireFloat (layout : Layout) :
    Refuses KernelError.OfTraits layout.requireFloat := by
  unfold requireFloat
  split
  · exact .ok _
  · exact .error ⟨_, rfl⟩

end Layout

namespace Backend

/-- The check of a combination blames nothing but layouts and types. -/
theorem refuses_combinationLayout (result : Operand) (terms : List Operand) :
    Refuses KernelError.OfTraits (combinationLayout result terms) := by
  refine .bind result.refuses_requireLayout fun layout => ?_
  refine .bind (.forM fun term => ?_) fun _ => .bind layout.refuses_requireFloat fun _ => .ok _
  exact .bind term.1.refuses_requireLayout fun other => layout.refuses_requireSame other _ _

/-- Nor does the check of a copy. -/
theorem refuses_copyLayout (target source : Operand) :
    Refuses KernelError.OfTraits (copyLayout target source) := by
  refine .bind target.refuses_requireLayout fun layout => ?_
  refine .bind source.refuses_requireLayout fun other => ?_
  exact .bind (layout.refuses_requireSame other _ _) fun _ => .bind layout.refuses_requireFloat fun _ => .ok _

end Backend

/-- A check fails if it does not succeed. -/
theorem exists_error_iff {ε α : Type} {check : Except ε α} :
    (∃ error, check = .error error) ↔ ¬∃ a, check = .ok a := by
  cases check with
  | error error => exact ⟨fun _ => nofun, fun _ => ⟨error, rfl⟩⟩
  | ok a => exact ⟨nofun, fun h => absurd ⟨a, rfl⟩ h⟩

/-- A check of every member succeeds if all of them pass. -/
theorem forM_eq_ok {ε α : Type} {work : α → Except ε Unit} {list : List α}
    (h : ∀ a ∈ list, work a = .ok ()) : list.forM work = .ok () := by
  induction list with
  | nil => rfl
  | cons first rest ih =>
    have hrest := ih fun a ha => h a (List.mem_cons_of_mem first ha)
    change (work first >>= fun _ => rest.forM work) = _
    rw [h first List.mem_cons_self]
    exact hrest

namespace Backend

variable {layout : Layout}

/-- Operands of one layout with floating-point elements pass the check of a combination. -/
theorem combinationLayout_of_layouts {result : Operand} {terms : List Operand}
    (hresult : result.layout? = some layout) (hterms : ∀ term ∈ terms, term.layout? = some layout)
    (hfloat : layout.elementType.isFloat = true) :
    combinationLayout result terms = .ok layout := by
  have hsame (name reference : String) : layout.requireSame layout name reference = .ok () :=
    if_pos rfl
  have hchecks : (terms.zipIdx.forM fun (entry : Operand × Nat) => do
      layout.requireSame (← entry.1.requireLayout) (Builtin.numbered "x" entry.2) "y") = .ok () := by
    refine forM_eq_ok fun entry hentry => ?_
    have hmem : entry.1 ∈ terms := List.fst_mem_of_mem_zipIdx hentry
    rw [Operand.requireLayout_of_layout? (hterms _ hmem)]
    exact hsame _ _
  have hnumbers : layout.requireFloat = .ok () := if_pos hfloat
  rw [combinationLayout, Operand.requireLayout_of_layout? hresult]
  change (terms.zipIdx.forM _ >>= fun _ => layout.requireFloat >>= fun _ => Except.ok layout) = _
  rw [hchecks, hnumbers]
  rfl

/-- The operands of a combination are refused exactly if they do not go together. -/
theorem combinationLayout_eq_error_iff {result : Operand} {terms : List Operand} :
    (∃ error, combinationLayout result terms = .error error) ↔
      Elementwise.Disagree result terms := by
  rw [exists_error_iff, ← not_iff_not, not_not, Elementwise.not_disagree_iff]
  constructor
  · rintro ⟨layout, hlayout⟩
    exact ⟨layout, combinationLayout_eq_ok hlayout⟩
  · rintro ⟨layout, hresult, hterms, hfloat⟩
    exact ⟨layout, combinationLayout_of_layouts hresult hterms hfloat⟩

/-- So are the operands of a copy. -/
theorem copyLayout_eq_error_iff {target source : Operand} :
    (∃ error, copyLayout target source = .error error) ↔
      Elementwise.Disagree target [source] := by
  rw [exists_error_iff, ← not_iff_not, not_not, Elementwise.not_disagree_iff]
  simp only [List.mem_singleton, forall_eq]
  constructor
  · rintro ⟨layout, hlayout⟩
    exact ⟨layout, copyLayout_eq_ok hlayout⟩
  · rintro ⟨layout, htarget, hsource, hfloat⟩
    have hsame : layout.requireSame layout "src" "dst" = .ok () := if_pos rfl
    have hnumbers : layout.requireFloat = .ok () := if_pos hfloat
    refine ⟨layout, ?_⟩
    rw [copyLayout, Operand.requireLayout_of_layout? htarget,
      Operand.requireLayout_of_layout? hsource]
    change (layout.requireSame layout "src" "dst" >>= fun _ => layout.requireFloat >>= fun _ =>
      Except.ok layout) = _
    rw [hsame, hnumbers]
    rfl

variable {backend : Backend Fn σ}

/-- A combination is refused exactly if its operands do not go together, before anything happens. -/
theorem NeverRejects.combination (h : backend.NeverRejects) (result : Operand)
    (terms : List Operand) :
    Session.RefusedIf (backend.combination result terms) KernelError.OfTraits
      (Elementwise.Disagree result terms) := by
  refine .of_check (refuses_combinationLayout result terms) combinationLayout_eq_error_iff
    fun layout => FailsOnly.not_ofTraits ?_
  refine (h.function _ _ _).bind fun ⟨function, contract⟩ => ?_
  exact .pure _

/-- So is a copy. -/
theorem NeverRejects.copy (h : backend.NeverRejects) (target source : Operand) :
    Session.RefusedIf (backend.copy target source) KernelError.OfTraits
      (Elementwise.Disagree target [source]) := by
  refine .of_check (refuses_copyLayout target source) copyLayout_eq_error_iff
    fun layout => FailsOnly.not_ofTraits ?_
  refine (h.function _ _ _).bind fun ⟨function, contract⟩ => ?_
  exact Session.failsOnly_ofExcept (refuses_bind _ _ _ _)

end Backend

/-! ### Operands of products -/

namespace Product

/-- The sizes that the routine gets as values of type `int`. -/
def sizes (a b out : Matrix) : List UInt64 :=
  [a.layout.rows, b.layout.columns, a.layout.columns, a.layout.leading, b.layout.leading,
    out.layout.leading]

/-- Operands that no product is given for: the left one is not dense, their types are not one
floating-point type, their sizes do not fit together, or one of the sizes is no value of type `int`. -/
def Unfit (a b out : Matrix) : Prop :=
  a.layout.density ≠ .dense ∨
  ¬(a.elementType.isFloat = true ∧ b.elementType = a.elementType ∧ out.elementType = a.elementType) ∨
  ¬(a.layout.rows = out.layout.rows ∧ a.layout.columns = b.layout.rows ∧
    b.layout.columns = out.layout.columns) ∨
  ∃ size ∈ sizes a b out, twoPow 31 ≤ size.toNat

variable {a b out : Matrix}

/-- Operands are fit if the left one is dense and a product of their sizes is accepted. -/
theorem not_unfit_iff :
    ¬Unfit a b out ↔ a.layout.density = .dense ∧ Accepted a b out := by
  rw [Unfit, not_or, not_or, not_or, not_not, not_not, not_not]
  simp only [sizes, not_exists, not_and, Nat.not_le, List.forall_mem_cons]
  constructor
  · rintro ⟨hdense, ⟨hfloat, hb, hout⟩, ⟨hrows, hinner, hcolumns⟩, hm, hn, hk, hA, hB, hC, -⟩
    exact ⟨hdense, hfloat, ⟨hb, hout⟩, hrows, hinner, hcolumns, ⟨hm, hn, hk⟩, ⟨hA, hB, hC⟩⟩
  · rintro ⟨hdense, hfloat, htypes, hrows, hinner, hcolumns, ⟨hm, hn, hk⟩, ⟨hA, hB, hC⟩⟩
    exact ⟨hdense, ⟨hfloat, htypes⟩, ⟨hrows, hinner, hcolumns⟩, hm, hn, hk, hA, hB, hC,
      fun _ h => absurd h List.not_mem_nil⟩

end Product

namespace Host

/-- A size that is no `int` is blamed on the operands. -/
theorem refuses_sizeInt32 (what : String) (n : UInt64) :
    Refuses KernelError.Rejects (sizeInt32 what n) := by
  unfold sizeInt32
  split
  · exact .ok _
  · exact .error (KernelError.rejects_shape _)

/-- A size below `2 ^ 31` is one. -/
theorem sizeInt32_of_lt {n : UInt64} (h : n.toNat < twoPow 31) (what : String) :
    sizeInt32 what n = .ok (.ofNat n.toNat) := if_pos h

namespace ProductShape

variable {a b out : Matrix}

/-- The check of a product blames operands whenever it fails. -/
theorem refuses_ofOperands (a b out : Matrix) :
    Refuses KernelError.Rejects (ofOperands a b out) := by
  simp only [ofOperands]
  split
  · exact .throw_bind (KernelError.rejects_traits _) _
  split
  swap
  · exact .throw_bind (KernelError.rejects_traits _) _
  split
  swap
  · exact .throw_bind (KernelError.rejects_shape _) _
  refine .bind (refuses_sizeInt32 _ _) fun rows => .bind (refuses_sizeInt32 _ _) fun columns => ?_
  refine .bind (refuses_sizeInt32 _ _) fun inner => .bind (refuses_sizeInt32 _ _) fun leadingA => ?_
  refine .bind (refuses_sizeInt32 _ _) fun leadingB => ?_
  exact .bind (refuses_sizeInt32 _ _) fun leadingOut => .ok _

/-- The left operand of a product that has a shape is dense. -/
theorem density_of_ofOperands {shape : ProductShape} (h : ofOperands a b out = .ok shape) :
    a.layout.density = .dense := by
  simp only [ofOperands] at h
  split at h
  · cases h
  · next hdense => exact Decidable.not_not.mp hdense

/-- A product of dense and accepted operands has a shape. -/
theorem ofOperands_of_accepted (hdense : a.layout.density = .dense)
    (h : Product.Accepted a b out) : ofOperands a b out = .ok (ofLayouts a b out) := by
  have htypes : (a.elementType.isFloat && b.elementType = a.elementType &&
      out.elementType = a.elementType) = true := by
    simp [h.isFloat, h.types.1, h.types.2]
  have hsizes : (a.layout.rows = out.layout.rows && a.layout.columns = b.layout.rows &&
      b.layout.columns = out.layout.columns) = true := by
    simp [h.rows_eq, h.inner_eq, h.columns_eq]
  unfold ofOperands
  rw [if_neg (not_not.mpr hdense)]
  simp only []
  rw [if_pos htypes, if_pos hsizes]
  simp only [sizeInt32_of_lt h.sizes_lt.1, sizeInt32_of_lt h.sizes_lt.2.1,
    sizeInt32_of_lt h.sizes_lt.2.2, sizeInt32_of_lt h.leading_lt.1,
    sizeInt32_of_lt h.leading_lt.2.1, sizeInt32_of_lt h.leading_lt.2.2]
  rfl

/-- The operands of a product are refused exactly if they are unfit. -/
theorem ofOperands_eq_error_iff :
    (∃ error, ofOperands a b out = .error error) ↔ Product.Unfit a b out := by
  rw [exists_error_iff, ← not_iff_not, not_not, Product.not_unfit_iff]
  constructor
  · rintro ⟨shape, hshape⟩
    exact ⟨density_of_ofOperands hshape, (ofOperands_eq_ok hshape).1⟩
  · rintro ⟨hdense, haccepted⟩
    exact ⟨_, ofOperands_of_accepted hdense haccepted⟩

end ProductShape

end Host

/-- A product is refused exactly if its operands are unfit, before anything happens. -/
theorem Backend.NeverRejects.product {backend : Backend Fn σ} (h : backend.NeverRejects)
    (algebra : Host.Algebra) (a b out : Matrix) (alpha beta : Binary64) :
    Session.RefusedIf (algebra.product backend a b out alpha beta)
      KernelError.Rejects (Product.Unfit a b out) := by
  refine .of_check (Host.ProductShape.refuses_ofOperands a b out)
    Host.ProductShape.ofOperands_eq_error_iff fun shape => ?_
  simp only [Bool.not_eq_true]
  cases algebra.strategy with
  | vendor => exact .pure _
  | partitioned =>
    refine (h.function _ _ _).bind fun ⟨function, contract⟩ => ?_
    exact (Session.failsOnly_ofExcept (Backend.refuses_bind _ _ _ _)).bind fun _ => .pure _

/-! ### Backends -/

/-- A recording backend fails only as it was told to. -/
theorem Recording.neverRejects (renderer : Renderer) : (backend renderer).NeverRejects where
  render := renderer.failsOnly_renderIn
  build name source slots := by
    refine FailsOnly.get.bind fun world => ?_
    simp only []
    split
    · exact (FailsOnly.modify _).bind fun _ => .throw rfl
    · exact (FailsOnly.modify _).bind fun _ => .pure _

namespace Host

/-- The host fails to build for reasons of its own. -/
theorem neverRejects (renderer : Renderer) : (backend renderer).NeverRejects where
  render := renderer.failsOnly_renderIn
  build name source slots := (apart_build renderer name source slots).failsOnly

end Host

/-! ### Refusals -/

/-- Operands that do not go together are refused before anything happens, whatever happened before. A
combination or a copy fails because of layouts or types if and only if its operands disagree, on every
backend that never blames operands, such as the recording one and that of the host; a product of the
host fails because of layouts, types or sizes if and only if its operands are unfit. Then nothing at all
has changed: no name, no cache, nothing that the backend keeps, and no memory. How products are computed
makes no difference to what is refused. -/
theorem refused_before_anything (renderer : Renderer) :
    (∀ (Fn σ : Type) (backend : Backend Fn σ), backend.NeverRejects →
      (∀ result terms, Session.RefusedIf (backend.combination result terms) KernelError.OfTraits
        (Elementwise.Disagree result terms)) ∧
      ∀ target source, Session.RefusedIf (backend.copy target source) KernelError.OfTraits
        (Elementwise.Disagree target [source])) ∧
    (Recording.backend renderer).NeverRejects ∧ (Host.backend renderer).NeverRejects ∧
    (∀ (algebra : Host.Algebra) a b out alpha beta,
      Session.RefusedIf (algebra.product (Host.backend renderer) a b out alpha beta)
        KernelError.Rejects (Product.Unfit a b out)) ∧
    ∀ a b out, Product.Unfit a b out → ∃ error : KernelError, error.Rejects ∧
      ∀ (algebra : Host.Algebra) alpha beta s,
        algebra.product (Host.backend renderer) a b out alpha beta s = (.error error, s) := by
  refine ⟨fun Fn σ backend h => ⟨h.combination, h.copy⟩, Recording.neverRejects renderer,
    Host.neverRejects renderer, (Host.neverRejects renderer).product, fun a b out hunfit => ?_⟩
  obtain ⟨error, herror⟩ := Host.ProductShape.ofOperands_eq_error_iff.mpr hunfit
  have hrejects : error.Rejects := Host.ProductShape.refuses_ofOperands a b out error herror
  refine ⟨error, hrejects, fun algebra alpha beta s => ?_⟩
  have hchecked : (Session.ofExcept (Host.ProductShape.ofOperands a b out) :
      SessionM Host.HostFunction Host.State _) s = (.error error, s) := congrArg (·, s) herror
  exact bind_of_error hchecked

/-- A number is no term of a combination, also after a combination was built; and a matrix of three
columns is not multiplied by one of two rows. -/
theorem numberTerm_refused :
    let backend := Recording.backend Elementwise.singleRenderer
    let s := (History.after backend Elementwise.paddedWorld
      [.combination (.bank Elementwise.paddedBank)
        [.matrix (Elementwise.paddedMatrix 2 0x55813e400080)]]).session
    (∃ fault, backend.combination (.bank Elementwise.paddedBank) [.scalar (.float64 (.ofInt 1))] s =
      (.error (.incompatibleTraits fault), s)) ∧
    ∃ error : KernelError, error.Rejects ∧ ∀ strategy s,
      (⟨strategy, Product.wideRoutines⟩ : Host.Algebra).product (Host.backend Packing.hostRenderer)
        Product.wideLeft Product.wideLeft Product.wideResult (.ofInt 2) (.ofInt 3) s =
          (.error error, s) := by
  intro backend s
  obtain ⟨helementwise, hrecording, -⟩ := refused_before_anything Elementwise.singleRenderer
  obtain ⟨-, -, -, -, hproducts⟩ := refused_before_anything Packing.hostRenderer
  constructor
  · obtain ⟨hiff, hunchanged⟩ := (helementwise _ _ backend hrecording).1
      (.bank Elementwise.paddedBank) [.scalar (.float64 (.ofInt 1))]
    have hdisagree : Elementwise.Disagree (.bank Elementwise.paddedBank)
        [.scalar (.float64 (.ofInt 1))] :=
      .inr (.inl ⟨_, List.mem_singleton.mpr rfl, nofun⟩)
    obtain ⟨error, htraits, herror⟩ := (hiff s).mpr hdisagree
    have hwork := hunchanged s error htraits herror
    obtain ⟨fault, rfl⟩ := htraits
    exact ⟨fault, hwork⟩
  · have hunfit : Product.Unfit Product.wideLeft Product.wideLeft Product.wideResult :=
      .inr (.inr (.inl (by decide)))
    obtain ⟨error, hrejects, hall⟩ := hproducts _ _ _ hunfit
    exact ⟨error, hrejects, fun strategy s => hall _ _ _ s⟩

end KernelForge
