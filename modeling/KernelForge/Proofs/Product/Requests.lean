import KernelForge.Proofs.Product.Running
import KernelForge.Proofs.Provider.Registered
import KernelForge.Proofs.Provider.Rendering
import KernelForge.Proofs.Storage.Entries

/-!
# Products that are asked for

Operands are checked in the same way for both strategies. The direct product calls the routine of
the library with the sizes, the factors and the operands. The shared product was built from the
built-in module, and every run launches it with the address of the routine and the same sizes,
factors and operands.
-/

namespace KernelForge

open Code

variable {Fn σ : Type}

/-! ### Operands -/

/-- The operands of a product have one floating-point type, their sizes fit together, and the
routine can take all of them. -/
structure Product.Accepted (a b out : Matrix) : Prop where
  isFloat : a.elementType.isFloat = true
  types : b.elementType = a.elementType ∧ out.elementType = a.elementType
  rows_eq : a.layout.rows = out.layout.rows
  inner_eq : a.layout.columns = b.layout.rows
  columns_eq : b.layout.columns = out.layout.columns
  sizes_lt : a.layout.rows.toNat < twoPow 31 ∧ b.layout.columns.toNat < twoPow 31 ∧
    a.layout.columns.toNat < twoPow 31
  leading_lt : a.layout.leading.toNat < twoPow 31 ∧ b.layout.leading.toNat < twoPow 31 ∧
    out.layout.leading.toNat < twoPow 31

namespace Host

/-- The sizes of a product as 32-bit integers. -/
def ProductShape.ofLayouts (a b out : Matrix) : ProductShape where
  rows := .ofNat a.layout.rows.toNat
  columns := .ofNat b.layout.columns.toNat
  inner := .ofNat a.layout.columns.toNat
  leadingA := .ofNat a.layout.leading.toNat
  leadingB := .ofNat b.layout.leading.toNat
  leadingOut := .ofNat out.layout.leading.toNat

/-- A size that is passed as an `int` is below `2 ^ 31`. -/
theorem sizeInt32_eq_ok {what : String} {n : UInt64} {size : Int32}
    (h : sizeInt32 what n = .ok size) : n.toNat < twoPow 31 ∧ size = .ofNat n.toNat := by
  unfold sizeInt32 at h
  split at h
  · next hlt =>
    cases h
    exact ⟨hlt, rfl⟩
  · cases h

/-- A product has a shape only if its operands are accepted, and the shape has their sizes. -/
theorem ProductShape.ofOperands_eq_ok {a b out : Matrix} {shape : ProductShape}
    (h : ofOperands a b out = .ok shape) :
    Product.Accepted a b out ∧ shape = ofLayouts a b out := by
  simp only [ofOperands] at h
  split at h
  · cases h
  split at h
  swap
  · cases h
  next htypes =>
  split at h
  swap
  · cases h
  next hsizes =>
  simp only [Bool.and_eq_true, decide_eq_true_eq] at htypes hsizes
  obtain ⟨⟨hfloat, hb⟩, hout⟩ := htypes
  obtain ⟨⟨hrowsEq, hinnerEq⟩, hcolumnsEq⟩ := hsizes
  obtain ⟨rows, hrows, h⟩ := ok_of_bind h
  obtain ⟨columns, hcolumns, h⟩ := ok_of_bind h
  obtain ⟨inner, hinner, h⟩ := ok_of_bind h
  obtain ⟨leadingA, hleadingA, h⟩ := ok_of_bind h
  obtain ⟨leadingB, hleadingB, h⟩ := ok_of_bind h
  obtain ⟨leadingOut, hleadingOut, h⟩ := ok_of_bind h
  cases h
  obtain ⟨hrowsLt, rfl⟩ := sizeInt32_eq_ok hrows
  obtain ⟨hcolumnsLt, rfl⟩ := sizeInt32_eq_ok hcolumns
  obtain ⟨hinnerLt, rfl⟩ := sizeInt32_eq_ok hinner
  obtain ⟨hltA, rfl⟩ := sizeInt32_eq_ok hleadingA
  obtain ⟨hltB, rfl⟩ := sizeInt32_eq_ok hleadingB
  obtain ⟨hltOut, rfl⟩ := sizeInt32_eq_ok hleadingOut
  exact ⟨⟨hfloat, ⟨hb, hout⟩, hrowsEq, hinnerEq, hcolumnsEq, ⟨hrowsLt, hcolumnsLt, hinnerLt⟩,
    ⟨hltA, hltB, hltOut⟩⟩, rfl⟩

end Host

/-! ### Calls -/

/-- The call for the operands of a product. -/
def ProductCall.ofOperands (a b out : Matrix) (alpha beta : Binary64) : ProductCall where
  rows := a.layout.rows.toNat
  columns := b.layout.columns.toNat
  inner := a.layout.columns.toNat
  alpha := Host.floatWord a.elementType alpha
  a := a.address.toNat
  leadingA := a.layout.leading.toNat
  b := b.address.toNat
  leadingB := b.layout.leading.toNat
  beta := Host.floatWord a.elementType beta
  out := out.address.toNat
  leadingOut := out.layout.leading.toNat

namespace Product

/-- Matrices that a product can be computed of: they own their elements, and the result is stored in
neither of the others. -/
structure Stored (a b out : Matrix) (memory : Memory) : Prop where
  wellFormed : memory.WellFormed
  owned : a.Owned memory ∧ b.Owned memory ∧ out.Owned memory
  apart : out.sharesStorage a = false ∧ out.sharesStorage b = false

variable {a b out : Matrix} {memory : Memory} {alpha beta : Binary64} {routine : UInt64}

/-- The sizes of accepted operands are good for the routine. -/
theorem Accepted.sized (h : Accepted a b out) :
    (ProductCall.ofOperands a b out alpha beta).Sized := by
  have ha := a.layout.accepted
  have hb := b.layout.accepted
  have hleadingOut : b.layout.columns.toNat ≤ out.layout.leading.toNat := by
    rw [h.columns_eq]
    exact out.layout.accepted.columns_le
  exact ⟨⟨ha.rows_pos, hb.columns_pos, ha.columns_pos, a.layout.leading_pos, b.layout.leading_pos,
      out.layout.leading_pos⟩,
    ⟨h.sizes_lt.1, h.sizes_lt.2.1, h.sizes_lt.2.2, h.leading_lt⟩,
    ⟨ha.columns_le, hb.columns_le, hleadingOut⟩⟩

/-- Nothing outside accepted operands is touched, if they own their elements. -/
theorem Accepted.inside (h : Accepted a b out)
    (howned : a.Owned memory ∧ b.Owned memory ∧ out.Owned memory) :
    (ProductCall.ofOperands a b out alpha beta).Inside a.elementType.bytes a.storage b.storage
      out.storage where
  inside_a i hi k hk := howned.1.covers hi (Nat.lt_of_lt_of_le hk a.layout.accepted.columns_le)
  inside_b k hk j hj := by
    rw [← h.types.1]
    have hrow : k < b.layout.rows.toNat := h.inner_eq ▸ hk
    exact howned.2.1.covers hrow (Nat.lt_of_lt_of_le hj b.layout.accepted.columns_le)
  inside_out i hi j hj := by
    rw [← h.types.2]
    have hrow : i < out.layout.rows.toNat := h.rows_eq ▸ hi
    have hcolumn : j < out.layout.columns.toNat := h.columns_eq ▸ hj
    exact howned.2.2.covers hrow (Nat.lt_of_lt_of_le hcolumn out.layout.accepted.columns_le)

/-- The operands of a product are in place. -/
theorem Accepted.placed (h : Accepted a b out) (hstored : Stored a b out memory) :
    (ProductCall.ofOperands a b out alpha beta).Placed a.elementType.bytes a.storage b.storage
      out.storage memory := by
  have hinside : (ProductCall.ofOperands a b out alpha beta).Inside a.elementType.bytes a.storage
      b.storage out.storage := h.inside hstored.owned
  have hsized : (ProductCall.ofOperands a b out alpha beta).Sized := h.sized
  obtain ⟨⟨hrows, hcolumns, hinner, -⟩, -, hleading⟩ := hsized
  exact ⟨hstored.wellFormed,
    ⟨hstored.owned.1.held, hstored.owned.2.1.held, hstored.owned.2.2.held⟩,
    ⟨of_decide_eq_false hstored.apart.1, of_decide_eq_false hstored.apart.2⟩, hinside.inside_a,
    hinside.inside_b, hinside.inside_out, ⟨hrows, hcolumns, hinner⟩, hleading,
    ⟨h.sizes_lt.1, h.leading_lt⟩⟩

/-- A size that the routine can take is its own word. -/
theorem intWord_ofNat {n : Nat} (h : n < twoPow 31) : Host.intWord (.ofNat n) = n := by
  have hlt : n < twoPow 32 := Nat.lt_trans h (by decide)
  rw [Host.intWord, Int32.toInt_ofNat_of_lt h]
  change ((n : Int) % (twoPow 32 : Nat)).toNat = n
  rw [Int.emod_eq_of_lt (Int.natCast_nonneg n) (Int.ofNat_lt.mpr hlt), Int.toNat_natCast]

/-- The direct product calls the routine for its operands. -/
theorem Accepted.arguments_eq (h : Accepted a b out) :
    (⟨routine, a, b, out, alpha, beta, .ofLayouts a b out⟩ : Host.VendorProduct).arguments =
      (ProductCall.ofOperands a b out alpha beta).words := by
  obtain ⟨hrows, hcolumns, hinner⟩ := h.sizes_lt
  obtain ⟨hleadingA, hleadingB, hleadingOut⟩ := h.leading_lt
  simp only [Host.VendorProduct.arguments, Host.ProductShape.ofLayouts, intWord_ofNat hrows,
    intWord_ofNat hcolumns, intWord_ofNat hinner, intWord_ofNat hleadingA, intWord_ofNat hleadingB,
    intWord_ofNat hleadingOut]
  rfl

/-- A factor of a product is a word of its type. -/
theorem floatWord_lt {type : ElementType} (h : type.isFloat = true) (x : Binary64) :
    Host.floatWord type x < twoPow (8 * type.bytes) := by
  cases type with
  | int32 | int64 => cases h
  | float32 => exact ElementType.toBits_lt .float32 x.toBinary32
  | float64 => exact ElementType.toBits_lt .float64 x

/-- A factor of a product is passed as its word. -/
theorem moved_factor {type : ElementType} {kind : FloatKind} (h : type.cType = .float kind)
    (x : Binary64) : Host.moved (.float kind) (.scalar ((Scalar.float64 x).cast type)) =
      .float kind (littleEndian kind.bytes (Host.floatWord type x)) := by
  cases type with
  | int32 | int64 => cases h
  | float32 | float64 =>
    cases h
    rfl

/-- The values of the slots of the product kernel. -/
def slotValues (routine : UInt64) (a b out : Matrix) (alpha beta : Binary64)
    (shape : Host.ProductShape) : List SlotValue :=
  let int (n : Int32) : SlotValue := .scalar (.int32 n)
  let float (x : Binary64) : SlotValue := .scalar ((Scalar.float64 x).cast a.elementType)
  [.pointer routine, int shape.rows, int shape.columns, int shape.inner, float alpha,
    .pointer a.address, int shape.leadingA, .pointer b.address, int shape.leadingB, float beta,
    .pointer out.address, int shape.leadingOut]

/-- The types of the parameters of the product kernel. -/
theorem paramTypes_arguments {type : ElementType} {kind : FloatKind}
    (hkind : type.cType = .float kind) :
    paramTypes 0 (Builtin.Product.arguments type) =
      [.pointer .void false, .int .int, .int .int, .int .int, .float kind,
        .pointer (.float kind) true, .int .int, .pointer (.float kind) true, .int .int,
        .float kind, .pointer (.float kind) false, .int .int] := by
  rw [← hkind]
  rfl

/-- The product kernel gets its arguments from the values of its slots. -/
theorem Accepted.moved_slotValues (h : Accepted a b out) {kind : FloatKind}
    (hkind : a.elementType.cType = .float kind) :
    List.zipWith Host.moved (paramTypes 0 (Builtin.Product.arguments a.elementType))
        (slotValues routine a b out alpha beta (.ofLayouts a b out)) =
      kernelValues kind routine (.ofOperands a b out alpha beta) := by
  obtain ⟨hrows, hcolumns, hinner⟩ := h.sizes_lt
  obtain ⟨hleadingA, hleadingB, hleadingOut⟩ := h.leading_lt
  rw [paramTypes_arguments hkind]
  simp only [slotValues, Host.ProductShape.ofLayouts, List.zipWith_cons_cons, List.zipWith_nil_left,
    Host.moved_int32, Host.moved_pointer, moved_factor hkind, Int32.toInt_ofNat_of_lt hrows,
    Int32.toInt_ofNat_of_lt hcolumns, Int32.toInt_ofNat_of_lt hinner,
    Int32.toInt_ofNat_of_lt hleadingA, Int32.toInt_ofNat_of_lt hleadingB,
    Int32.toInt_ofNat_of_lt hleadingOut]
  rfl

end Product

/-! ### Rendering -/

/-- The text of the module of the shared product: the type of the routine, the function that shares
the columns, and the kernel. -/
def Renderer.productText (renderer : Renderer) (type : ElementType) : String :=
  renderer.generator.prelude type ++ Draft.piece Builtin.Product.routineType ++
    Draft.piece (renderer.generator.function "void" Builtin.Product.partitionName
      "int n, int* begin, int* end" (bodyText [] Builtin.Product.partitionBody)) ++
    Draft.piece (renderer.generator.kernel Builtin.Product.kernelName 0
      (Builtin.Product.arguments type) (bodyText Builtin.Product.typeNames Builtin.Product.body))

namespace Product

/-- The parameters of the module of the shared product. -/
def params (type : ElementType) : Params :=
  NameMap.empty.insert Params.floatTypeName (.elementType type)

/-- The module of the shared product is rendered for a floating-point type. -/
theorem renderKernel_eq_ok {renderer : Renderer} {type : ElementType} {rendered : RenderedKernel}
    (htemplate : renderer.templates.get? Builtin.Product.module = some Builtin.Product.template)
    (h : renderer.renderKernel Builtin.Product.kernelName Builtin.Product.module (params type) =
      .ok rendered) :
    rendered.source = renderer.productText type ∧
      rendered.contract = .ofArguments 0 (Builtin.Product.arguments type) := by
  have hparam : (params type).get? Params.floatTypeName = some (.elementType type) := by
    rw [params, NameMap.get?_insert, if_pos rfl]
  obtain ⟨-, draft, hrun, hsource, hcontract⟩ := renderer.renderKernel_eq_ok htemplate hparam h
  simp only [Builtin.Product.template] at hrun
  split at hrun
  · cases hrun
    rw [NameMap.get?_insert, if_pos rfl] at hcontract
    exact ⟨hsource, (Option.some.inj hcontract).symm⟩
  · cases hrun

end Product

/-! ### Requests -/

namespace Product

section Operands

variable (algebra : Host.Algebra) (a b out : Matrix) (alpha beta : Binary64)
  (shape : Host.ProductShape)

/-- The operands of the shared product under their names. -/
theorem get?_partitionedOperands :
    let operands := algebra.partitionedOperands a b out alpha beta shape
    let int (n : Int32) : Operand := .scalar (.int32 n)
    let float (x : Binary64) : Operand := .scalar ((Scalar.float64 x).cast a.elementType)
    operands.get? "gemm" = some (.pointer (algebra.routines.product a.elementType)) ∧
      operands.get? "M" = some (int shape.rows) ∧ operands.get? "N" = some (int shape.columns) ∧
      operands.get? "K" = some (int shape.inner) ∧ operands.get? "alpha" = some (float alpha) ∧
      operands.get? "a" = some (.matrix a) ∧ operands.get? "lda" = some (int shape.leadingA) ∧
      operands.get? "b" = some (.matrix b) ∧ operands.get? "ldb" = some (int shape.leadingB) ∧
      operands.get? "beta" = some (float beta) ∧ operands.get? "c" = some (.matrix out) ∧
      operands.get? "ldc" = some (int shape.leadingOut) := by
  simp only [Host.Algebra.partitionedOperands, NameMap.ofList, List.foldl_cons, List.foldl_nil,
    NameMap.get?_insert]
  exact ⟨rfl, rfl, rfl, rfl, rfl, rfl, rfl, rfl, rfl, rfl, rfl, rfl⟩

/-- The operands of the shared product fill its slots. -/
theorem ofDeclared_partitionedOperands :
    BoundArgument.ofDeclared (algebra.partitionedOperands a b out alpha beta shape)
        (Contract.ofArguments 0 (Builtin.Product.arguments a.elementType)).declared =
      .ok ((slotValues (algebra.routines.product a.elementType) a b out alpha beta shape).map
        .value) := by
  have hdeclared : (Contract.ofArguments 0 (Builtin.Product.arguments a.elementType)).declared =
      [("gemm", [.pointer]), ("M", [.scalar .int32]), ("N", [.scalar .int32]),
        ("K", [.scalar .int32]), ("alpha", [.scalar a.elementType]), ("a", [.pointer]),
        ("lda", [.scalar .int32]), ("b", [.pointer]), ("ldb", [.scalar .int32]),
        ("beta", [.scalar a.elementType]), ("c", [.pointer]), ("ldc", [.scalar .int32])] := rfl
  obtain ⟨hgemm, hM, hN, hK, halpha, ha, hlda, hb, hldb, hbeta, hc, hldc⟩ :=
    get?_partitionedOperands algebra a b out alpha beta shape
  have hfactor (name : String) (x : Binary64) :
      BoundArgument.ofOperand name (.scalar ((Scalar.float64 x).cast a.elementType))
        [.scalar a.elementType] =
          .ok [.value (.scalar ((Scalar.float64 x).cast a.elementType))] := by
    have hcast := Scalar.cast_self ((Scalar.float64 x).cast a.elementType)
    rw [Scalar.elementType_cast] at hcast
    change Except.ok [BoundArgument.value (.scalar (Scalar.cast _ a.elementType))] = _
    rw [hcast]
  simp only [hdeclared, BoundArgument.ofDeclared, hgemm, hM, hN, hK, halpha, ha, hlda, hb, hldb,
    hbeta, hc, hldc, hfactor]
  rfl

end Operands

/-- A kernel of the shared product: its function was built from the text of the built-in module, and
every run launches it with the address of the routine, the sizes, the factors and the operands. -/
structure Shares (backend : Backend Fn σ) (renderer : Renderer) (routine : UInt64)
    (a b out : Matrix) (alpha beta : Binary64) (kernel : BoundKernel Fn) : Prop where
  built : ∃ world, (backend.build Builtin.Product.kernelName (renderer.productText a.elementType)
    (Contract.ofArguments 0 (Builtin.Product.arguments a.elementType)).slotTypes world).1 =
      .ok kernel.function
  launch : ∀ store, (Obtained.bound kernel).launch [] store =
    .ok ⟨kernel.function, [], slotValues routine a b out alpha beta (.ofLayouts a b out)⟩

variable {routines : Host.Routines} {a b out : Matrix} {alpha beta : Binary64}

/-- The direct product only checks its operands. -/
theorem vendor_eq_ok (h : Host.ProductShape.ofOperands a b out = .ok (.ofLayouts a b out))
    (backend : Backend Fn σ) (s : Session Fn σ) :
    (⟨.vendor, routines⟩ : Host.Algebra).product backend a b out alpha beta s =
      (.ok (.vendor ⟨routines.product a.elementType, a, b, out, alpha, beta, .ofLayouts a b out⟩),
        s) := by
  have hshape : (Session.ofExcept (Host.ProductShape.ofOperands a b out) : SessionM Fn σ _) s =
      (.ok (.ofLayouts a b out), s) := by
    rw [h]
    rfl
  exact bind_of_ok hshape

/-- A shared product that is given was built from the built-in module and is bound to its
operands. -/
theorem partitioned_eq_ok {backend : Backend Fn σ} {renderer : Renderer} {world : World σ}
    {calls : List (Call σ)} {kernel : BoundKernel Fn}
    (htemplate : renderer.templates.get? Builtin.Product.module = some Builtin.Product.template)
    (hkernel : ((⟨.partitioned, routines⟩ : Host.Algebra).product (backend.rendering renderer) a b
      out alpha beta (History.after (backend.rendering renderer) world calls).session).1 =
        .ok (.partitioned kernel)) :
    Host.ProductShape.ofOperands a b out = .ok (.ofLayouts a b out) ∧ Accepted a b out ∧
      Shares backend renderer (routines.product a.elementType) a b out alpha beta kernel := by
  obtain ⟨shape, s, hchecked, hrest⟩ := ok_of_bind_fst hkernel
  have hshape : Host.ProductShape.ofOperands a b out = .ok shape := congrArg Prod.fst hchecked
  obtain rfl : (History.after (backend.rendering renderer) world calls).session = s :=
    congrArg Prod.snd hchecked
  obtain ⟨haccepted, rfl⟩ := Host.ProductShape.ofOperands_eq_ok hshape
  obtain ⟨⟨function, contract⟩, s', hfunction, hrest⟩ := ok_of_bind_fst hrest
  obtain ⟨bound, s'', hbind, hrest⟩ := ok_of_bind_fst hrest
  cases hrest
  obtain ⟨rfl, hdims, hargs⟩ := Backend.bind_eq_ok (congrArg Prod.fst hbind)
  obtain ⟨rendered, hrender, rfl, hbuild⟩ := History.function_eq_ok (congrArg Prod.fst hfunction)
  obtain ⟨hsource, hcontract⟩ := renderKernel_eq_ok htemplate hrender
  rw [hsource, hcontract] at hbuild
  rw [hcontract] at hargs
  obtain ⟨dimArgs, filled, hdimArgs, hfilled, heq, -⟩ := BoundArgument.list_eq_ok hargs
  cases hdimArgs
  rw [ofDeclared_partitionedOperands] at hfilled
  cases hfilled
  refine ⟨hshape, haccepted, hbuild, fun store => ?_⟩
  rw [Obtained.launch, BoundKernel.launch, heq, hdims]
  rfl

end Product

end KernelForge
