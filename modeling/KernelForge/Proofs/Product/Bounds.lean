import KernelForge.Proofs.Product.Agreement
import KernelForge.Proofs.Product.Overflow

/-!
# Products stay in their operands

The routine of a library trusts the sizes and addresses that it gets. Operands that a product accepts
have good sizes, and all elements that the routine touches lie in their allocations. That is so for
the direct call, and for a block of any columns, whose operands begin in the middle of a row. It does
not matter whether the result is stored in one of the factors.
-/

namespace KernelForge

open Code

namespace Product

/-- What a thread that got a range of columns passes to the routine are the words of a call for the
block, with integers of 32 bits, whatever its team is and whatever memory holds. -/
def PassesBlock (c : ProductCall) (kind : FloatKind) (first last : Nat) : Prop :=
  ∀ (team rank : Nat) (address : UInt64)
    (routine : List (Value fun _ => List UInt8) → Run (wordMachine team) (Value fun _ => List UInt8))
    (memory : Memory),
    let s : RunState (wordMachine team) := threadState kind address c
      (littleEndian kind.bytes c.alpha) (littleEndian kind.bytes c.beta) memory first last
    ∃ values, Builtin.Product.blockCall.eval (threadContext address routine rank) s =
        routine values s ∧
      values.mapM Value.word? = some (c.block kind.bytes first (last - first)).words

/-- A thread passes a block of columns if the operands lie in allocations that are held. -/
theorem passesBlock {c : ProductCall} {kind : FloatKind} {x y z : Allocation} {memory : Memory}
    {first last : Nat} (h : memory.WellFormed)
    (hheld : memory.Holds x ∧ memory.Holds y ∧ memory.Holds z) (hsized : c.Sized)
    (hinside : c.Inside kind.bytes x y z)
    (hfactors : c.alpha < twoPow (8 * kind.bytes) ∧ c.beta < twoPow (8 * kind.bytes))
    (hlt : first < last) (hle : last ≤ c.columns) : PassesBlock c kind first last := by
  intro team rank address routine memory' s
  have hsmall := hsized.small.2.1
  have hfirst : (wordMachine team).Holds (first : Int) := wordMachine_holds (by omega)
  have hlast : (wordMachine team).Holds (last : Int) := wordMachine_holds (by omega)
  have hcount : (last : Int) - first = (last - first : Nat) := by omega
  have hdifference : (wordMachine team).Holds ((last : Int) - first) := by
    rw [hcount]
    exact wordMachine_holds (by omega)
  exact ⟨_, eval_blockCall_of_holds hfirst hlast hdifference,
    words_of_inside h hheld hsized hinside hfactors hlt hle⟩

variable {Fn σ : Type} {backend : Backend Fn σ} {renderer : Renderer} {world : World σ}
  {calls : List (Call σ)} {algebra : Host.Algebra} {a b out : Matrix} {alpha beta : Binary64}
  {kernel : Host.ProductKernel Fn}

/-- A product that is given accepted its operands. It calls the routine for them directly, or shares
their columns. -/
theorem product_eq_ok
    (htemplate : renderer.templates.get? Builtin.Product.module = some Builtin.Product.template)
    (hkernel : (algebra.product (backend.rendering renderer) a b out alpha beta
      (History.after (backend.rendering renderer) world calls).session).1 = .ok kernel) :
    Accepted a b out ∧
      (kernel = .vendor ⟨algebra.routines.product a.elementType, a, b, out, alpha, beta,
          .ofLayouts a b out⟩ ∨
        ∃ shared, kernel = .partitioned shared ∧
          Shares backend renderer (algebra.routines.product a.elementType) a b out alpha beta
            shared) := by
  obtain ⟨strategy, routines⟩ := algebra
  obtain ⟨shape, s, hchecked, hrest⟩ := ok_of_bind_fst hkernel
  obtain ⟨haccepted, hshape⟩ := Host.ProductShape.ofOperands_eq_ok (congrArg Prod.fst hchecked)
  refine ⟨haccepted, ?_⟩
  cases strategy with
  | vendor =>
    cases hrest
    exact .inl (by rw [hshape])
  | partitioned =>
    cases kernel with
    | vendor direct =>
      obtain ⟨result, s', -, hrest⟩ := ok_of_bind_fst hrest
      obtain ⟨bound, s'', -, hrest⟩ := ok_of_bind_fst hrest
      cases hrest
    | partitioned shared => exact .inr ⟨shared, rfl, (partitioned_eq_ok htemplate hkernel).2.2⟩

/-- A product that is given stays in its operands, if these own their elements. The sizes that the
routine gets are positive values of type `int`, and no row is longer than the way to the next one. The
direct product calls the routine with them; the shared one is launched with them, and for every range
of columns a thread calls the routine with the operands moved to the first of the columns. Whatever a
multiplication by rows touches in either call lies in the allocations of the operands. -/
theorem product_stays_inside
    (htemplate : renderer.templates.get? Builtin.Product.module = some Builtin.Product.template)
    (hkernel : (algebra.product (backend.rendering renderer) a b out alpha beta
      (History.after (backend.rendering renderer) world calls).session).1 = .ok kernel)
    {memory : Memory} (h : memory.WellFormed)
    (howned : a.Owned memory ∧ b.Owned memory ∧ out.Owned memory) :
    let routine := algebra.routines.product a.elementType
    let call := ProductCall.ofOperands a b out alpha beta
    (call.Sized ∧ call.Inside a.elementType.bytes a.storage b.storage out.storage) ∧
      (∀ first last, first < last → last ≤ b.layout.columns.toNat →
        let block := call.block a.elementType.bytes first (last - first)
        block.Sized ∧ block.Inside a.elementType.bytes a.storage b.storage out.storage) ∧
      ((∃ direct, kernel = .vendor direct ∧ direct.routine = routine ∧
          direct.arguments = call.words) ∨
        ∃ shared kind, kernel = .partitioned shared ∧
          Shares backend renderer routine a b out alpha beta shared ∧
          a.elementType.cType = .float kind ∧
          List.zipWith Host.moved (paramTypes 0 (Builtin.Product.arguments a.elementType))
              (slotValues routine a b out alpha beta (.ofLayouts a b out)) =
            kernelValues kind routine call ∧
          ∀ first last, first < last → last ≤ b.layout.columns.toNat →
            PassesBlock call kind first last) := by
  intro routine call
  obtain ⟨haccepted, hkernels⟩ := product_eq_ok htemplate hkernel
  have hsized : call.Sized := haccepted.sized
  have hinside : call.Inside a.elementType.bytes a.storage b.storage out.storage :=
    haccepted.inside howned
  refine ⟨⟨hsized, hinside⟩, fun first last hlt hle => ?_, ?_⟩
  · have hstop : first + (last - first) ≤ call.columns := by
      change first + (last - first) ≤ b.layout.columns.toNat
      omega
    exact ⟨hsized.block (by omega) hstop, hinside.block hstop⟩
  · rcases hkernels with rfl | ⟨shared, rfl, hshares⟩
    · exact .inl ⟨_, rfl, rfl, haccepted.arguments_eq⟩
    · obtain ⟨kind, hkind, hbytes⟩ := ElementType.exists_floatKind haccepted.isFloat
      refine .inr ⟨shared, kind, rfl, hshares, hkind, haccepted.moved_slotValues hkind,
        fun first last hlt hle => ?_⟩
      have hfactors : call.alpha < twoPow (8 * kind.bytes) ∧
          call.beta < twoPow (8 * kind.bytes) := by
        rw [← hbytes]
        exact ⟨floatWord_lt haccepted.isFloat alpha, floatWord_lt haccepted.isFloat beta⟩
      exact passesBlock h ⟨howned.1.held, howned.2.1.held, howned.2.2.held⟩ hsized
        (hbytes ▸ hinside) hfactors hlt hle

/-- The last three of five columns are multiplied inside the right operand, whose rows are six elements
apart: the last element that is touched ends two elements before the end of its allocation. -/
theorem wideColumns_inside :
    let call := ProductCall.ofOperands wideLeft wideRight wideResult (.ofInt 2) (.ofInt 3)
    let block := call.block 8 2 3
    block.words = [101, 111, 111, 2, 3, 3, 0x4000000000000000, 0x55813e400000, 3, 0x55813e400050, 6,
        0x4008000000000000, 0x55813e400110, 7] ∧
      PassesBlock call .double 2 5 ∧ block.Sized ∧
      block.Inside 8 wideLeft.storage wideRight.storage wideResult.storage ∧
      block.inB 8 2 2 + 8 = 0x55813e400040 + 144 - 8 := by
  obtain ⟨shared, hkernel⟩ := wide_given
  obtain ⟨-, hblocks, hkernels⟩ := product_stays_inside TemplateLibrary.get?_builtin.2.2 hkernel
    wellFormed_wideMemory wide_stored.owned
  obtain ⟨hsized, hinside⟩ := hblocks 2 5 (by decide) (by decide)
  rcases hkernels with ⟨direct, hdirect, -⟩ | ⟨-, kind, -, -, hkind, -, hpasses⟩
  · cases hdirect
  · cases hkind
    exact ⟨by decide +kernel, hpasses 2 5 (by decide) (by decide), hsized, hinside, rfl⟩

end Product

end KernelForge
