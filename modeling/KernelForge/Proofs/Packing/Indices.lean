import KernelForge.Proofs.Code.Integers
import KernelForge.Proofs.Packing.Restoring

/-!
# Indices of the packing kernels

The packing kernels find elements by indices of type `int`: the numbers of the rows and columns of a
block, an offset in a block, and a slot of the exchange matrix. Of these only the number of blocks and
the strides were compared with the greatest value of the type when the kernels are given. So indices
overflow for views that have too many elements, or rows too far apart.
-/

namespace KernelForge

open Code

/-! ### A machine that finds elements -/

/-- A machine with exact integers that finds the operands of code that moves floating-point numbers,
but moves none. -/
def indexMachine (order : Nat → List Nat) : Machine :=
  { movingMachine order with
    Memory := Memory
    load := fun memory type address =>
      match type with
      | .float kind => some (.float kind [])
      | type =>
          if 0 ≤ address then
            (memory.peek address.toNat type.bytes).bind fun bytes =>
              type.ofBytes (fun _ b => b) bytes
          else none
    store := fun memory _ _ => some memory }

section Machine

variable {order : Nat → List Nat} {ctx : Context (indexMachine order)}
  {s : RunState (indexMachine order)} {kind : FloatKind} {ms ns : List Nat}

/-- The machine does not cut integers. -/
theorem indexMachine_isExact : (indexMachine order).IsExact := fun _ _ => rfl

/-- Integers and addresses are read from the bytes of memory. -/
theorem indexMachine_sees : (indexMachine order).Sees id := by
  intro memory type address bytes h
  cases type
  case float kind => exact ⟨fun _ _ => [], rfl⟩
  all_goals
    refine ⟨fun _ b => b, ?_⟩
    change (if (0 : Int) ≤ address then (memory.peek address _).bind _ else none) = _
    rw [if_pos (Int.natCast_nonneg _)]
    exact (congrArg (Option.bind · _) h).trans rfl

/-- An expression is an entry of an array of floating-point numbers, and the integers that are
computed to find it are those of a list. -/
def Code.Expr.Finds (e : Expr) (ctx : Context (indexMachine order))
    (s : RunState (indexMachine order)) (kind : FloatKind) (ns : List Nat) : Prop :=
  ∃ pointer offset base k ms ks, e = .index pointer offset ∧
    pointer.Yields ctx s (.pointer (.float kind) (.address base)) ms ∧
    offset.Tallies ctx s k ks ∧ ns = ms ++ ks

namespace Code.Expr.Finds

variable {e target source : Expr}

/-- An entry that is found is read as a number. -/
theorem yields (h : e.Finds ctx s kind ns) : e.Yields ctx s (.float kind []) ns := by
  obtain ⟨pointer, offset, base, k, ms, ks, rfl, hpointer, hoffset, rfl⟩ := h
  exact .index hpointer hoffset
    (Points.eval_index hpointer.eval_eq hoffset.counts rfl rfl) fun _ => Value.not_isInt_float

/-- An entry is assigned to another one, which moves nothing. -/
theorem eval_assign (htarget : target.Finds ctx s kind ms) (hsource : source.Finds ctx s kind ns) :
    (Expr.assign target source).eval ctx s = .ok (.float kind [], s) := by
  obtain ⟨pointer, offset, base, k, ms, ks, rfl, hpointer, hoffset, rfl⟩ := htarget
  rw [Expr.eval, run_bind (Points.place_index hpointer.eval_eq hoffset.counts),
    run_bind hsource.yields.eval_eq]
  exact writePlace_address rfl rfl

/-- Both entries are found for the assignment. -/
theorem computes_assign {n : Int} (htarget : target.Finds ctx s kind ms)
    (hsource : source.Finds ctx s kind ns) :
    (Expr.assign target source).Computes ctx n s ↔ Listed (ms ++ ns) n := by
  have heval := htarget.eval_assign hsource
  obtain ⟨pointer, offset, base, k, ms, ks, rfl, hpointer, hoffset, rfl⟩ := htarget
  exact computes_assign_index hpointer hoffset
    ⟨_, Points.place_index hpointer.eval_eq hoffset.counts⟩ hsource.yields heval
    Value.not_isInt_float

section Statement

variable {locals : List (Local (indexMachine order))} {memory : Memory}
  (htarget : target.Finds ctx ⟨memory, locals⟩ kind ms)
  (hsource : source.Finds ctx ⟨memory, locals⟩ kind ns)

include htarget hsource

/-- The assignment changes no memory. -/
theorem performs_assign :
    (Stmt.expr (.assign target source)).Performs ctx locals (· = memory) some := by
  rintro _ rfl
  exact ⟨_, rfl, rfl, exec_expr (htarget.eval_assign hsource)⟩

/-- It computes the integers of both entries and no others. -/
theorem computesExactly_assign :
    (Stmt.expr (.assign target source)).ComputesExactly ctx locals (· = memory)
      (Listed (ms ++ ns)) := by
  rintro _ rfl n
  exact htarget.computes_assign hsource

end Statement

end Code.Expr.Finds

end Machine

/-! ### Elements -/

namespace ViewElement

variable (e : ViewElement) (count columns stride : Nat)

/-- The integers that are computed to find an element in the exchange matrix. -/
def exchangeIntegers : List Nat :=
  [e.row, columns, e.row * columns, e.column, e.row * columns + e.column, count,
    (e.row * columns + e.column) * count, e.block, e.slot count columns]

/-- The integers that are computed to find an element in its block. -/
def blockIntegers : List Nat :=
  [e.block, e.row, e.block, stride, e.row * stride, e.column, e.row * stride + e.column]

end ViewElement

namespace Packing

variable {order : Nat → List Nat} {ctx : Context (indexMachine order)} {v : ExchangeView}
  {view exchange : Intent} {e : ViewElement} {now : Memory} {kind : FloatKind}

/-- An element is found in the exchange matrix. -/
theorem finds_exchange (hframe : ctx.frame = 0) (hkind : v.view.elementType.cType = .float kind) :
    (Builtin.Packing.exchangeElement v.view.columns.toNat).Finds ctx
      ⟨now, elementLocals _ v view exchange e⟩ kind
      (e.exchangeIntegers v.view.count v.view.columns.toNat) := by
  have hexact : (indexMachine order).IsExact := indexMachine_isExact
  obtain ⟨hr, hc, hx, hld⟩ := counts_elementLocals v view exchange e now hframe
  obtain ⟨hpointer, -, -⟩ := points_elementLocals v view exchange e now hframe
  rw [hkind] at hpointer
  have hplace := ((Expr.Tallies.var hr).mul hexact (.literal v.view.columns.toNat .int)).add hexact
    (.var hc)
  exact ⟨_, _, _, _, _, _, rfl, .var hpointer fun _ => Value.not_isInt_pointer,
    (hplace.paren.mul hexact (.var hld)).add hexact (.var hx), rfl⟩

/-- An element is found in its block. -/
theorem finds_block {placed : List (UInt64 × Int32)} {stride : Nat} (hframe : ctx.frame = 0)
    (hkind : v.view.elementType.cType = .float kind) (hrecords : v.view.Records now placed)
    (hmemory : now.WellFormed) (he : e.block < placed.length)
    (hstride : placed[e.block].2.toInt = stride) :
    Builtin.Packing.viewElement.Finds ctx ⟨now, elementLocals _ v view exchange e⟩ kind
      (e.blockIntegers stride) := by
  have hexact : (indexMachine order).IsExact := indexMachine_isExact
  obtain ⟨hr, hc, hx, -⟩ := counts_elementLocals v view exchange e now hframe
  obtain ⟨-, hmapping, hstrides⟩ := points_elementLocals v view exchange e now hframe
  have hblock := points_block view exchange hframe indexMachine_sees hrecords hmemory he
  have hcounts := counts_stride view exchange hframe indexMachine_sees hrecords hmemory he
  rw [hkind] at hblock
  rw [hstride] at hcounts
  have hpointer := Expr.Yields.index (.var hmapping fun _ => Value.not_isInt_pointer) (.var hx) hblock
    fun _ => Value.not_isInt_pointer
  have hrow := (Expr.Tallies.var hr).mul hexact
    (.index (.var hstrides fun _ => Value.not_isInt_pointer) (.var hx) hcounts)
  exact ⟨_, _, _, _, _, _, rfl, hpointer, hrow.add hexact (.var hc), rfl⟩

/-! ### All elements -/

/-- The loop of a packing kernel computes the numbers of blocks, rows and columns, up to how many there
are of them, and what its body computes for the elements. -/
theorem computes_blockLoop {M : Machine} {ctx : Context M} (hexact : M.IsExact) (hframe : ctx.frame = 0)
    {statement : Stmt} {inv : M.Memory → Prop} {step : ViewElement → M.Memory → Option M.Memory}
    {ns : ViewElement → List Nat} (hcount : 0 < v.view.count) (hpos : 0 < v.view.rows.toNat)
    (hrows : v.view.rows.toNat < ctx.limit) (hcolumns : v.view.columns.toNat < ctx.limit)
    (horder : (M.order v.view.count).Perm (List.range v.view.count))
    (hstatement : ∀ e, v.Has e →
      statement.Performs ctx (elementLocals M v view exchange e) inv (step e))
    (hcomputes : ∀ e, v.Has e →
      statement.ComputesExactly ctx (elementLocals M v view exchange e) inv (Listed (ns e))) :
    (Stmt.parallelFor "_x" (.var "_nx") (.block
        (Builtin.Packing.blockLoop v.view.rows.toNat v.view.columns.toNat
          statement))).ComputesExactly ctx (entryLocals M v view exchange) inv fun n =>
      (0 ≤ n ∧ (n ≤ v.view.count ∨ n ≤ v.view.rows.toNat ∨ n ≤ v.view.columns.toNat)) ∨
        ∃ e, v.Has e ∧ Listed (ns e) n := by
  have hvisible (locals : List (Local M)) : ctx.frame ≤ locals.length := hframe ▸ Nat.zero_le _
  have hmem : ∀ i ∈ M.order v.view.count, i < v.view.count := fun i hi =>
    List.mem_range.mp (horder.mem_iff.mp hi)
  have hcolumn : ∀ i < v.view.count, ∀ r < v.view.rows.toNat,
      (Builtin.Packing.countedLoop "c" v.view.columns.toNat statement).Performs ctx
        (counter _ "r" r :: counter _ "_x" i :: entryLocals _ v view exchange) _ _ :=
    fun i hi r hr => .countedLoop hexact (hvisible _) hcolumns
      fun c hc => hstatement ⟨i, r, c⟩ ⟨hi, hr, hc⟩
  have hcolumn' : ∀ i < v.view.count, ∀ r < v.view.rows.toNat,
      (Builtin.Packing.countedLoop "c" v.view.columns.toNat statement).ComputesExactly ctx
        (counter _ "r" r :: counter _ "_x" i :: entryLocals _ v view exchange) _ _ :=
    fun i hi r hr => .countedLoop hexact (hvisible _)
      (fun c hc => hstatement ⟨i, r, c⟩ ⟨hi, hr, hc⟩) hcolumns
      fun c hc => hcomputes ⟨i, r, c⟩ ⟨hi, hr, hc⟩
  have hbound : ∀ memory : M.Memory, inv memory → (Expr.var "_nx").Tallies ctx
      ⟨memory, entryLocals M v view exchange⟩ v.view.count [v.view.count] := by
    intro memory _
    refine .var (.var (x := ⟨"_nx", .int .int, .int .int v.view.count⟩) ?_ rfl rfl)
    rw [visible_all hframe]
    rfl
  intro memory hinv n
  refine (Stmt.ComputesExactly.parallelFor hbound
    (fun i hi => .block (.countedLoop hexact (hvisible _) hrows (hcolumn i (hmem i hi))))
    (fun i hi => .block (.countedLoop hexact (hvisible _) (hcolumn i (hmem i hi)) hrows
      (hcolumn' i (hmem i hi)))) memory hinv n).trans ?_
  simp only [listed_singleton]
  constructor
  · rintro (rfl | ⟨i, hi, rfl | ⟨hnonneg, hle⟩ | ⟨r, hr, ⟨hnonneg, hle⟩ | ⟨c, hc, hlisted⟩⟩⟩)
    · exact .inl ⟨Int.natCast_nonneg _, .inl (Int.le_refl _)⟩
    · exact .inl ⟨Int.natCast_nonneg _, .inl (Int.ofNat_le.mpr (Nat.le_of_lt (hmem i hi)))⟩
    · exact .inl ⟨hnonneg, .inr (.inl hle)⟩
    · exact .inl ⟨hnonneg, .inr (.inr hle)⟩
    · exact .inr ⟨⟨i, r, c⟩, ⟨hmem i hi, hr, hc⟩, hlisted⟩
  · have hfirst : 0 ∈ M.order v.view.count := horder.mem_iff.mpr (List.mem_range.mpr hcount)
    rintro (⟨hnonneg, hle | hle | hle⟩ | ⟨⟨i, r, c⟩, ⟨hi, hr, hc⟩, hlisted⟩)
    · rcases Int.lt_or_eq_of_le hle with hlt | heq
      · refine .inr ⟨n.toNat, horder.mem_iff.mpr (List.mem_range.mpr (by omega)), .inl ?_⟩
        exact (Int.toNat_of_nonneg hnonneg).symm
      · exact .inl heq
    · exact .inr ⟨0, hfirst, .inr (.inl ⟨hnonneg, hle⟩)⟩
    · exact .inr ⟨0, hfirst, .inr (.inr ⟨0, hpos, .inl ⟨hnonneg, hle⟩⟩)⟩
    · exact .inr ⟨i, horder.mem_iff.mpr (List.mem_range.mpr hi),
        .inr (.inr ⟨r, hr, .inr ⟨c, hc, hlisted⟩⟩)⟩

end Packing

/-! ### Views whose indices fit -/

namespace ViewElement

variable {e : ViewElement} {count rows columns stride limit : Nat}

/-- The slot is the greatest number that is computed to find an element in the exchange matrix, apart
from the numbers of columns and blocks. -/
theorem forall_exchangeIntegers_lt (he : e.Within count rows columns) (hcount : count < limit)
    (hcolumns : columns < limit) (hslots : rows * columns * count ≤ limit) :
    ∀ k ∈ e.exchangeIntegers count columns, k < limit := by
  have hslot : e.slot count columns < rows * columns * count := he.slot_lt
  have hcolumnsPos : 0 < columns := Nat.zero_lt_of_lt he.column_lt
  have hcountPos : 0 < count := Nat.zero_lt_of_lt he.block_lt
  have hblock := he.block_lt
  have hrow : e.row ≤ e.row * columns := Nat.le_mul_of_pos_right _ hcolumnsPos
  have hplace : e.row * columns + e.column ≤ (e.row * columns + e.column) * count :=
    Nat.le_mul_of_pos_right _ hcountPos
  have hsum : (e.row * columns + e.column) * count + e.block = e.slot count columns := rfl
  simp only [exchangeIntegers, List.forall_mem_cons, List.not_mem_nil, false_imp_iff, implies_true,
    and_true]
  omega

/-- The offset is the greatest number that is computed to find an element in its block, apart from the
numbers of rows and blocks and the stride. -/
theorem forall_blockIntegers_lt (he : e.Within count rows columns) (hcount : count < limit)
    (hrows : rows < limit) (hstride : stride < limit)
    (hend : (rows - 1) * stride + columns ≤ limit) :
    ∀ k ∈ e.blockIntegers stride, k < limit := by
  have hblock := he.block_lt
  have hrow := he.row_lt
  have hcolumn := he.column_lt
  have hoffset : e.row * stride ≤ (rows - 1) * stride := Nat.mul_le_mul_right _ (by omega)
  simp only [blockIntegers, List.forall_mem_cons, List.not_mem_nil, false_imp_iff, implies_true,
    and_true]
  omega

end ViewElement

namespace ExchangeView

/-- The greatest indices of a view are values of type `int`: the numbers of rows and columns, the last
slot of the exchange matrix, and the last element of every block. -/
structure IndicesFit (v : ExchangeView) (blocks : List Block) : Prop where
  rows_lt : v.view.rows.toNat < twoPow 31
  columns_lt : v.view.columns.toNat < twoPow 31
  slots_le : v.view.rows.toNat * v.view.columns.toNat * v.view.count ≤ twoPow 31
  ends_le : ∀ b ∈ blocks, (v.view.rows.toNat - 1) * b.stride.toNat + v.view.columns.toNat ≤ twoPow 31

/-- The stride of the block with a number. -/
def strideOf (blocks : List Block) (i : Nat) : Nat := blocks[i]?.elim 0 (·.stride.toNat)

/-- The integers that are computed to find an element of a view at both of its places. -/
def elementIntegers (v : ExchangeView) (blocks : List Block) (e : ViewElement) : List Nat :=
  e.exchangeIntegers v.view.count v.view.columns.toNat ++ e.blockIntegers (strideOf blocks e.block)

variable {v : ExchangeView} {blocks : List Block}

/-- The stride of a block is the listed one. -/
theorem strideOf_eq {i : Nat} (h : i < blocks.length) :
    strideOf blocks i = blocks[i].stride.toNat := by
  rw [strideOf, List.getElem?_eq_getElem h, Option.elim_some]

/-- The greatest indices decide for all integers that are computed for the elements of a view. -/
theorem indicesFit_iff (hlength : v.view.count = blocks.length) (hcount : v.view.count < twoPow 31)
    (hstrides : ∀ b ∈ blocks, b.stride.toNat < twoPow 31) (hpos : 0 < v.view.count)
    (hrows : 0 < v.view.rows.toNat) (hcolumns : 0 < v.view.columns.toNat) :
    v.IndicesFit blocks ↔
      v.view.rows.toNat < twoPow 31 ∧ v.view.columns.toNat < twoPow 31 ∧
        ∀ e, v.Has e → ∀ k ∈ v.elementIntegers blocks e, k < twoPow 31 := by
  constructor
  · intro h
    refine ⟨h.rows_lt, h.columns_lt, fun e he => ?_⟩
    have hblock : e.block < blocks.length := hlength ▸ he.block_lt
    have hmem := List.getElem_mem hblock
    rw [elementIntegers, strideOf_eq hblock, List.forall_mem_append]
    exact ⟨ViewElement.forall_exchangeIntegers_lt he hcount h.columns_lt h.slots_le,
      ViewElement.forall_blockIntegers_lt he hcount h.rows_lt (hstrides _ hmem) (h.ends_le _ hmem)⟩
  · rintro ⟨hrowsLt, hcolumnsLt, hall⟩
    refine ⟨hrowsLt, hcolumnsLt, ?_, fun b hb => ?_⟩
    · have hslots : 0 < v.view.rows.toNat * v.view.columns.toNat * v.view.count :=
        Nat.mul_pos (Nat.mul_pos hrows hcolumns) hpos
      obtain ⟨e, he, hslot⟩ := ViewElement.exists_slot_eq (Nat.sub_one_lt_of_lt hslots)
      have hlt := hall e he (e.slot v.view.count v.view.columns.toNat)
        (by simp [elementIntegers, ViewElement.exchangeIntegers])
      omega
    · obtain ⟨i, hi, rfl⟩ := List.mem_iff_getElem.mp hb
      let e : ViewElement := ⟨i, v.view.rows.toNat - 1, v.view.columns.toNat - 1⟩
      have he : v.Has e :=
        ⟨hlength ▸ hi, Nat.sub_one_lt_of_lt hrows, Nat.sub_one_lt_of_lt hcolumns⟩
      have hlt := hall e he (e.row * strideOf blocks i + e.column)
        (by simp [e, elementIntegers, ViewElement.blockIntegers])
      rw [strideOf_eq hi] at hlt
      change (v.view.rows.toNat - 1) * _ + (v.view.columns.toNat - 1) < _ at hlt
      omega

end ExchangeView

/-! ### Kernels -/

/-- What surrounds a kernel over one dimension that finds its operands. -/
abbrev Host.indexContext (order : Nat → List Nat) (limit : Nat) :
    Code.Context (indexMachine order) :=
  ⟨0, .alone, limit, fun _ => none, fun _ _ _ => throw .badOperand⟩

/-- All integers that a kernel over one dimension computes for the values of its slots are values of
type `int`. -/
def Host.KeepsInts (order : Nat → List Nat) (limit : Nat) (name : String) (args : List Argument)
    (body : List Stmt) (values : List SlotValue) (memory : Memory) : Prop :=
  ∀ n, (loopFunction name args body).Computes (indexContext order limit)
    (List.zipWith moved (paramTypes 1 args) values) ⟨memory, []⟩ n → IntKind.int.Has n

/-- What a call with the values that the parameters get computes decides. -/
theorem Host.keepsInts_of_computes {order : Nat → List Nat} {limit : Nat} {name : String}
    {args : List Argument} {body : List Stmt} {slots : List SlotValue}
    {values : List (Value fun _ => List UInt8)} {memory : Memory} {p : Int → Prop}
    (hmoved : List.zipWith moved (paramTypes 1 args) slots = values)
    (hcomputes : ∀ n, (loopFunction name args body).Computes (indexContext order limit) values
      ⟨memory, []⟩ n ↔ p n) :
    KeepsInts order limit name args body slots memory ↔ ∀ n, p n → IntKind.int.Has n := by
  subst hmoved
  exact forall_congr' fun n => imp_congr_left (hcomputes n)

namespace Packing

variable {v : ExchangeView} {blocks : List Block} {memory later : Memory} {order : Nat → List Nat}
  {limit : Nat} {view exchange : Intent}

/-- The integers of a kernel that assigns one place of every element to the other fit exactly if the
greatest indices do. -/
theorem keepsInts_assign_iff {target source : Expr} (name : String)
    (hlength : v.view.count = blocks.length) (hcount : v.view.count < twoPow 31)
    (hstrides : ∀ b ∈ blocks, b.stride.toNat < twoPow 31) (hpos : 0 < v.view.count)
    (hrows : 0 < v.view.rows.toNat) (hcolumns : 0 < v.view.columns.toNat)
    (horder : (order v.view.count).Perm (List.range v.view.count))
    (hrowsLimit : v.view.rows.toNat < limit) (hcolumnsLimit : v.view.columns.toNat < limit)
    (hfinds : ∀ e, v.Has e → ∃ kind ms ns,
      target.Finds (Host.indexContext order limit) ⟨memory, elementLocals _ v view exchange e⟩ kind ms ∧
      source.Finds (Host.indexContext order limit) ⟨memory, elementLocals _ v view exchange e⟩ kind ns ∧
      (ms ++ ns).Perm (v.elementIntegers blocks e)) :
    Host.KeepsInts order limit name (Builtin.Packing.arguments v.view.elementType view exchange)
        (Builtin.Packing.blockLoop v.view.rows.toNat v.view.columns.toNat
          (.expr (.assign target source))) (slotValues v) memory ↔
      v.IndicesFit blocks := by
  have hexact : (indexMachine order).IsExact := indexMachine_isExact
  have hperforms : ∀ e, v.Has e → (Stmt.expr (.assign target source)).Performs
      (Host.indexContext order limit) (elementLocals _ v view exchange e) (· = memory) some := by
    intro e he
    obtain ⟨kind, ms, ns, htarget, hsource, -⟩ := hfinds e he
    exact htarget.performs_assign hsource
  have hcomputes : ∀ e, v.Has e → (Stmt.expr (.assign target source)).ComputesExactly
      (Host.indexContext order limit) (elementLocals _ v view exchange e) (· = memory)
      (Listed (v.elementIntegers blocks e)) := by
    intro e he now hnow n
    obtain ⟨kind, ms, ns, htarget, hsource, hperm⟩ := hfinds e he
    rw [htarget.computesExactly_assign hsource now hnow n]
    simp only [Listed, hperm.mem_iff]
  have hloop := computes_blockLoop hexact rfl hpos hrows hrowsLimit hcolumnsLimit horder hperforms
    hcomputes
  obtain ⟨hvalues, hlocals⟩ := boundLocals_kernelValues hexact v view exchange name
    (Builtin.Packing.blockLoop v.view.rows.toNat v.view.columns.toNat (.expr (.assign target source)))
  rw [Host.keepsInts_of_computes (moved_slotValues hcount view exchange) fun n =>
      @Function.computes_iff (indexMachine order) (Host.indexContext order limit) n
        (Host.loopFunction name _ _) _ _ memory _ _ _ rfl hvalues hlocals hloop rfl,
    ExchangeView.indicesFit_iff hlength hcount hstrides hpos hrows hcolumns]
  constructor
  · intro hfit
    refine ⟨?_, ?_, fun e he k hk => ?_⟩
    · exact IntKind.int_has_iff.mp (hfit _ (.inl ⟨Int.natCast_nonneg _, .inr (.inl (Int.le_refl _))⟩))
    · exact IntKind.int_has_iff.mp (hfit _ (.inl ⟨Int.natCast_nonneg _, .inr (.inr (Int.le_refl _))⟩))
    · exact IntKind.int_has_iff.mp (hfit k (.inr ⟨e, he, .of_mem hk⟩))
  · rintro ⟨hrowsLt, hcolumnsLt, helements⟩ n (⟨hnonneg, hle⟩ | ⟨e, he, k, hk, rfl⟩)
    · obtain ⟨k, rfl⟩ := Int.eq_ofNat_of_zero_le hnonneg
      exact IntKind.int_has_iff.mpr (by omega)
    · exact IntKind.int_has_iff.mpr (helements e he k hk)

variable {Fn σ : Type} {backend : Backend Fn σ} {renderer : Renderer} {allocator : Allocator}
  {matrices : List Matrix} {rowMap columnMap : List UInt64} {strides? : Option (List UInt64)}
  {rows columns : UInt64} {made : Memory}

/-- The integers of both kernels for a view that was made fit exactly if the greatest indices of the
view do. -/
theorem keepsInts_iff (hmemory : memory.WellFormed)
    (hcreate : ExchangeView.create allocator matrices rowMap columnMap strides? rows columns memory =
      .ok (v, made)) (hfloat : v.view.elementType.isFloat = true) (hcount : v.view.count < twoPow 31)
    (hlater : v.Undisturbed made later) (horder : (order v.view.count).Perm (List.range v.view.count))
    (hrow : v.view.rows.toNat < limit) (hcolumn : v.view.columns.toNat < limit) :
    (Host.KeepsInts order limit Builtin.Packing.packKernelName
        (Builtin.Packing.arguments v.view.elementType .input .output)
        (Builtin.Packing.packBody v.view.rows.toNat v.view.columns.toNat) (slotValues v) later ↔
      v.IndicesFit (View.blocks matrices rowMap columnMap strides?)) ∧
    (Host.KeepsInts order limit Builtin.Packing.unpackKernelName
        (Builtin.Packing.arguments v.view.elementType .output .input)
        (Builtin.Packing.unpackBody v.view.rows.toNat v.view.columns.toNat) (slotValues v) later ↔
      v.IndicesFit (View.blocks matrices rowMap columnMap strides?)) := by
  obtain ⟨hrecords, -, hnew, hdescribed, hchecked⟩ := ExchangeView.create_places hmemory hcreate
  have hlength : v.view.count = (View.blocks matrices rowMap columnMap strides?).length := by
    rw [hrecords.count_eq, List.length_map]
  have hmatrices := View.length_blocks hdescribed.rowMap_length hdescribed.columnMap_length
    hdescribed.strides_length
  have hpos : 0 < v.view.count := by
    rw [hlength, hmatrices]
    exact hdescribed.matrices_pos
  have hrows : 0 < v.view.rows.toNat := hnew.rows_eq ▸ hdescribed.rows_pos
  have hcolumns : 0 < v.view.columns.toNat := hnew.columns_eq ▸ hdescribed.columns_pos
  have hstrides : ∀ b ∈ View.blocks matrices rowMap columnMap strides?, b.stride.toNat < twoPow 31 :=
    fun b hb => (hchecked b hb).stride_lt
  obtain ⟨kind, hkind, -⟩ := ElementType.exists_floatKind hfloat
  have hfinds {view exchange} (e : ViewElement) (he : v.Has e) :
      Builtin.Packing.viewElement.Finds (Host.indexContext order limit)
        ⟨later, elementLocals _ v view exchange e⟩ kind
        (e.blockIntegers
          (ExchangeView.strideOf (View.blocks matrices rowMap columnMap strides?) e.block)) := by
    have hblock : e.block < (View.blocks matrices rowMap columnMap strides?).length :=
      hlength ▸ he.block_lt
    refine finds_block rfl hkind
      (hrecords.extend hlater.older hlater.mapping_eq hlater.strides_eq) hlater.wellFormed
      (by rwa [List.length_map]) ?_
    rw [List.getElem_map, ExchangeView.strideOf_eq hblock]
    exact (hchecked _ (List.getElem_mem hblock)).kept_eq.2
  constructor
  · exact keepsInts_assign_iff _ hlength hcount hstrides hpos hrows hcolumns horder hrow hcolumn
      fun e he => ⟨kind, _, _, finds_exchange rfl hkind, hfinds e he, .refl _⟩
  · exact keepsInts_assign_iff _ hlength hcount hstrides hpos hrows hcolumns horder hrow hcolumn
      fun e he => ⟨kind, _, _, hfinds e he, finds_exchange rfl hkind, List.perm_append_comm⟩

/-- Both packing kernels that are given for a view loop over its blocks. Whatever memory holds by then
and in whatever order the blocks are done, all integers that a kernel computes are values of type `int`
exactly if the greatest indices of the view are. -/
theorem given_keepInts_iff
    (hpackModule : renderer.templates.get? Builtin.Packing.packModule = some Builtin.Packing.pack)
    (hunpackModule : renderer.templates.get? Builtin.Packing.unpackModule =
      some Builtin.Packing.unpack)
    (hmemory : memory.WellFormed)
    (hcreate : ExchangeView.create allocator matrices rowMap columnMap strides? rows columns memory =
      .ok (v, made)) :
    let packArgs := Builtin.Packing.arguments v.view.elementType .input .output
    let unpackArgs := Builtin.Packing.arguments v.view.elementType .output .input
    let packBody := Builtin.Packing.packBody v.view.rows.toNat v.view.columns.toNat
    let unpackBody := Builtin.Packing.unpackBody v.view.rows.toNat v.view.columns.toNat
    let fits := v.IndicesFit (View.blocks matrices rowMap columnMap strides?)
    (∀ kernel, Gives backend renderer Packing.pack v kernel →
      Loops backend renderer v Builtin.Packing.packKernelName packArgs packBody kernel ∧
        ∀ later order limit, v.Undisturbed made later →
          (order v.view.count).Perm (List.range v.view.count) →
          v.view.rows.toNat < limit → v.view.columns.toNat < limit →
          (Host.KeepsInts order limit Builtin.Packing.packKernelName packArgs packBody (slotValues v)
            later ↔ fits)) ∧
      ∀ kernel, Gives backend renderer Packing.unpack v kernel →
        Loops backend renderer v Builtin.Packing.unpackKernelName unpackArgs unpackBody kernel ∧
          ∀ later order limit, v.Undisturbed made later →
            (order v.view.count).Perm (List.range v.view.count) →
            v.view.rows.toNat < limit → v.view.columns.toNat < limit →
            (Host.KeepsInts order limit Builtin.Packing.unpackKernelName unpackArgs unpackBody
              (slotValues v) later ↔ fits) := by
  obtain ⟨hrecords, hmade, -⟩ := ExchangeView.create_places hmemory hcreate
  have hshape := ExchangeView.create_shaped hmemory hcreate
  have hcount := hrecords.toNat_count hmade
  constructor
  · intro kernel hgives
    obtain ⟨hfloat, hsmall, hloops⟩ := hgives.pack hpackModule hcount hshape
    exact ⟨hloops, fun later order limit hlater horder hrow hcolumn =>
      (keepsInts_iff hmemory hcreate hfloat hsmall hlater horder hrow hcolumn).1⟩
  · intro kernel hgives
    obtain ⟨hfloat, hsmall, hloops⟩ := hgives.unpack hunpackModule hcount hshape
    exact ⟨hloops, fun later order limit hlater horder hrow hcolumn =>
      (keepsInts_iff hmemory hcreate hfloat hsmall hlater horder hrow hcolumn).2⟩

/-- The integers of both kernels fit for two overlapping blocks of two rows and columns. -/
theorem overlappingBlocks_keepInts :
    Host.KeepsInts (fun n => (List.range n).reverse) 3 Builtin.Packing.packKernelName
        (Builtin.Packing.arguments .float64 .input .output) (Builtin.Packing.packBody 2 2)
        (slotValues tiledExchange) tiledExchangeMemory ∧
      Host.KeepsInts List.range 3 Builtin.Packing.unpackKernelName
        (Builtin.Packing.arguments .float64 .output .input) (Builtin.Packing.unpackBody 2 2)
        (slotValues tiledExchange) tiledExchangeMemory := by
  obtain ⟨-, hmade, -⟩ :=
    ExchangeView.create_places View.wellFormed_tiledMemory tiledExchange_created
  have hundisturbed : tiledExchange.Undisturbed tiledExchangeMemory tiledExchangeMemory :=
    ⟨hmade, .refl _, rfl, rfl⟩
  have hfits : tiledExchange.IndicesFit
      (View.blocks [View.tiledMatrix, View.tiledMatrix] [0, 1] [1, 2] (some [4, 0])) :=
    ⟨by decide, by decide, by decide, by decide⟩
  obtain ⟨⟨packKernel, hpack⟩, unpackKernel, hunpack⟩ := tiledExchange_given
  have hints := @given_keepInts_iff tiledExchange View.tiledMemory _ _ textBackend hostRenderer _ _ _
    _ _ _ _ _ hostRenderer_templates.1 hostRenderer_templates.2 View.wellFormed_tiledMemory
    tiledExchange_created
  exact ⟨((hints.1 packKernel hpack).2 _ _ 3 hundisturbed (List.reverse_perm _) (by decide)
      (by decide)).mpr hfits,
    ((hints.2 unpackKernel hunpack).2 _ _ 3 hundisturbed (.refl _) (by decide)
      (by decide)).mpr hfits⟩

/-- Two blocks of one column whose rows all lie on each other, with more elements together than an
`int` counts. -/
def tallExchange : ExchangeView :=
  ⟨⟨⟨1, 0x55813e400080, 16⟩, ⟨2, 0x55813e4000c0, 8⟩, [View.tiledMatrix], 2, 1073741825, 1, .float64⟩,
    ⟨⟨3, 0x55813e400100, 17179869200⟩, ⟨.float64, 1073741825, 2, 2, 2, .dense, by decide, by decide⟩⟩⟩

/-- Both kernels are given for the blocks, and the slot of the first element of the last row overflows
in both of them. -/
theorem tallExchange_overflows :
    ∃ made, ExchangeView.create .host [View.tiledMatrix, View.tiledMatrix] [0, 0] [0, 1]
        (some [0, 0]) 1073741825 1 View.tiledMemory = .ok (tallExchange, made) ∧
      (∃ kernel, Gives textBackend hostRenderer Packing.pack tallExchange kernel) ∧
      (∃ kernel, Gives textBackend hostRenderer Packing.unpack tallExchange kernel) ∧
      (∃ e, tallExchange.Has e ∧ e.slot 2 1 = twoPow 31) ∧
      ¬Host.KeepsInts List.range (twoPow 31) Builtin.Packing.packKernelName
        (Builtin.Packing.arguments .float64 .input .output) (Builtin.Packing.packBody 1073741825 1)
        (slotValues tallExchange) made ∧
      ¬Host.KeepsInts List.range (twoPow 31) Builtin.Packing.unpackKernelName
        (Builtin.Packing.arguments .float64 .output .input) (Builtin.Packing.unpackBody 1073741825 1)
        (slotValues tallExchange) made := by
  have hcreate : ExchangeView.create .host [View.tiledMatrix, View.tiledMatrix] [0, 0] [0, 1]
      (some [0, 0]) 1073741825 1 View.tiledMemory = .ok (tallExchange, _) := rfl
  obtain ⟨-, hmade, -⟩ := ExchangeView.create_places View.wellFormed_tiledMemory hcreate
  have hfits : ¬tallExchange.IndicesFit
      (View.blocks [View.tiledMatrix, View.tiledMatrix] [0, 0] [0, 1] (some [0, 0])) :=
    fun h => absurd h.slots_le (by decide)
  obtain ⟨hpack, hunpack⟩ := @keepsInts_iff tallExchange _ _ List.range (twoPow 31) _ _ _ _ _ _ _ _
    View.wellFormed_tiledMemory hcreate rfl (by decide) ⟨hmade, .refl _, rfl, rfl⟩ (.refl _)
    (by decide) (by decide)
  exact ⟨_, hcreate, exists_gives (by decide +kernel), exists_gives (by decide +kernel),
    ⟨⟨0, 1073741824, 0⟩, ⟨by decide, by decide, by decide⟩, by decide⟩, mt hpack.mp hfits,
    mt hunpack.mp hfits⟩

end Packing

end KernelForge
