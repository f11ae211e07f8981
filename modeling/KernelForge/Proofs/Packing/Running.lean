import KernelForge.Proofs.Code.Moving
import KernelForge.Proofs.Packing.Elements
import KernelForge.Proofs.Storage.Exchange

/-!
# Running the packing kernels

The two packing kernels have one loop. Its body finds an element of a block through the buffers of
the view, and its place in the exchange matrix, and copies the one to the other. So a run is a list
of copies, one for each element, block by block in the order in which the blocks are done.
-/

namespace KernelForge

open Code

/-! ### Where elements are -/

namespace ExchangeView

variable (v : ExchangeView) (placed : List (UInt64 × Int32)) (e : ViewElement)

/-- The address of an element in its block. -/
def inView : Nat :=
  elementAddress (placed.getD e.block (0, 0)) v.view.elementType.bytes e.row e.column

/-- The address of an element in the exchange matrix. -/
def inExchange : Nat :=
  v.exchange.address.toNat +
    e.slot v.view.count v.view.columns.toNat * v.view.elementType.bytes

/-- An element is copied from its block to the exchange matrix. -/
def gather : ElementCopy := ⟨v.inView placed e, v.inExchange e⟩

/-- An element is copied from the exchange matrix to its block. -/
def scatter : ElementCopy := ⟨v.inExchange e, v.inView placed e⟩

/-- The elements of the blocks of a view. -/
def Has (e : ViewElement) : Prop :=
  e.Within v.view.count v.view.rows.toNat v.view.columns.toNat

/-- The elements of a view, block by block in the order of the blocks. -/
def elements (v : ExchangeView) (order : Nat → List Nat) : List ViewElement :=
  ViewElement.ofBlocks (order v.view.count) v.view.rows.toNat v.view.columns.toNat

variable {v placed e} {memory : Memory} {m : LoggedMemory}

/-- An element of a view lies at its address in its block. -/
theorem inView_eq (h : e.block < placed.length) :
    v.inView placed e =
      elementAddress placed[e.block] v.view.elementType.bytes e.row e.column := by
  rw [inView, List.getD_eq_getElem?_getD, List.getElem?_eq_getElem h, Option.getD_some]

/-- An element of a new view belongs to a block that fits its matrix. -/
theorem create_block {allocator : Allocator} {matrices : List Matrix}
    {rowMap columnMap : List UInt64} {strides? : Option (List UInt64)} {rows columns : UInt64}
    {made : Memory} (h : memory.WellFormed) (hm : ∀ m ∈ matrices, m.Owned memory)
    (hcreate : create allocator matrices rowMap columnMap strides? rows columns memory =
      .ok (v, made)) (he : v.Has e) :
    ∃ b ∈ View.blocks matrices rowMap columnMap strides?,
      b.matrix.elementType = v.view.elementType ∧ b.Fits rows columns ∧ e.row < rows.toNat ∧
        e.column < columns.toNat ∧
        v.inView ((View.blocks matrices rowMap columnMap strides?).map Block.kept) e =
          elementAddress b.kept b.matrix.elementType.bytes e.row e.column := by
  obtain ⟨middle, hview, -⟩ := create_eq_ok_iff.mp hcreate
  obtain ⟨hrecords, -, -, -, -, hfits⟩ := View.create_records h hm hview
  have hnew := View.create_new h hview
  have hblock := hrecords.count_eq ▸ he.block_lt
  have hlt : e.block < (View.blocks matrices rowMap columnMap strides?).length := by
    rwa [List.length_map] at hblock
  have hb := List.getElem_mem hlt
  have htype := hnew.type_eq _ (View.matrix_mem_of_mem_blocks hb)
  refine ⟨_, hb, htype, hfits _ hb, hnew.rows_eq ▸ he.row_lt, hnew.columns_eq ▸ he.column_lt, ?_⟩
  rw [inView_eq hblock, List.getElem_map, htype]

/-- The place of an element in the exchange matrix lies in its allocation. -/
theorem Stands.inExchange_covers (h : v.Stands memory placed) (he : v.Has e) :
    v.exchange.storage.Covers (v.inExchange e) v.view.elementType.bytes := by
  have hslot : e.slot v.view.count v.view.columns.toNat + 1 ≤
      v.view.rows.toNat * v.view.columns.toNat * v.view.count := ViewElement.Within.slot_lt he
  have hle := Nat.mul_le_mul_right v.view.elementType.bytes hslot
  rw [Nat.succ_mul] at hle
  have hsize := h.size_eq
  rw [← h.records.count_eq] at hsize
  refine ⟨Nat.le_add_right _ _, ?_⟩
  rw [inExchange, hsize, Nat.add_assoc]
  exact Nat.add_le_add_left hle _

/-- An element lies in an allocation that is none of those of the view. -/
theorem Stands.inView_covers (h : v.Stands memory placed) (he : v.Has e) :
    ∃ a, memory.Holds a ∧ v.Foreign a ∧
      a.Covers (v.inView placed e) v.view.elementType.bytes := by
  have hblock : e.block < placed.length := h.records.count_eq ▸ he.block_lt
  rw [inView_eq hblock]
  exact h.element _ (List.getElem_mem hblock) _ he.row_lt _ he.column_lt

/-- An element is gathered, and the view still stands. -/
theorem Stands.exists_gather (h : v.Stands m.memory placed) (he : v.Has e) :
    ∃ m', m.copy v.view.elementType.bytes (v.gather placed e) = some m' ∧
      v.Stands m'.memory placed := by
  obtain ⟨a, ha, -, hcovers⟩ := h.inView_covers he
  have hpos := v.view.elementType.bytes_pos
  have hpeek := h.wellFormed.peek_of_covers ha hcovers hpos
  have hlength := Memory.length_of_peek hpeek
  obtain ⟨memory', hpoke, hstands⟩ := h.exists_poke h.held h.mapping_ne h.strides_ne
    (hlength.symm ▸ h.inExchange_covers he) (hlength.symm ▸ hpos)
  exact ⟨_, LoggedMemory.copy_eq_some.mpr ⟨_, memory', hpeek, hpoke, rfl⟩, hstands⟩

/-- An element is scattered, and the view still stands. -/
theorem Stands.exists_scatter (h : v.Stands m.memory placed) (he : v.Has e) :
    ∃ m', m.copy v.view.elementType.bytes (v.scatter placed e) = some m' ∧
      v.Stands m'.memory placed := by
  obtain ⟨a, ha, hforeign, hcovers⟩ := h.inView_covers he
  have hpos := v.view.elementType.bytes_pos
  have hpeek := h.wellFormed.peek_of_covers h.held (h.inExchange_covers he) hpos
  have hlength := Memory.length_of_peek hpeek
  obtain ⟨memory', hpoke, hstands⟩ := h.exists_poke ha hforeign.mapping_ne hforeign.strides_ne
    (hlength.symm ▸ hcovers) (hlength.symm ▸ hpos)
  exact ⟨_, LoggedMemory.copy_eq_some.mpr ⟨_, memory', hpeek, hpoke, rfl⟩, hstands⟩

end ExchangeView

/-! ### What the kernels see -/

namespace Packing

/-- The values of the slots of a packing kernel: the number of blocks, the buffers of the view, the
exchange matrix and its stride. -/
def slotValues (v : ExchangeView) : List SlotValue :=
  [.scalar (.int32 (Int32.ofNat v.view.count)), .pointer v.view.mapping.address,
    .pointer v.view.strides.address, .pointer v.exchange.address,
    .scalar (.int32 (Int32.ofNat v.view.count))]

/-- The local variables of a packing kernel outside its loops. -/
def entryLocals (M : Machine) (v : ExchangeView) (view exchange : Intent) : List (Local M) :=
  [⟨"ldm", .int .int, .int .int v.view.count⟩,
    ⟨"m", elementPointer v.view.elementType exchange,
      .pointer v.view.elementType.cType (.address v.exchange.address.toNat)⟩,
    ⟨"v_vstri", .pointer (.int .int) true,
      .pointer (.int .int) (.address v.view.strides.address.toNat)⟩,
    ⟨"v_vix", .pointer (elementPointer v.view.elementType view) true,
      .pointer (elementPointer v.view.elementType view) (.address v.view.mapping.address.toNat)⟩,
    ⟨"_nx", .int .int, .int .int v.view.count⟩]

/-- The local variables where an element is copied. -/
def elementLocals (M : Machine) (v : ExchangeView) (view exchange : Intent) (e : ViewElement) :
    List (Local M) :=
  counter M "c" e.column :: counter M "r" e.row :: counter M "_x" e.block ::
    entryLocals M v view exchange

variable {v : ExchangeView} {view exchange : Intent} {placed : List (UInt64 × Int32)}
  {e : ViewElement} {order : Nat → List Nat} {m : LoggedMemory}

/-- The arguments of a packing kernel. -/
def kernelValues {Real : FloatKind → Type} (v : ExchangeView) (view : Intent) : List (Value Real) :=
  [.int .int v.view.count,
    .pointer (elementPointer v.view.elementType view) (.address v.view.mapping.address.toNat),
    .pointer (.int .int) (.address v.view.strides.address.toNat),
    .pointer v.view.elementType.cType (.address v.exchange.address.toNat),
    .int .int v.view.count]

/-- A packing kernel gets its arguments from the values of its slots. -/
theorem moved_slotValues (hcount : v.view.count < twoPow 31) (view exchange : Intent) :
    List.zipWith Host.moved
      (paramTypes 1 (Builtin.Packing.arguments v.view.elementType view exchange)) (slotValues v) =
        kernelValues v view := by
  have hint : (Int32.ofNat v.view.count).toInt = v.view.count := Int32.toInt_ofNat_of_lt hcount
  change [Host.moved (.int .int) _, Host.moved (.pointer _ true) _,
    Host.moved (.pointer (.int .int) true) _, Host.moved (.pointer _ _) _,
    Host.moved (.int .int) _] = _
  simp only [Host.moved_int32, Host.moved_pointer, hint, kernelValues]

/-! ### On any machine that reads addresses and strides -/

section Machines

variable {M : Machine} {bytes : M.Memory → Memory} {ctx : Context M}

/-- The arguments of a packing kernel are its local variables. -/
theorem boundLocals_kernelValues (hexact : M.IsExact) (v : ExchangeView) (view exchange : Intent)
    (name : String) (body : List Stmt) :
    List.Forall₂ (fun p x => Value.convert (M := M) p.type x = .ok x)
        (Host.loopFunction name
          (Builtin.Packing.arguments v.view.elementType view exchange) body).params
        (kernelValues v view) ∧
      boundLocals (M := M) (Host.loopFunction name
          (Builtin.Packing.arguments v.view.elementType view exchange) body).params
        (kernelValues v view) = entryLocals M v view exchange := by
  have hcount := convert_int hexact .int v.view.count
  exact ⟨.cons hcount (.cons rfl (.cons rfl (.cons rfl (.cons hcount .nil)))), rfl⟩

section Evaluating

variable (v view exchange e) (now : M.Memory) (hframe : ctx.frame = 0)

include hframe

/-- The body of the inner loop sees all variables. -/
theorem visible_elementLocals :
    RunState.visible ⟨now, elementLocals M v view exchange e⟩ ctx =
      elementLocals M v view exchange e :=
  visible_all hframe

/-- The local variables of integers have their values. -/
theorem counts_elementLocals :
    let s : RunState M := ⟨now, elementLocals M v view exchange e⟩
    (Expr.var "r").Counts ctx s e.row ∧ (Expr.var "c").Counts ctx s e.column ∧
      (Expr.var "_x").Counts ctx s e.block ∧ (Expr.var "ldm").Counts ctx s v.view.count := by
  have hvisible := visible_elementLocals v view exchange e now hframe
  refine ⟨.var (x := counter _ "r" e.row) ?_ rfl rfl, .var (x := counter _ "c" e.column) ?_ rfl rfl,
    .var (x := counter _ "_x" e.block) ?_ rfl rfl,
    .var (x := ⟨"ldm", .int .int, .int .int v.view.count⟩) ?_ rfl rfl⟩
  all_goals
    rw [hvisible]
    rfl

/-- The local variables of arrays lead to them. -/
theorem points_elementLocals :
    let s : RunState M := ⟨now, elementLocals M v view exchange e⟩
    (Expr.var "m").Points ctx s v.view.elementType.cType v.exchange.address.toNat ∧
      (Expr.var "v_vix").Points ctx s (elementPointer v.view.elementType view)
        v.view.mapping.address.toNat ∧
      (Expr.var "v_vstri").Points ctx s (.int .int) v.view.strides.address.toNat := by
  have hvisible := visible_elementLocals v view exchange e now hframe
  refine ⟨.var (x := ⟨"m", elementPointer v.view.elementType exchange, _⟩) ?_ rfl rfl,
    .var (x := ⟨"v_vix", .pointer (elementPointer v.view.elementType view) true, _⟩) ?_ rfl rfl,
    .var (x := ⟨"v_vstri", .pointer (.int .int) true, _⟩) ?_ rfl rfl⟩
  all_goals
    rw [hvisible]
    rfl

/-- The place of an element in the exchange matrix is found. -/
theorem isElement_exchange (hexact : M.IsExact) {kind : FloatKind}
    (hkind : v.view.elementType.cType = .float kind)
    (hbytes : v.view.elementType.bytes = kind.bytes) :
    (Builtin.Packing.exchangeElement v.view.columns.toNat).IsElement ctx
      ⟨now, elementLocals M v view exchange e⟩ kind (v.inExchange e) := by
  obtain ⟨hr, hc, hx, hld⟩ := counts_elementLocals v view exchange e now hframe
  obtain ⟨hpointer, -, -⟩ := points_elementLocals v view exchange e now hframe
  rw [hkind] at hpointer
  have hplace := (hr.mul hexact (.literal v.view.columns.toNat .int)).add hexact hc
  have hoffset := (hplace.paren.mul hexact hld).add hexact hx
  refine ⟨_, _, _, _, rfl, hpointer, hoffset, ?_⟩
  rw [ExchangeView.inExchange, ViewElement.slot, hbytes]
  push_cast
  rfl

variable {v e now} (hsees : M.Sees bytes)

include hsees

/-- The address of a block is loaded from the mapping. -/
theorem points_block (hrecords : v.view.Records (bytes now) placed)
    (hmemory : (bytes now).WellFormed) (he : e.block < placed.length) :
    (Expr.index (.var "v_vix") Builtin.elementIndex).Points ctx
      ⟨now, elementLocals M v view exchange e⟩ v.view.elementType.cType placed[e.block].1.toNat := by
  obtain ⟨-, -, hx, -⟩ := counts_elementLocals v view exchange e now hframe
  obtain ⟨-, hpointer, -⟩ := points_elementLocals v view exchange e now hframe
  refine hpointer.eval_index hx rfl ?_
  have hpeek := hrecords.peek_mapping hmemory he
  have haddress : (v.view.mapping.address.toNat : Int) +
      e.block * (elementPointer v.view.elementType view).bytes =
        (v.view.mapping.address.toNat + 8 * e.block : Nat) := by
    change (v.view.mapping.address.toNat : Int) + e.block * (8 : Nat) = _
    omega
  obtain ⟨real, hload⟩ := hsees now (elementPointer v.view.elementType view) _ _ hpeek
  rw [haddress, hload]
  change some (Value.pointer _ (.address (ofLittleEndian _))) = _
  rw [ofLittleEndian_address]

/-- The stride of a block is loaded from the strides. -/
theorem counts_stride (hrecords : v.view.Records (bytes now) placed)
    (hmemory : (bytes now).WellFormed) (he : e.block < placed.length) :
    (Expr.index (.var "v_vstri") Builtin.elementIndex).Counts ctx
      ⟨now, elementLocals M v view exchange e⟩ placed[e.block].2.toInt := by
  obtain ⟨-, -, hx, -⟩ := counts_elementLocals v view exchange e now hframe
  obtain ⟨-, -, hpointer⟩ := points_elementLocals v view exchange e now hframe
  refine ⟨.int, hpointer.eval_index hx rfl ?_⟩
  have hpeek := hrecords.peek_strides hmemory he
  have haddress : (v.view.strides.address.toNat : Int) + e.block * (CType.int .int).bytes =
      (v.view.strides.address.toNat + 4 * e.block : Nat) := by
    change (v.view.strides.address.toNat : Int) + e.block * (4 : Nat) = _
    omega
  obtain ⟨real, hload⟩ := hsees now (.int .int) _ _ hpeek
  rw [haddress, hload]
  exact congrArg (fun n => some (Value.int IntKind.int n)) (wrap_encode_int32 _)

/-- An element of a block is found. -/
theorem isElement_view (hexact : M.IsExact) (h : v.Stands (bytes now) placed) (he : v.Has e)
    {kind : FloatKind} (hkind : v.view.elementType.cType = .float kind)
    (hbytes : v.view.elementType.bytes = kind.bytes) :
    Builtin.Packing.viewElement.IsElement ctx
      ⟨now, elementLocals M v view exchange e⟩ kind (v.inView placed e) := by
  have hblock : e.block < placed.length := h.records.count_eq ▸ he.block_lt
  obtain ⟨hr, hc, -, -⟩ := counts_elementLocals v view exchange e now hframe
  have hpointer := points_block view exchange hframe hsees h.records h.wellFormed hblock
  have hstride := counts_stride view exchange hframe hsees h.records h.wellFormed hblock
  rw [hkind] at hpointer
  have hoffset := (hr.mul hexact hstride).add hexact hc
  refine ⟨_, _, _, _, rfl, hpointer, hoffset, ?_⟩
  rw [ExchangeView.inView_eq hblock,
    elementAddress_eq (h.stride_nonneg _ (List.getElem_mem hblock)), hbytes]

end Evaluating

/-- The loop of a packing kernel does the step of its body for all elements, block by block. -/
theorem performs_blockLoop (hexact : M.IsExact) (hframe : ctx.frame = 0) {statement : Stmt}
    {inv : M.Memory → Prop} {step : ViewElement → M.Memory → Option M.Memory}
    (hrows : v.view.rows.toNat < ctx.limit) (hcolumns : v.view.columns.toNat < ctx.limit)
    (horder : (M.order v.view.count).Perm (List.range v.view.count))
    (hstatement : ∀ e, v.Has e →
      statement.Performs ctx (elementLocals M v view exchange e) inv (step e)) :
    (Stmt.parallelFor "_x" (.var "_nx") (.block
        (Builtin.Packing.blockLoop v.view.rows.toNat v.view.columns.toNat statement))).Performs ctx
      (entryLocals M v view exchange) inv
      (fun m => (v.elements M.order).foldlM (fun m e => step e m) m) := by
  have hvisible (locals : List (Local M)) : ctx.frame ≤ locals.length := hframe ▸ Nat.zero_le _
  have hcolumn : ∀ i < v.view.count, ∀ r < v.view.rows.toNat,
      (Builtin.Packing.countedLoop "c" v.view.columns.toNat statement).Performs ctx
        (counter _ "r" r :: counter _ "_x" i :: entryLocals _ v view exchange) _ _ :=
    fun i hi r hr => .countedLoop hexact (hvisible _) hcolumns
      fun c hc => hstatement ⟨i, r, c⟩ ⟨hi, hr, hc⟩
  have hblock : ∀ i ∈ M.order v.view.count, (Stmt.block
      (Builtin.Packing.blockLoop v.view.rows.toNat v.view.columns.toNat statement)).Performs ctx
        (counter _ "_x" i :: entryLocals _ v view exchange) _ _ :=
    fun i hi => .block (.countedLoop hexact (hvisible _) hrows
      (hcolumn i (List.mem_range.mp (horder.mem_iff.mp hi))))
  have hbound : ∀ memory : M.Memory, inv memory →
      (Expr.var "_nx").Counts ctx ⟨memory, entryLocals M v view exchange⟩ v.view.count := by
    intro memory _
    refine .var (x := ⟨"_nx", .int .int, .int .int v.view.count⟩) ?_ rfl rfl
    rw [visible_all hframe]
    rfl
  simp only [ExchangeView.elements, ViewElement.foldlM_ofBlocks]
  exact Stmt.Performs.parallelFor hbound hblock

end Machines

/-! ### Runs that move elements -/

/-- What surrounds a packing kernel that is run. -/
abbrev runContext (order : Nat → List Nat) (limit : Nat) : Context (movingMachine order) :=
  ⟨0, .alone, limit, fun _ => none, fun _ _ _ => throw .badOperand⟩

/-- A kernel whose body copies one element does so for every element, block by block. -/
theorem runMoving_blockLoop {limit : Nat} (name : String) {statement : Stmt}
    {copies : ViewElement → ElementCopy} (hcount : v.view.count < twoPow 31)
    (hrows : v.view.rows.toNat < limit) (hcolumns : v.view.columns.toNat < limit)
    (horder : (order v.view.count).Perm (List.range v.view.count))
    (hstatement : ∀ e, v.Has e → statement.Performs (runContext order limit)
      (elementLocals _ v view exchange e) (fun m : LoggedMemory => v.Stands m.memory placed)
      (fun m : LoggedMemory => m.copy v.view.elementType.bytes (copies e)))
    (hstands : v.Stands m.memory placed) :
    ∃ m', m.copyAll v.view.elementType.bytes
        ((v.elements order).map copies) = some m' ∧
      v.Stands m'.memory placed ∧
      Host.runMoving order limit name (Builtin.Packing.arguments v.view.elementType view exchange)
        (Builtin.Packing.blockLoop v.view.rows.toNat v.view.columns.toNat statement) (slotValues v)
        m = .ok m' := by
  have hexact := movingMachine_isExact order
  have hloop := performs_blockLoop hexact rfl hrows hcolumns horder hstatement
  obtain ⟨hvalues, hlocals⟩ := boundLocals_kernelValues hexact v view exchange name
    (Builtin.Packing.blockLoop v.view.rows.toNat v.view.columns.toNat statement)
  have hbody : (Host.loopFunction name (Builtin.Packing.arguments v.view.elementType view exchange)
      (Builtin.Packing.blockLoop v.view.rows.toNat v.view.columns.toNat statement)).body =
        [.parallelFor "_x" (.var "_nx") (.block
          (Builtin.Packing.blockLoop v.view.rows.toNat v.view.columns.toNat statement))] := rfl
  obtain ⟨m', hcopies, hstands', henter⟩ :=
    @enter_of_performs (movingMachine order) m (entryLocals _ v view exchange) _ _
      (runContext order limit) _ _ _ hbody hvalues hlocals hloop hstands
  have hmoved := moved_slotValues hcount view exchange
  refine ⟨m', ?_, hstands', Host.runMoving_of_enter hmoved henter⟩
  rw [LoggedMemory.copyAll, List.foldlM_map]
  exact hcopies

/-- A run of the gathering kernel gathers all elements. -/
theorem runMoving_pack {limit : Nat} (hfloat : v.view.elementType.isFloat = true)
    (hcount : v.view.count < twoPow 31) (hrows : v.view.rows.toNat < limit)
    (hcolumns : v.view.columns.toNat < limit)
    (horder : (order v.view.count).Perm (List.range v.view.count))
    (hstands : v.Stands m.memory placed) :
    ∃ m', m.copyAll v.view.elementType.bytes
        ((v.elements order).map (v.gather placed)) = some m' ∧
      v.Stands m'.memory placed ∧
      Host.runMoving order limit Builtin.Packing.packKernelName
        (Builtin.Packing.arguments v.view.elementType .input .output)
        (Builtin.Packing.packBody v.view.rows.toNat v.view.columns.toNat) (slotValues v) m =
          .ok m' := by
  obtain ⟨kind, hkind, hbytes⟩ := ElementType.exists_floatKind hfloat
  have hexact := movingMachine_isExact order
  refine runMoving_blockLoop _ hcount hrows hcolumns horder (fun e he => ?_) hstands
  rw [hbytes]
  exact performs_assign
    (fun m _ => isElement_exchange v .input .output e m rfl hexact hkind hbytes)
    (fun m hstands =>
      isElement_view .input .output rfl movingMachine_sees hexact hstands he hkind hbytes)
    (fun m hstands => hbytes ▸ hstands.exists_gather he)

/-- A run of the scattering kernel scatters all elements. -/
theorem runMoving_unpack {limit : Nat} (hfloat : v.view.elementType.isFloat = true)
    (hcount : v.view.count < twoPow 31) (hrows : v.view.rows.toNat < limit)
    (hcolumns : v.view.columns.toNat < limit)
    (horder : (order v.view.count).Perm (List.range v.view.count))
    (hstands : v.Stands m.memory placed) :
    ∃ m', m.copyAll v.view.elementType.bytes
        ((v.elements order).map (v.scatter placed)) = some m' ∧
      v.Stands m'.memory placed ∧
      Host.runMoving order limit Builtin.Packing.unpackKernelName
        (Builtin.Packing.arguments v.view.elementType .output .input)
        (Builtin.Packing.unpackBody v.view.rows.toNat v.view.columns.toNat) (slotValues v) m =
          .ok m' := by
  obtain ⟨kind, hkind, hbytes⟩ := ElementType.exists_floatKind hfloat
  have hexact := movingMachine_isExact order
  refine runMoving_blockLoop _ hcount hrows hcolumns horder (fun e he => ?_) hstands
  rw [hbytes]
  exact performs_assign
    (fun m hstands =>
      isElement_view .output .input rfl movingMachine_sees hexact hstands he hkind hbytes)
    (fun m _ => isElement_exchange v .output .input e m rfl hexact hkind hbytes)
    (fun m hstands => hbytes ▸ hstands.exists_scatter he)

end Packing

end KernelForge
