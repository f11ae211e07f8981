import KernelForge.Proofs.Packing.Restoring

/-!
# Unpacking and packing again

Scattering an exchange matrix reads each of its entries and writes each element of the blocks. If no
two elements have the same address, they do not overlap either, since those of one matrix are a whole
number of elements apart. Then every order of the blocks leaves the same memory, and gathering writes
to the exchange matrix what it already holds.
-/

namespace KernelForge

/-! ### Elements with different addresses -/

namespace ExchangeView

variable {v : ExchangeView} {memory made : Memory} {placed : List (UInt64 × Int32)}
  {e e' : ViewElement} {m m' : LoggedMemory} {order order' : Nat → List Nat} {address : Nat}

/-- Where the kernels find an element of a view: the buffers of the view hold the address of its
block and the distance between the rows of the block. -/
def ElementAt (v : ExchangeView) (memory : Memory) (e : ViewElement) (address : Nat) : Prop :=
  ∃ (addresses : List UInt64) (strides : List Int32) (block : UInt64) (stride : Int32),
    v.view.addresses memory = .ok (addresses, memory) ∧
      v.view.strideValues memory = .ok (strides, memory) ∧
      addresses[e.block]? = some block ∧ strides[e.block]? = some stride ∧
      (address : Int) =
        block.toNat + (e.row * stride.toInt + e.column) * v.view.elementType.bytes

/-- No two elements of a view have the same address. -/
def DistinctElements (v : ExchangeView) (memory : Memory) : Prop :=
  ∀ e e' address, v.Has e → v.Has e' →
    v.ElementAt memory e address → v.ElementAt memory e' address → e = e'

/-- No two elements of a view overlap. -/
def Spread (v : ExchangeView) (placed : List (UInt64 × Int32)) : Prop :=
  ∀ e e', v.Has e → v.Has e' → e ≠ e' →
    Apart (v.inView placed e) v.view.elementType.bytes
      (v.inView placed e') v.view.elementType.bytes

/-- An element of a view that stands is where its place says. -/
theorem Stands.elementAt_iff (h : v.Stands memory placed) (he : v.Has e) :
    v.ElementAt memory e address ↔ address = v.inView placed e := by
  have hblock : e.block < placed.length := h.records.count_eq ▸ he.block_lt
  have hplace := elementAddress_eq (h.stride_nonneg _ (List.getElem_mem hblock))
    v.view.elementType.bytes e.row e.column
  rw [← inView_eq hblock] at hplace
  constructor
  · rintro ⟨addresses, strides, block, stride, haddresses, hstrides, hblock', hstride, heq⟩
    cases h.records.addresses.symm.trans haddresses
    cases h.records.strideValues.symm.trans hstrides
    rw [List.getElem?_map, List.getElem?_eq_getElem hblock] at hblock' hstride
    cases hblock'
    cases hstride
    exact Int.natCast_inj.mp (heq.trans hplace.symm)
  · rintro rfl
    refine ⟨_, _, placed[e.block].1, placed[e.block].2, h.records.addresses,
      h.records.strideValues, ?_, ?_, hplace⟩
    · rw [List.getElem?_map, List.getElem?_eq_getElem hblock, Option.map_some]
    · rw [List.getElem?_map, List.getElem?_eq_getElem hblock, Option.map_some]

/-- Different elements have different places if no two have the same address. -/
theorem Stands.inView_ne (h : v.Stands memory placed) (hdistinct : v.DistinctElements memory)
    (he : v.Has e) (he' : v.Has e') (hne : e ≠ e') : v.inView placed e ≠ v.inView placed e' :=
  fun heq => hne (hdistinct e e' _ he he' ((h.elementAt_iff he).mpr rfl)
    ((h.elementAt_iff he').mpr heq))

section Created

variable {allocator : Allocator} {matrices : List Matrix} {rowMap columnMap : List UInt64}
  {strides? : Option (List UInt64)} {rows columns : UInt64}

/-- An element of a new view is an element of the matrix of its block, which is a whole number of
elements after the beginning of the matrix. -/
theorem create_inView (h : memory.WellFormed) (hm : ∀ m ∈ matrices, m.Owned memory)
    (hcreate : create allocator matrices rowMap columnMap strides? rows columns memory =
      .ok (v, made)) (he : v.Has e) :
    ∃ a k, memory.Holds a ∧
      v.inView ((View.blocks matrices rowMap columnMap strides?).map Block.kept) e =
        a.address.toNat + k * v.view.elementType.bytes ∧
      a.Covers (v.inView ((View.blocks matrices rowMap columnMap strides?).map Block.kept) e)
        v.view.elementType.bytes := by
  obtain ⟨b, hb, htype, hfits, hr, hc, hplace⟩ := create_block h hm hcreate he
  have howned := View.owned_of_mem_blocks hm b hb
  rw [hplace, ← htype]
  exact ⟨b.matrix.storage, _, howned.held, hfits.elementAddress_kept howned h e.row e.column,
    hfits.covers howned h hr hc⟩

/-- Elements of a new view do not overlap if their addresses are different. -/
theorem create_spread (hexact : allocator.Exact) (h : memory.WellFormed)
    (hm : ∀ m ∈ matrices, m.Owned memory)
    (hcreate : create allocator matrices rowMap columnMap strides? rows columns memory =
      .ok (v, made)) (hdistinct : v.DistinctElements made) :
    v.Spread ((View.blocks matrices rowMap columnMap strides?).map Block.kept) := by
  intro e e' he he' hne
  have hdifferent := (create_stands hexact h hm hcreate).inView_ne hdistinct he he' hne
  obtain ⟨a, k, ha, hplace, hcovers⟩ := create_inView h hm hcreate he
  obtain ⟨a', k', ha', hplace', hcovers'⟩ := create_inView h hm hcreate he'
  by_cases hindex : a.index = a'.index
  · cases ha.eq_of_index ha' hindex
    rw [hplace, hplace'] at hdifferent ⊢
    exact apart_elements fun heq => hdifferent (heq ▸ rfl)
  · exact h.apart_of_covers ha ha' hindex hcovers hcovers'

end Created

/-! ### Copies from the exchange matrix to blocks -/

/-- The copies of a scatter write apart from each other and from what they read. -/
theorem Stands.apart_scatter (h : v.Stands memory placed) (hspread : v.Spread placed)
    (horder : (order v.view.count).Perm (List.range v.view.count)) :
    (((v.elements order).map (v.scatter placed)).Pairwise fun c d =>
        Apart c.target v.view.elementType.bytes d.target v.view.elementType.bytes) ∧
      ∀ c ∈ (v.elements order).map (v.scatter placed),
        ∀ d ∈ (v.elements order).map (v.scatter placed),
          Apart c.source v.view.elementType.bytes d.target v.view.elementType.bytes := by
  refine ⟨List.pairwise_map.mpr ((nodup_elements horder).imp_of_mem fun he he' hne => ?_),
    fun c hc d hd => ?_⟩
  · exact hspread _ _ ((mem_elements horder).mp he) ((mem_elements horder).mp he') hne
  · obtain ⟨e, he, rfl⟩ := List.mem_map.mp hc
    obtain ⟨e', he', rfl⟩ := List.mem_map.mp hd
    exact (h.inView_apart ((mem_elements horder).mp he') ((mem_elements horder).mp he)).symm

/-- Scattering leaves alone what is apart from all elements. -/
theorem peek_scattered_apart (horder : (order v.view.count).Perm (List.range v.view.count))
    (hscattered : m.copyAll v.view.elementType.bytes ((v.elements order).map (v.scatter placed)) =
      some m') {address length : Nat}
    (hapart : ∀ e, v.Has e →
      Apart address length (v.inView placed e) v.view.elementType.bytes) :
    m'.memory.peek address length = m.memory.peek address length := by
  refine LoggedMemory.peek_of_copyAll_apart hscattered fun c hc => ?_
  obtain ⟨e, he, rfl⟩ := List.mem_map.mp hc
  exact hapart e ((mem_elements horder).mp he)

section Scattered

variable (h : v.Stands m.memory placed)
  (horder : (order v.view.count).Perm (List.range v.view.count))
  (hscattered : m.copyAll v.view.elementType.bytes ((v.elements order).map (v.scatter placed)) =
    some m')

include h horder hscattered

/-- Scattering copies every entry of the exchange matrix to its element. -/
theorem Stands.peek_scattered (hspread : v.Spread placed) (he : v.Has e) :
    m'.memory.peek (v.inView placed e) v.view.elementType.bytes =
      m.memory.peek (v.inExchange e) v.view.elementType.bytes := by
  obtain ⟨htargets, hsources⟩ := h.apart_scatter hspread horder
  exact LoggedMemory.peek_of_copyAll hscattered htargets hsources (v.scatter placed e)
    (List.mem_map_of_mem ((mem_elements horder).mpr he))

/-- Scattering leaves the exchange matrix alone. -/
theorem Stands.peek_scattered_exchange {address length : Nat}
    (hcovers : v.exchange.storage.Covers address length) :
    m'.memory.peek address length = m.memory.peek address length := by
  refine peek_scattered_apart horder hscattered fun e he => ?_
  obtain ⟨a, ha, hforeign, hinside⟩ := h.inView_covers he
  exact h.wellFormed.apart_of_covers h.held ha (Ne.symm hforeign.exchange_ne) hcovers hinside

/-- Gathering right after scattering changes nothing. -/
theorem Stands.peek_repacked (hspread : v.Spread placed) {last : LoggedMemory}
    (horder' : (order' v.view.count).Perm (List.range v.view.count))
    (hgathered : m'.copyAll v.view.elementType.bytes ((v.elements order').map (v.gather placed)) =
      some last) (address length : Nat) :
    last.memory.peek address length = m'.memory.peek address length := by
  refine LoggedMemory.peek_of_copyAll_same hgathered (fun c hc => ?_) address length
  obtain ⟨e, he, rfl⟩ := List.mem_map.mp hc
  have hhas := (mem_elements horder').mp he
  exact (h.peek_scattered_exchange horder hscattered (h.inExchange_covers hhas)).trans
    (h.peek_scattered horder hscattered hspread hhas).symm

/-- Scattering in another order leaves the same memory. -/
theorem Stands.peek_scattered_order (hspread : v.Spread placed) {last : LoggedMemory}
    (hmemory : m'.memory.WellFormed) (hlast : last.memory.WellFormed)
    (horder' : (order' v.view.count).Perm (List.range v.view.count))
    (hscattered' : m.copyAll v.view.elementType.bytes ((v.elements order').map (v.scatter placed)) =
      some last) (address length : Nat) :
    last.memory.peek address length = m'.memory.peek address length := by
  obtain ⟨htargets, hsources⟩ := h.apart_scatter hspread horder
  have helements : (v.elements order').Perm (v.elements order) :=
    (List.perm_ext_iff_of_nodup (nodup_elements horder') (nodup_elements horder)).mpr fun e =>
      (mem_elements horder').trans (mem_elements horder).symm
  exact LoggedMemory.peek_of_copyAll_perm hscattered hscattered' (helements.map _) hmemory hlast
    htargets hsources address length

end Scattered

/-! ### What unpacking leaves -/

/-- What the unpacking of a view leaves. Only elements of the view are written, each gets the value
that its entry of the exchange matrix has, and nothing apart from them changes. The exchange matrix
is apart from them. -/
structure Unpacked (v : ExchangeView) (before after : LoggedMemory) : Prop where
  writes : ∃ added, after.writes = before.writes ++ added ∧ ∀ w ∈ added, ∃ e address,
    v.Has e ∧ v.ElementAt before.memory e address ∧ w = (address, v.view.elementType.bytes)
  scattered : ∀ e address, v.Has e → v.ElementAt before.memory e address → ∃ bytes,
    before.memory.peek (v.inExchange e) v.view.elementType.bytes = some bytes ∧
      after.memory.peek address v.view.elementType.bytes = some bytes
  outside : ∀ address length,
    (∀ e place, v.Has e → v.ElementAt before.memory e place →
      Apart address length place v.view.elementType.bytes) →
    after.memory.peek address length = before.memory.peek address length
  exchange : ∀ address length, v.exchange.storage.Covers address length →
    after.memory.peek address length = before.memory.peek address length

/-- Scattering unpacks a view whose elements do not overlap. -/
theorem Stands.unpacked (h : v.Stands m.memory placed) (hspread : v.Spread placed)
    (horder : (order v.view.count).Perm (List.range v.view.count))
    (hscattered : m.copyAll v.view.elementType.bytes ((v.elements order).map (v.scatter placed)) =
      some m') : v.Unpacked m m' where
  writes := by
    refine ⟨_, LoggedMemory.writes_of_copyAll hscattered, fun w hw => ?_⟩
    obtain ⟨c, hc, rfl⟩ := List.mem_map.mp hw
    obtain ⟨e, he, rfl⟩ := List.mem_map.mp hc
    have hhas := (mem_elements horder).mp he
    exact ⟨e, v.inView placed e, hhas, (h.elementAt_iff hhas).mpr rfl, rfl⟩
  scattered e address he hat := by
    cases (h.elementAt_iff he).mp hat
    have hentry := h.wellFormed.peek_of_covers h.held (h.inExchange_covers he)
      v.view.elementType.bytes_pos
    exact ⟨_, hentry, (h.peek_scattered horder hscattered hspread he).trans hentry⟩
  outside address length hapart := by
    refine peek_scattered_apart horder hscattered fun e he => ?_
    exact hapart e _ he ((h.elementAt_iff he).mpr rfl)
  exchange _ _ hcovers := h.peek_scattered_exchange horder hscattered hcovers

end ExchangeView

namespace Packing

variable {Fn σ : Type} {backend : Backend Fn σ} {renderer : Renderer} {allocator : Allocator}
  {matrices : List Matrix} {rowMap columnMap : List UInt64} {strides? : Option (List UInt64)}
  {rows columns : UInt64} {memory made : Memory} {v : ExchangeView}
  {packKernel unpackKernel : BoundKernel Fn}

/-- Both packing kernels for a view of matrices that were made, whose elements have different addresses,
are built from their loops, and launched on the buffers of the view and the exchange matrix. Read as code over exact
integers, whatever memory holds by then, the second one writes the entries of the exchange matrix to
the elements of the view and changes nothing else, and the first one right after it changes nothing.
There is one memory that both leave, in whatever orders the blocks are done, and in it the exchange
matrix is as it was. -/
theorem unpacks_and_repacks
    (hpackModule : renderer.templates.get? Builtin.Packing.packModule = some Builtin.Packing.pack)
    (hunpackModule : renderer.templates.get? Builtin.Packing.unpackModule =
      some Builtin.Packing.unpack)
    (hexact : allocator.Exact) (hmemory : memory.WellFormed)
    (hmatrices : ∀ m ∈ matrices, m.Made memory)
    (hcreate : ExchangeView.create allocator matrices rowMap columnMap strides? rows columns memory =
      .ok (v, made)) (hdistinct : v.DistinctElements made)
    (hpack : Gives backend renderer Packing.pack v packKernel)
    (hunpack : Gives backend renderer Packing.unpack v unpackKernel) :
    let packArgs := Builtin.Packing.arguments v.view.elementType .input .output
    let unpackArgs := Builtin.Packing.arguments v.view.elementType .output .input
    let packBody := Builtin.Packing.packBody v.view.rows.toNat v.view.columns.toNat
    let unpackBody := Builtin.Packing.unpackBody v.view.rows.toNat v.view.columns.toNat
    Loops backend renderer v Builtin.Packing.packKernelName packArgs packBody packKernel ∧
      Loops backend renderer v Builtin.Packing.unpackKernelName unpackArgs unpackBody
        unpackKernel ∧
      ∀ (before : LoggedMemory) (limit : Nat), v.Undisturbed made before.memory →
        v.view.rows.toNat < limit → v.view.columns.toNat < limit →
        ∃ left : Memory,
          (∀ address length, v.exchange.storage.Covers address length →
            left.peek address length = before.memory.peek address length) ∧
          ∀ order order' : Nat → List Nat,
            (order v.view.count).Perm (List.range v.view.count) →
            (order' v.view.count).Perm (List.range v.view.count) →
            ∃ unpacked repacked,
              Host.runMoving order limit Builtin.Packing.unpackKernelName unpackArgs unpackBody
                  (slotValues v) before = .ok unpacked ∧
                v.Unpacked before unpacked ∧
                Host.runMoving order' limit Builtin.Packing.packKernelName packArgs packBody
                  (slotValues v) unpacked = .ok repacked ∧
                ∀ address length,
                  unpacked.memory.peek address length = left.peek address length ∧
                    repacked.memory.peek address length = left.peek address length := by
  have howned : ∀ m ∈ matrices, m.Owned memory := fun m hm => (hmatrices m hm).owned
  have hstands := ExchangeView.create_stands hexact hmemory howned hcreate
  have hspread := ExchangeView.create_spread hexact hmemory howned hcreate hdistinct
  have hshape := ExchangeView.create_shaped hmemory hcreate
  have hcount := hstands.records.toNat_count hstands.wellFormed
  obtain ⟨hfloat, hsmall, hpackLoops⟩ := hpack.pack hpackModule hcount hshape
  obtain ⟨-, -, hunpackLoops⟩ := hunpack.unpack hunpackModule hcount hshape
  refine ⟨hpackLoops, hunpackLoops, fun before limit hbefore hrow hcolumn => ?_⟩
  have hbeforeStands := hstands.undisturbed hbefore
  -- Any order will do for the memory that all others are compared with.
  obtain ⟨first, hfirst, hfirstStands, -⟩ :=
    runMoving_unpack hfloat hsmall hrow hcolumn (.refl (List.range v.view.count)) hbeforeStands
  refine ⟨first.memory, fun address length => ?_, fun order order' horder horder' => ?_⟩
  · exact hbeforeStands.peek_scattered_exchange (.refl _) hfirst
  obtain ⟨unpacked, hscattered, hunpackedStands, hrun⟩ :=
    runMoving_unpack hfloat hsmall hrow hcolumn horder hbeforeStands
  obtain ⟨repacked, hgathered, -, hrun'⟩ :=
    runMoving_pack hfloat hsmall hrow hcolumn horder' hunpackedStands
  refine ⟨unpacked, repacked, hrun, hbeforeStands.unpacked hspread horder hscattered, hrun',
    fun address length => ?_⟩
  have hsame := hbeforeStands.peek_scattered_order (.refl _) hfirst hspread hfirstStands.wellFormed
    hunpackedStands.wellFormed horder hscattered address length
  have hrepacked :=
    hbeforeStands.peek_repacked horder hscattered hspread horder' hgathered address length
  exact ⟨hsame, hrepacked.trans hsame⟩

/-! ### Blocks side by side -/

/-- Two blocks of the first two rows of a matrix, whose rows come in turns. -/
def pairedExchange : ExchangeView :=
  ⟨⟨⟨1, 0x55813e400080, 16⟩, ⟨2, 0x55813e4000c0, 8⟩, [View.tiledMatrix], 2, 2, 2, .float64⟩,
    tiledExchange.exchange⟩

/-- The memory in which the view was made. -/
def pairedExchangeMemory : Memory :=
  ⟨#[⟨0x55813e400000, 96, #[]⟩,
    ⟨0x55813e400080, 16, #[0, 0, 64, 62, 129, 85, 0, 0, 16, 0, 64, 62, 129, 85, 0, 0]⟩,
    ⟨0x55813e4000c0, 8, #[4, 0, 0, 0, 4, 0, 0, 0]⟩, ⟨0x55813e400100, 64, #[]⟩], 0x55813e400140⟩

/-- A later memory, in which an entry of the exchange matrix is one. -/
def pairedExchangeFilled : Memory :=
  pairedExchangeMemory.modifyBuffer 3 fun b => b.write 40 [0, 0, 0, 0, 0, 0, 240, 63]

/-- It is made of the matrix, with its own stride. -/
theorem pairedExchange_created :
    ExchangeView.create .host [View.tiledMatrix, View.tiledMatrix] [0, 0] [0, 2] none 2 2
      View.tiledMemory = .ok (pairedExchange, pairedExchangeMemory) := rfl

/-- The places of its two blocks. -/
def pairedPlaces : List (UInt64 × Int32) := [(0x55813e400000, 4), (0x55813e400010, 4)]

/-- Where an element of them lies. -/
theorem inView_pairedExchange {e : ViewElement} (he : pairedExchange.Has e) :
    (pairedExchange.inView pairedPlaces e : Int) =
      0x55813e400000 + (2 * e.block + 4 * e.row + e.column) * 8 := by
  obtain ⟨i, r, c⟩ := e
  have hi : i < 2 := he.block_lt
  have hstride : 0 ≤ (4 : Int32).toInt := by decide
  obtain rfl | rfl : i = 0 ∨ i = 1 := by omega
  · refine (@elementAddress_eq (0x55813e400000, 4) hstride 8 r c).trans ?_
    change (0x55813e400000 : Int) + (r * 4 + c) * 8 =
      0x55813e400000 + (2 * (0 : Nat) + 4 * r + c) * 8
    omega
  · refine (@elementAddress_eq (0x55813e400010, 4) hstride 8 r c).trans ?_
    change (0x55813e400010 : Int) + (r * 4 + c) * 8 =
      0x55813e400000 + (2 * (1 : Nat) + 4 * r + c) * 8
    omega

/-- The blocks have no element in common. -/
theorem pairedExchange_distinct (h : pairedExchange.Stands pairedExchangeMemory pairedPlaces) :
    pairedExchange.DistinctElements pairedExchangeMemory := by
  rintro ⟨i, r, c⟩ ⟨i', r', c'⟩ address he he' hat hat'
  have hplace := inView_pairedExchange he
  have hplace' := inView_pairedExchange he'
  rw [← (h.elementAt_iff he).mp hat] at hplace
  rw [← (h.elementAt_iff he').mp hat'] at hplace'
  obtain ⟨hi, hr, hc⟩ := he
  obtain ⟨hi', hr', hc'⟩ := he'
  change i < 2 at hi
  change r < 2 at hr
  change c < 2 at hc
  change i' < 2 at hi'
  change r' < 2 at hr'
  change c' < 2 at hc'
  simp only [] at hplace hplace'
  obtain ⟨rfl, rfl, rfl⟩ : i = i' ∧ r = r' ∧ c = c' := by omega
  rfl

/-- The exchange matrix is unpacked from the last block to the first, and packed again from the first
to the last. -/
theorem pairedBlocks_repacked :
    ∃ unpacked repacked : LoggedMemory,
      Host.runMoving (fun n => (List.range n).reverse) 3 Builtin.Packing.unpackKernelName
          (Builtin.Packing.arguments .float64 .output .input) (Builtin.Packing.unpackBody 2 2)
          (slotValues pairedExchange) ⟨pairedExchangeFilled, []⟩ = .ok unpacked ∧
        pairedExchange.Unpacked ⟨pairedExchangeFilled, []⟩ unpacked ∧
        Host.runMoving List.range 3 Builtin.Packing.packKernelName
          (Builtin.Packing.arguments .float64 .input .output) (Builtin.Packing.packBody 2 2)
          (slotValues pairedExchange) unpacked = .ok repacked ∧
        repacked.memory.peek 0x55813e400100 64 = pairedExchangeFilled.peek 0x55813e400100 64 := by
  have hmatrices : ∀ m ∈ [View.tiledMatrix, View.tiledMatrix], m.Made View.tiledMemory := by
    simp [View.made_tiledMatrix]
  have hstands := ExchangeView.create_stands Allocator.host_exact View.wellFormed_tiledMemory
    (fun m hm => (hmatrices m hm).owned) pairedExchange_created
  obtain ⟨packKernel, hpack⟩ : ∃ kernel,
      Gives textBackend hostRenderer Packing.pack pairedExchange kernel :=
    exists_gives (by decide +kernel)
  obtain ⟨unpackKernel, hunpack⟩ : ∃ kernel,
      Gives textBackend hostRenderer Packing.unpack pairedExchange kernel :=
    exists_gives (by decide +kernel)
  obtain ⟨-, -, hall⟩ := unpacks_and_repacks hostRenderer_templates.1 hostRenderer_templates.2
    Allocator.host_exact View.wellFormed_tiledMemory hmatrices pairedExchange_created
    (pairedExchange_distinct hstands) hpack hunpack
  obtain ⟨left, hexchange, horders⟩ := hall ⟨pairedExchangeFilled, []⟩ 3
    ⟨hstands.wellFormed.write _ _ _, Memory.extends_write _ _ _ _, rfl, rfl⟩ (by decide) (by decide)
  obtain ⟨unpacked, repacked, hrun, hunpacked, hrun', hleft⟩ :=
    horders (fun n => (List.range n).reverse) List.range (List.reverse_perm _) (.refl _)
  refine ⟨unpacked, repacked, hrun, hunpacked, hrun', ?_⟩
  exact (hleft _ _).2.trans (hexchange _ _ ⟨by decide, by decide⟩)

end Packing

end KernelForge
