import KernelForge.Proofs.Packing.Requests
import KernelForge.Proofs.Storage.Entries

/-!
# Packing and unpacking

Gathering the blocks of a view writes every element of the exchange matrix once, since elements have
different places there, and reads none of them, since the blocks lie in other allocations. So all
orders of the blocks give the same matrix, also if blocks overlap. Scattering it right afterwards
writes to every element of a block what the element already holds.
-/

namespace KernelForge

/-! ### Copies between blocks and the exchange matrix -/

namespace ExchangeView

variable {v : ExchangeView} {memory made later : Memory} {placed : List (UInt64 × Int32)}
  {e e' : ViewElement} {m m' : LoggedMemory} {order : Nat → List Nat}

/-- The elements that the blocks of any order have are those of the view. -/
theorem mem_elements (horder : (order v.view.count).Perm (List.range v.view.count)) :
    e ∈ v.elements order ↔ v.Has e := by
  rw [elements, ViewElement.mem_ofBlocks, horder.mem_iff, List.mem_range]
  exact ⟨fun h => ⟨h.1, h.2.1, h.2.2⟩, fun h => ⟨h.block_lt, h.row_lt, h.column_lt⟩⟩

/-- No order of the blocks has an element twice. -/
theorem nodup_elements (horder : (order v.view.count).Perm (List.range v.view.count)) :
    (v.elements order).Nodup :=
  ViewElement.nodup_ofBlocks (horder.nodup_iff.mpr List.nodup_range)

/-- Different elements have places apart from each other in the exchange matrix. -/
theorem inExchange_apart (he : v.Has e) (he' : v.Has e') (hne : e ≠ e') :
    Apart (v.inExchange e) v.view.elementType.bytes (v.inExchange e') v.view.elementType.bytes :=
  apart_elements fun heq => hne (he.slot_injective he' heq)

/-- The elements of blocks are apart from the exchange matrix. -/
theorem Stands.inView_apart (h : v.Stands memory placed) (he : v.Has e) (he' : v.Has e') :
    Apart (v.inView placed e) v.view.elementType.bytes
      (v.inExchange e') v.view.elementType.bytes := by
  obtain ⟨a, ha, hforeign, hcovers⟩ := h.inView_covers he
  exact h.wellFormed.apart_of_covers ha h.held hforeign.exchange_ne hcovers
    (h.inExchange_covers he')

/-- Gathering copies every element of a block to its place. -/
theorem Stands.peek_gathered (h : v.Stands m.memory placed)
    (horder : (order v.view.count).Perm (List.range v.view.count))
    (hcopies : m.copyAll v.view.elementType.bytes ((v.elements order).map (v.gather placed)) =
      some m') (he : v.Has e) :
    m'.memory.peek (v.inExchange e) v.view.elementType.bytes =
      m.memory.peek (v.inView placed e) v.view.elementType.bytes := by
  refine LoggedMemory.peek_of_copyAll hcopies ?_ ?_ (v.gather placed e)
    (List.mem_map_of_mem ((mem_elements horder).mpr he))
  · refine List.pairwise_map.mpr ((nodup_elements horder).imp_of_mem fun he he' hne => ?_)
    exact inExchange_apart ((mem_elements horder).mp he) ((mem_elements horder).mp he') hne
  · intro c hc d hd
    obtain ⟨e, he, rfl⟩ := List.mem_map.mp hc
    obtain ⟨e', he', rfl⟩ := List.mem_map.mp hd
    exact h.inView_apart ((mem_elements horder).mp he) ((mem_elements horder).mp he')

/-- Gathering leaves alone what is apart from the exchange matrix. -/
theorem Stands.peek_gathered_apart (h : v.Stands m.memory placed)
    (horder : (order v.view.count).Perm (List.range v.view.count))
    (hcopies : m.copyAll v.view.elementType.bytes ((v.elements order).map (v.gather placed)) =
      some m') {address length : Nat}
    (hapart : Apart address length v.exchange.address.toNat v.exchange.storage.size) :
    m'.memory.peek address length = m.memory.peek address length := by
  refine LoggedMemory.peek_of_copyAll_apart hcopies fun c hc => ?_
  obtain ⟨e, he, rfl⟩ := List.mem_map.mp hc
  exact (h.inExchange_covers ((mem_elements horder).mp he)).apart hapart

/-- The address and the length of an entry of the exchange matrix. -/
def entry (v : ExchangeView) (k : Nat) : Nat × Nat :=
  (v.exchange.address.toNat + k * v.view.elementType.bytes, v.view.elementType.bytes)

/-- Gathering writes every entry of the exchange matrix once, and writes nothing else. -/
theorem writes_gathered (horder : (order v.view.count).Perm (List.range v.view.count))
    (hcopies : m.copyAll v.view.elementType.bytes ((v.elements order).map (v.gather placed)) =
      some m') :
    ∃ added, m'.writes = m.writes ++ added ∧
      added.Perm ((List.range (v.view.rows.toNat * v.view.columns.toNat * v.view.count)).map
        v.entry) := by
  refine ⟨_, LoggedMemory.writes_of_copyAll hcopies, ?_⟩
  have hslots : ((v.elements order).map (·.slot v.view.count v.view.columns.toNat)).Perm _ :=
    ViewElement.perm_slots horder
  have hentries := hslots.map v.entry
  rw [List.map_map] at hentries ⊢
  exact hentries

/-- Scattering right after gathering changes nothing. -/
theorem Stands.peek_restored (h : v.Stands m.memory placed)
    (horder : (order v.view.count).Perm (List.range v.view.count))
    (hgathered : m.copyAll v.view.elementType.bytes ((v.elements order).map (v.gather placed)) =
      some m') {order' : Nat → List Nat} {last : LoggedMemory}
    (horder' : (order' v.view.count).Perm (List.range v.view.count))
    (hscattered : m'.copyAll v.view.elementType.bytes ((v.elements order').map (v.scatter placed)) =
      some last) (address length : Nat) :
    last.memory.peek address length = m'.memory.peek address length := by
  refine LoggedMemory.peek_of_copyAll_same hscattered (fun c hc => ?_) address length
  obtain ⟨e, he, rfl⟩ := List.mem_map.mp hc
  have hhas := (mem_elements horder').mp he
  obtain ⟨a, ha, hforeign, hcovers⟩ := h.inView_covers hhas
  change m'.memory.peek (v.inView placed e) _ = m'.memory.peek (v.inExchange e) _
  rw [h.peek_gathered horder hgathered hhas]
  refine h.peek_gathered_apart horder hgathered ?_
  have hwhole : v.exchange.storage.Covers v.exchange.address.toNat v.exchange.storage.size :=
    ⟨Nat.le_refl _, Nat.le_refl _⟩
  exact h.wellFormed.apart_of_covers ha h.held hforeign.exchange_ne hcovers hwhole

/-! ### What packing leaves -/

/-- A later memory in which the buffers of a view are as they were when the view was made.
Everything else may have changed. -/
structure Undisturbed (v : ExchangeView) (made later : Memory) : Prop where
  wellFormed : later.WellFormed
  older : later.Extends made
  mapping_eq : later.buffer v.view.mapping = made.buffer v.view.mapping
  strides_eq : later.buffer v.view.strides = made.buffer v.view.strides

/-- A view stands in a memory in which its buffers are as they were. -/
theorem Stands.undisturbed (h : v.Stands made placed) (hlater : v.Undisturbed made later) :
    v.Stands later placed :=
  h.extend hlater.wellFormed hlater.older hlater.mapping_eq hlater.strides_eq

/-- What the packing of a view leaves. Every entry of the exchange matrix was written once and
nothing else was written. The entry of an element has the value that was in its block, which is
found through the address and the stride of the block. -/
structure Packed (v : ExchangeView) (before after : LoggedMemory) : Prop where
  writes : ∃ added, after.writes = before.writes ++ added ∧
    added.Perm ((List.range (v.view.rows.toNat * v.view.columns.toNat * v.view.count)).map v.entry)
  outside : ∀ address length,
    Apart address length v.exchange.address.toNat v.exchange.storage.size →
      after.memory.peek address length = before.memory.peek address length
  gathered : ∃ addresses strides values,
    v.view.addresses before.memory = .ok (addresses, before.memory) ∧
    v.view.strideValues before.memory = .ok (strides, before.memory) ∧
    v.exchange.get v.view.elementType after.memory = .ok (values, after.memory) ∧
    values.length = v.view.rows.toNat * v.view.columns.toNat * v.view.count ∧
    ∀ i r c : Nat, i < v.view.count → r < v.view.rows.toNat → c < v.view.columns.toNat →
      ∃ (address : UInt64) (stride : Int32) (source : Nat) (bytes : List UInt8),
        addresses[i]? = some address ∧ strides[i]? = some stride ∧
        (source : Int) =
          address.toNat + (r * stride.toInt + c) * v.view.elementType.bytes ∧
        before.memory.peek source v.view.elementType.bytes = some bytes ∧
        values[(r * v.view.columns.toNat + c) * v.view.count + i]? =
          some (v.view.elementType.decode bytes)

/-- Gathering packs a view whose exchange matrix owns its elements. -/
theorem Stands.packed (h : v.Stands m.memory placed) (h' : v.Stands m'.memory placed)
    (hexchange : v.exchange.Owned made) (hshape : v.Shaped)
    (horder : (order v.view.count).Perm (List.range v.view.count))
    (hcopies : m.copyAll v.view.elementType.bytes ((v.elements order).map (v.gather placed)) =
      some m') : v.Packed m m' where
  writes := writes_gathered horder hcopies
  outside _ _ hapart := h.peek_gathered_apart horder hcopies hapart
  gathered := by
    have howned : v.exchange.Owned m'.memory := ⟨h'.held, hexchange.size_eq⟩
    obtain ⟨values, hget, hlength, hvalues⟩ := howned.get_eq_ok h'.wellFormed hshape.columns_eq
      hshape.type_eq
    have htotal : v.exchange.layout.leading.toNat * v.exchange.layout.rows.toNat =
        v.view.rows.toNat * v.view.columns.toNat * v.view.count := by
      rw [hshape.leading_eq, hshape.rows_eq, Nat.mul_comm]
    rw [htotal] at hlength hvalues
    refine ⟨_, _, values, h.records.addresses, h.records.strideValues, hget, hlength,
      fun i r c hi hr hc => ?_⟩
    let e : ViewElement := ⟨i, r, c⟩
    have he : v.Has e := ⟨hi, hr, hc⟩
    have hblock : i < placed.length := h.records.count_eq ▸ hi
    obtain ⟨bytes, hpeek, hvalue⟩ := hvalues _ he.slot_lt
    have hsource := h.peek_gathered horder hcopies he
    refine ⟨placed[i].1, placed[i].2, v.inView placed e, bytes, ?_, ?_, ?_, ?_, hvalue⟩
    · rw [List.getElem?_map, List.getElem?_eq_getElem hblock, Option.map_some]
    · rw [List.getElem?_map, List.getElem?_eq_getElem hblock, Option.map_some]
    · rw [inView_eq (e := e) hblock]
      exact elementAddress_eq (h.stride_nonneg _ (List.getElem_mem hblock)) _ r c
    · exact hsource.symm.trans hpeek

end ExchangeView

namespace Packing

variable {Fn σ : Type} {backend : Backend Fn σ} {renderer : Renderer} {allocator : Allocator}
  {matrices : List Matrix} {rowMap columnMap : List UInt64} {strides? : Option (List UInt64)}
  {rows columns : UInt64} {memory made : Memory} {v : ExchangeView}
  {packKernel unpackKernel : BoundKernel Fn}

/-- A backend whose functions are the texts that they were built from. -/
def textBackend : Backend String Unit where
  render name _ _ := pure ⟨name, .ofArguments 1 []⟩
  build _ source _ := pure source
  launch _ _ _ := pure ()

/-- The renderer of the built-in kernels for the host. -/
def hostRenderer : Renderer := .ofTarget .host .double .builtin

/-- Two blocks of one matrix that overlap. All rows of the second block are the same. -/
def tiledExchange : ExchangeView :=
  ⟨⟨⟨1, 0x55813e400080, 16⟩, ⟨2, 0x55813e4000c0, 8⟩, [View.tiledMatrix], 2, 2, 2, .float64⟩,
    ⟨⟨3, 0x55813e400100, 64⟩, ⟨.float64, 4, 2, 2, 2, .dense, by decide, by decide⟩⟩⟩

/-- The memory in which the view was made. -/
def tiledExchangeMemory : Memory :=
  ⟨#[⟨0x55813e400000, 96, #[]⟩,
    ⟨0x55813e400080, 16, #[8, 0, 64, 62, 129, 85, 0, 0, 48, 0, 64, 62, 129, 85, 0, 0]⟩,
    ⟨0x55813e4000c0, 8, #[4, 0, 0, 0, 0, 0, 0, 0]⟩, ⟨0x55813e400100, 64, #[]⟩], 0x55813e400140⟩

/-- It is made of the matrix. -/
theorem tiledExchange_created :
    ExchangeView.create .host [View.tiledMatrix, View.tiledMatrix] [0, 1] [1, 2] (some [4, 0]) 2 2
      View.tiledMemory = .ok (tiledExchange, tiledExchangeMemory) := rfl

/-- It has both packing modules. -/
theorem hostRenderer_templates :
    hostRenderer.templates.get? Builtin.Packing.packModule = some Builtin.Packing.pack ∧
      hostRenderer.templates.get? Builtin.Packing.unpackModule = some Builtin.Packing.unpack := by
  simp only [hostRenderer, Renderer.ofTarget, TemplateLibrary.builtin, Builtin.templates,
    NameMap.ofList, List.foldl_cons, List.foldl_nil, NameMap.get?_insert]
  exact ⟨rfl, rfl⟩

/-- What the packing of a new provider does for a view. -/
def newKernel (name : Packing → String) (v : ExchangeView) : Except KernelError (BoundKernel String) :=
  (Packing.kernel (textBackend.rendering hostRenderer) (name ⟨"pack", "unpack"⟩) v
    (History.after (textBackend.rendering hostRenderer) ⟨.empty, ()⟩ [.packing]).session).1

/-- A kernel is given for a view if a new provider gives one. -/
theorem exists_gives {name : Packing → String} (h : (newKernel name v).isOk = true) :
    ∃ kernel, Gives textBackend hostRenderer name v kernel := by
  obtain ⟨kernel, hkernel⟩ := exists_of_isOk h
  exact ⟨kernel, _, [], [], ⟨"pack", "unpack"⟩, rfl, hkernel⟩

/-- Both kernels are given for the view on a new provider. -/
theorem tiledExchange_given :
    (∃ kernel, Gives textBackend hostRenderer Packing.pack tiledExchange kernel) ∧
      ∃ kernel, Gives textBackend hostRenderer Packing.unpack tiledExchange kernel :=
  ⟨exists_gives (by decide +kernel), exists_gives (by decide +kernel)⟩

end Packing

end KernelForge
