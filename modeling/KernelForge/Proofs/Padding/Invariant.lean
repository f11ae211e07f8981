import KernelForge.Proofs.Padding.Sessions

/-!
# What sessions keep

All matrices of a session own different allocations, the buffers of its views lie in others, and every
element of a view is an element of a matrix. The padding is zero between any two steps: whoever writes
a matrix clears its padding, and a kernel that runs over padding computes zero from zeros.
-/

namespace KernelForge

namespace Padding

variable {R : Type} [Ring R]

namespace State

variable (s : State R)

/-! ### Addresses -/

/-- An address of an element of some matrix. -/
def ElementAt (address : Nat) : Prop := ∃ m ∈ s.matrices, m.ElementAt address

/-- An address of padding of some matrix. -/
def PaddingAt (address : Nat) : Prop := ∃ m ∈ s.matrices, m.PaddingAt address

/-! ### The invariant -/

/-- A view of the session: its blocks are placed, its buffers belong to no matrix, and what it reaches
are elements of matrices. -/
structure Shows (v : ExchangeView) (placed : List (UInt64 × Int32)) : Prop where
  exchange_mem : v.exchange ∈ s.matrices
  shaped : v.Shaped
  stands : v.Stands s.exact.memory placed
  buffers_ne : ∀ m ∈ s.matrices, m.storage.index ≠ v.view.mapping.index ∧
    m.storage.index ≠ v.view.strides.index
  element : ∀ e, v.Has e → s.ElementAt (v.inView placed e)

/-- The matrices of a session own different allocations, its views show elements, and all padding is
zero. -/
structure Sound : Prop where
  wellFormed : s.exact.memory.WellFormed
  owned : ∀ m ∈ s.matrices, m.Owned s.exact.memory
  distinct : ∀ m ∈ s.matrices, ∀ m' ∈ s.matrices, m.storage.index = m'.storage.index → m = m'
  views : ∀ v ∈ s.views, ∃ placed, s.Shows v placed
  zero : s.exact.ZeroOn s.PaddingAt

/-- A session begins without matrices. -/
theorem sound_start (numbers : Nat → R) : (start numbers).Sound where
  wellFormed := Memory.wellFormed_empty
  owned _ h := nomatch h
  distinct _ h := nomatch h
  views _ h := nomatch h
  zero _ h := nomatch h

variable {s}

omit [Ring R] in
/-- The place of an element of a view in the exchange matrix is an element. -/
theorem Shows.elementAt_exchange {v : ExchangeView} {placed : List (UInt64 × Int32)}
    (h : s.Shows v placed) {e : ViewElement} (he : v.Has e) : s.ElementAt (v.inExchange e) := by
  have hrow : e.row * v.view.columns.toNat + e.column < v.exchange.layout.rows.toNat :=
    h.shaped.rows_eq ▸ ViewElement.mul_add_lt he.row_lt he.column_lt
  have hcolumn : e.block < v.exchange.layout.columns.toNat := by
    rw [h.shaped.columns_eq, h.shaped.leading_eq]
    exact he.block_lt
  refine ⟨v.exchange, h.exchange_mem, _, _, hrow, hcolumn, ?_⟩
  rw [Matrix.entryAddress, h.shaped.leading_eq, h.shaped.type_eq]
  rfl

namespace Sound

variable {m : Matrix} {address : Nat} {exact : ExactMemory R} {memory : Memory}

/-- In the allocation of a matrix no other matrix has padding. -/
theorem paddingAt_of_covers (h : s.Sound) (hm : m ∈ s.matrices) {width : Nat} (hwidth : 0 < width)
    (hcovers : m.storage.Covers address width) (hpadding : s.PaddingAt address) :
    m.PaddingAt address := by
  obtain ⟨m', hm', hpadding⟩ := hpadding
  by_cases hindex : m'.storage.index = m.storage.index
  · rwa [← h.distinct m' hm' m hm hindex]
  · have hapart := h.wellFormed.apart_of_covers (h.owned m' hm').held (h.owned m hm).held hindex
      ((h.owned m' hm').covers_padding hpadding) hcovers
    exact absurd rfl (hapart.ne m'.elementType.bytes_pos hwidth)

/-- Elements of matrices are not padding of any. -/
theorem not_paddingAt (h : s.Sound) (helement : s.ElementAt address) : ¬ s.PaddingAt address := by
  obtain ⟨m, hm, helement⟩ := helement
  intro hpadding
  exact helement.not_paddingAt (h.paddingAt_of_covers hm m.elementType.bytes_pos
    ((h.owned m hm).covers_element helement) hpadding)

/-- Matrices of one layout have their padding at the same places. -/
theorem paddingAt_same (h : s.Sound) {m' : Matrix} (hm : m ∈ s.matrices) (hm' : m' ∈ s.matrices)
    (hlayout : m'.layout = m.layout) {k : Nat} (hk : k < m.layout.elements.toNat)
    (hpadding : s.PaddingAt (m.address.toNat + k * m.elementType.bytes)) :
    s.PaddingAt (m'.address.toNat + k * m.elementType.bytes) := by
  have hcovered := (h.owned m hm).coveredBy
  have hentry : k < m.layout.rows.toNat * m.layout.leading.toNat := by
    rwa [Nat.mul_comm, ← hcovered.count_eq]
  have hrow := (Matrix.paddingAt_iff hentry).mp
    (h.paddingAt_of_covers hm m.elementType.bytes_pos (hcovered.inside k hk) hpadding)
  rw [← hlayout] at hentry hrow
  have htype : m'.elementType = m.elementType := congrArg Layout.elementType hlayout
  exact ⟨m', hm', htype ▸ (Matrix.paddingAt_iff hentry).mpr hrow⟩

/-- Changing numbers keeps everything but the zeros. -/
theorem numbers (h : s.Sound) (hmemory : exact.memory = s.exact.memory)
    (hzero : exact.ZeroOn s.PaddingAt) : (⟨exact, s.matrices, s.views⟩ : State R).Sound where
  wellFormed := hmemory ▸ h.wellFormed
  owned x hx := hmemory ▸ h.owned x hx
  distinct := h.distinct
  views v hv := by
    obtain ⟨placed, hshows⟩ := h.views v hv
    exact ⟨placed, hshows.exchange_mem, hshows.shaped, hmemory ▸ hshows.stands,
      hshows.buffers_ne, hshows.element⟩
  zero := hzero

/-- Numbers that are put at addresses keep the state sound if no padding gets another number than
zero, given that all padding is zero. -/
theorem putAll (h : s.Sound) {ι : Type} {target : ι → Nat} {value : ι → ExactMemory R → R}
    {entries : List ι} (hvalue : ∀ i ∈ entries, s.PaddingAt (target i) →
      ∀ now : ExactMemory R, now.ZeroOn s.PaddingAt → value i now = 0) :
    (⟨s.exact.putAll target value entries, s.matrices, s.views⟩ : State R).Sound :=
  h.numbers (ExactMemory.memory_putAll ..) (h.zero.putAll hvalue)

/-! ### Matrices that are written -/

/-- A matrix of the session that was written, or a new one, whose padding was cleared. -/
theorem reread (h : s.Sound) (reading : Reading R) {matrices : List Matrix}
    (hcleared : m.Cleared s.exact.memory memory) (howned : m.Owned memory)
    (hm : m ∈ matrices)
    (hmatrices : ∀ x ∈ matrices, x = m ∨ x ∈ s.matrices) (hold : ∀ x ∈ s.matrices, x ∈ matrices)
    (hnew : m ∈ s.matrices ∨ ∀ a, s.exact.memory.Holds a → a.index ≠ m.storage.index) :
    (⟨s.exact.reread reading m memory, matrices, s.views⟩ : State R).Sound := by
  have hindex : ∀ x ∈ s.matrices, x.storage.index = m.storage.index → x = m := by
    intro x hx heq
    rcases hnew with hmem | hnew
    · exact h.distinct x hx m hmem heq
    · exact absurd heq (hnew _ (h.owned x hx).held)
  have hmatricesOwned : ∀ x ∈ matrices, x.Owned memory := by
    intro x hx
    rcases hmatrices x hx with rfl | hx
    · exact howned
    · exact (h.owned x hx).extend hcleared.older
  refine ⟨hcleared.wellFormed, hmatricesOwned, fun x hx y hy heq => ?_, fun v hv => ?_, ?_⟩
  · rcases hmatrices x hx with hfirst | holdX
    · rcases hmatrices y hy with hsecond | holdY
      · rw [hfirst, hsecond]
      · rw [hfirst] at heq ⊢
        exact (hindex y holdY heq.symm).symm
    · rcases hmatrices y hy with rfl | holdY
      · exact hindex x holdX heq
      · exact h.distinct x holdX y holdY heq
  · obtain ⟨placed, hshows⟩ := h.views v hv
    have hbuffers : m.storage.index ≠ v.view.mapping.index ∧
        m.storage.index ≠ v.view.strides.index := by
      rcases hnew with hmem | hnew
      · exact hshows.buffers_ne m hmem
      · exact ⟨(hnew _ hshows.stands.records.mapping_held).symm,
          (hnew _ hshows.stands.records.strides_held).symm⟩
    refine ⟨placed, hold _ hshows.exchange_mem, hshows.shaped,
      hshows.stands.extend hcleared.wellFormed hcleared.older ?_ ?_, fun x hx => ?_,
      fun e he => ?_⟩
    · exact hcleared.buffer_eq _ hshows.stands.records.mapping_held hbuffers.1.symm
    · exact hcleared.buffer_eq _ hshows.stands.records.strides_held hbuffers.2.symm
    · rcases hmatrices x hx with rfl | hx
      · exact hbuffers
      · exact hshows.buffers_ne x hx
    · obtain ⟨x, hx, helement⟩ := hshows.element e he
      exact ⟨x, hold x hx, helement⟩
  · rintro address ⟨x, hx, hpadding⟩
    change (if _ then _ else _) = _
    by_cases hinside : m.address.toNat ≤ address ∧
        address + m.elementType.bytes ≤ m.address.toNat + m.storage.size
    · -- The allocations of other matrices lie elsewhere, so the address is padding of this one.
      have hthis : m.PaddingAt address := by
        by_cases heq : x.storage.index = m.storage.index
        · rcases hmatrices x hx with rfl | hx
          · exact hpadding
          · rwa [← hindex x hx heq]
        · have hcovers : m.storage.Covers address m.elementType.bytes := hinside
          have hapart := hcleared.wellFormed.apart_of_covers (hmatricesOwned x hx).held howned.held
            heq ((hmatricesOwned x hx).covers_padding hpadding) hcovers
          exact absurd rfl (hapart.ne x.elementType.bytes_pos m.elementType.bytes_pos)
      rw [if_pos hinside, Memory.valueAt, hcleared.padding address hthis, Option.getD_some,
        ElementType.decode_encode, Reading.value_zero]
    · rw [if_neg hinside]
      rcases hmatrices x hx with rfl | hx
      · exact absurd (howned.covers_padding hpadding) hinside
      · exact h.zero address ⟨x, hx, hpadding⟩

/-- A matrix of the session that is written with its padding cleared. -/
theorem write (h : s.Sound) (reading : Reading R) (hm : m ∈ s.matrices)
    (hcleared : m.Cleared s.exact.memory memory) :
    (⟨s.exact.reread reading m memory, s.matrices, s.views⟩ : State R).Sound :=
  h.reread reading hcleared ((h.owned m hm).extend hcleared.older) hm
    (fun _ hx => .inr hx) (fun _ hx => hx) (.inl hm)

/-- A new matrix whose padding is zero. -/
theorem insert (h : s.Sound) (reading : Reading R) (hcleared : m.Cleared s.exact.memory memory)
    (howned : m.Owned memory)
    (hnew : s.exact.memory.buffers.size ≤ m.storage.index) :
    (⟨s.exact.reread reading m memory, m :: s.matrices, s.views⟩ : State R).Sound := by
  refine h.reread reading hcleared howned List.mem_cons_self
    (fun x hx => List.mem_cons.mp hx) (fun x hx => List.mem_cons_of_mem m hx) (.inr fun a ha => ?_)
  have hlt := ha.index_lt
  omega

/-- A new view that shows elements. -/
theorem insertView (h : s.Sound) {v : ExchangeView} {placed : List (UInt64 × Int32)}
    (hv : s.Shows v placed) : (⟨s.exact, s.matrices, v :: s.views⟩ : State R).Sound where
  wellFormed := h.wellFormed
  owned := h.owned
  distinct := h.distinct
  views x hx := by
    have hshows : ∃ placed, s.Shows x placed := by
      rcases List.mem_cons.mp hx with rfl | hx
      · exact ⟨placed, hv⟩
      · exact h.views x hx
    obtain ⟨placed, hshows⟩ := hshows
    exact ⟨placed, hshows.exchange_mem, hshows.shaped, hshows.stands,
      hshows.buffers_ne, hshows.element⟩
  zero := h.zero

end Sound

end State

end Padding

end KernelForge
