import KernelForge.Proofs.Storage.Buffers

/-!
# Sizes of matrices

A matrix is made in an allocation of as many bytes as its rows take, padding included. The bytes are
counted by products of 64-bit numbers that nothing checks: accepted sizes whose bytes are not a 64-bit
number do not lead to a refusal but to the end of the program. A matrix that was made has the bytes of
its sizes in natural numbers, so it owns its elements if it got what was asked for.
-/

namespace KernelForge

/-! ### Layouts -/

namespace Layout

/-- A layout has the sizes that are asked for: rows touch, and have the stride of the leading
dimension, unless something else is given. -/
structure HasSizes (layout : Layout) (type : ElementType) (rows columns : UInt64)
    (leading? subLeading? : Option UInt64) (density : Density) : Prop where
  type_eq : layout.elementType = type
  rows_eq : layout.rows = rows
  columns_eq : layout.columns = columns
  leading_eq : layout.leading = leading?.getD columns
  subLeading_eq : layout.subLeading = subLeading?.getD (leading?.getD columns)
  density_eq : layout.density = density

variable {type : ElementType} {rows columns : UInt64} {leading? subLeading? : Option UInt64}
  {density : Density} {layout : Layout}

/-- Sizes that are not accepted are refused. -/
theorem make_refused (type : ElementType) (density : Density)
    (h : ¬Accepted rows columns (leading?.getD columns) (subLeading?.getD (leading?.getD columns))) :
    ∃ error, make type rows columns leading? subLeading? density = .error error ∧
      ∀ operation, error ≠ .overflow operation := by
  simp only [make]
  split
  · exact ⟨_, rfl, nofun⟩
  · next hshape =>
    split
    · exact ⟨_, rfl, nofun⟩
    · next hleading =>
      split
      · exact ⟨_, rfl, nofun⟩
      · next hsub => exact absurd (accepted_iff.mpr ⟨hshape, hleading, hsub⟩) h

section Accepted

variable
  (h : Accepted rows columns (leading?.getD columns) (subLeading?.getD (leading?.getD columns)))

include h

/-- Of accepted sizes a layout is made if their bytes are a 64-bit number. -/
theorem make_of_accepted
    (hbytes : (leading?.getD columns).toNat * rows.toNat * type.bytes < twoPow 64) :
    make type rows columns leading? subLeading? density =
      .ok ⟨type, rows, columns, leading?.getD columns, subLeading?.getD (leading?.getD columns),
        density, h, hbytes⟩ := by
  obtain ⟨hshape, hleading, hsub⟩ := accepted_iff.mp h
  simp only [make]
  rw [dif_neg hshape, dif_neg hleading, dif_neg hsub, dif_pos hbytes]

/-- Otherwise the product for their bytes overflows. -/
theorem make_overflows
    (hoverflow : twoPow 64 ≤ (leading?.getD columns).toNat * rows.toNat * type.bytes) :
    make type rows columns leading? subLeading? density = .error (.overflow "multiply") := by
  obtain ⟨hshape, hleading, hsub⟩ := accepted_iff.mp h
  simp only [make]
  rw [dif_neg hshape, dif_neg hleading, dif_neg hsub, dif_neg (Nat.not_lt.mpr hoverflow)]

end Accepted

/-- A layout is made exactly of its own sizes. -/
theorem make_eq_ok_iff : make type rows columns leading? subLeading? density = .ok layout ↔
    layout.HasSizes type rows columns leading? subLeading? density := by
  constructor
  · intro h
    by_cases haccepted : Accepted rows columns (leading?.getD columns)
        (subLeading?.getD (leading?.getD columns))
    · rcases Nat.lt_or_ge ((leading?.getD columns).toNat * rows.toNat * type.bytes) (twoPow 64) with
        hbytes | hoverflow
      · cases (make_of_accepted haccepted hbytes).symm.trans h
        exact ⟨rfl, rfl, rfl, rfl, rfl, rfl⟩
      · cases (make_overflows haccepted hoverflow).symm.trans h
    · obtain ⟨error, herror, -⟩ := make_refused type density haccepted
      cases herror.symm.trans h
  · obtain ⟨_, _, _, leading, subLeading, _, haccepted, hbytes⟩ := layout
    rintro ⟨rfl, rfl, rfl, hleading, hsub, rfl⟩
    simp only [] at hleading hsub
    subst hleading hsub
    exact make_of_accepted haccepted hbytes

end Layout

/-! ### Allocations -/

/-- A source of buffers that fails or gives what it is asked for. -/
def Allocator.Exact (allocator : Allocator) : Prop :=
  ∀ size granted, allocator.grant size = .ok granted → granted = size

/-- Host memory gives what it is asked for. -/
theorem Allocator.host_exact : Allocator.host.Exact := by
  intro size granted h
  simp only [host] at h
  split at h
  · cases h
  · cases h
    rfl

variable {allocator : Allocator} {memory memory' : Memory}

/-- An exact source gives allocations of the sizes that were asked for. -/
theorem Memory.size_of_allocate (hexact : allocator.Exact) {size : UInt64} {a : Allocation}
    (h : allocate allocator size memory = .ok (a, memory')) : a.size = size.toNat := by
  obtain ⟨granted, hgrant, hreserve⟩ := request_ofExcept_bind.mp h
  obtain ⟨-, heq⟩ := reserve_eq_ok.mp hreserve
  cases heq
  rw [hexact size granted hgrant]

/-! ### New matrices -/

namespace Matrix

variable {type : ElementType} {rows columns : UInt64} {leading? subLeading? : Option UInt64}
  {density : Density} {m : Matrix}

/-- A new matrix has the layout of its sizes, and an allocation of its bytes. -/
theorem create_eq_ok_iff :
    create allocator type rows columns leading? subLeading? density memory = .ok (m, memory') ↔
      m.layout.HasSizes type rows columns leading? subLeading? density ∧
        Memory.allocate allocator m.layout.bytes memory = .ok (m.storage, memory') := by
  rw [← Layout.make_eq_ok_iff]
  constructor
  · intro h
    obtain ⟨layout, hlayout, hrest⟩ := request_ofExcept_bind.mp h
    obtain ⟨storage, last, hallocate, hrest⟩ := request_ok_of_bind hrest
    cases hrest
    exact ⟨hlayout, hallocate⟩
  · rintro ⟨hlayout, hallocate⟩
    exact request_ofExcept_bind.mpr ⟨m.layout, hlayout, request_bind hallocate⟩

/-- A request for a matrix fails where one for its layout fails. -/
theorem create_of_make_error {error : StorageError}
    (h : Layout.make type rows columns leading? subLeading? density = .error error) :
    create allocator type rows columns leading? subLeading? density memory = .error error := by
  refine request_bind_error ?_
  rw [h]
  rfl

/-- A request for a matrix whose layout is made is one for its bytes. -/
theorem create_of_make_ok {layout : Layout}
    (h : Layout.make type rows columns leading? subLeading? density = .ok layout) :
    create allocator type rows columns leading? subLeading? density memory =
      (Memory.allocate allocator layout.bytes memory).map fun granted =>
        (⟨granted.1, layout⟩, granted.2) := by
  unfold create
  rw [h]
  rfl

/-- A matrix owns its elements in a new allocation of its bytes. -/
theorem owned_of_allocate (hexact : allocator.Exact) (h : memory.WellFormed)
    (hallocate : Memory.allocate allocator m.layout.bytes memory = .ok (m.storage, memory')) :
    m.Owned memory' :=
  ⟨(h.added hallocate).held, (Memory.size_of_allocate hexact hallocate).trans m.layout.toNat_bytes⟩

/-- A new matrix owns its elements. -/
theorem owned_of_create (hexact : allocator.Exact) (h : memory.WellFormed)
    (hcreate :
      create allocator type rows columns leading? subLeading? density memory = .ok (m, memory')) :
    m.Owned memory' :=
  owned_of_allocate hexact h (create_eq_ok_iff.mp hcreate).2

/-- Sizes that are not accepted are refused. Of accepted sizes the program ends if their bytes,
padding included, are not a 64-bit number. Otherwise a matrix of the sizes is made exactly if its
bytes can be had, and so many it gets. -/
theorem create_allocates (hexact : allocator.Exact) (type : ElementType) (rows columns : UInt64)
    (leading? subLeading? : Option UInt64) (density : Density) (memory : Memory) :
    let leading := leading?.getD columns
    let subLeading := subLeading?.getD leading
    let bytes := leading.toNat * rows.toNat * type.bytes
    let request := create allocator type rows columns leading? subLeading? density memory
    (¬Layout.Accepted rows columns leading subLeading →
      ∃ error, request = .error error ∧ ∀ operation, error ≠ .overflow operation) ∧
    (Layout.Accepted rows columns leading subLeading → twoPow 64 ≤ bytes →
      request = .error (.overflow "multiply")) ∧
    (Layout.Accepted rows columns leading subLeading → bytes < twoPow 64 →
      ∃ layout : Layout, layout.HasSizes type rows columns leading? subLeading? density ∧
        request = (Memory.allocate allocator (UInt64.ofNat bytes) memory).map fun granted =>
          (⟨granted.1, layout⟩, granted.2)) ∧
    ∀ m memory', request = .ok (m, memory') →
      Layout.Accepted rows columns leading subLeading ∧ bytes < twoPow 64 ∧
        m.layout.HasSizes type rows columns leading? subLeading? density ∧
        m.storage.size = bytes := by
  intro leading subLeading bytes request
  refine ⟨fun hrefused => ?_, fun haccepted hoverflow => ?_, fun haccepted hbytes => ?_,
    fun m memory' hcreate => ?_⟩
  · obtain ⟨error, hmake, hrefusal⟩ := Layout.make_refused type density hrefused
    exact ⟨error, create_of_make_error hmake, hrefusal⟩
  · exact create_of_make_error (Layout.make_overflows haccepted hoverflow)
  · have hmake : Layout.make type rows columns leading? subLeading? density = _ :=
      Layout.make_of_accepted haccepted hbytes
    refine ⟨_, Layout.make_eq_ok_iff.mp hmake, (create_of_make_ok hmake).trans ?_⟩
    rw [← UInt64.ofNat_toNat (x := Layout.bytes _), Layout.toNat_bytes]
  · obtain ⟨hsizes, hallocate⟩ := create_eq_ok_iff.mp hcreate
    have hsize := Memory.size_of_allocate hexact hallocate
    have haccepted := m.layout.accepted
    have hbytes := m.layout.bytes_lt
    rw [Layout.toNat_bytes] at hsize
    rw [hsizes.leading_eq, hsizes.rows_eq, hsizes.type_eq] at hsize hbytes
    rw [hsizes.rows_eq, hsizes.columns_eq, hsizes.leading_eq, hsizes.subLeading_eq] at haccepted
    exact ⟨haccepted, hbytes, hsizes, hsize⟩

/-- Six elements take what they need. -/
theorem smallMatrix_allocates : Allocator.host.Exact ∧ ∃ m memory',
    create .host .int32 2 3 none none .dense .empty = .ok (m, memory') ∧ m.storage.size = 24 := by
  have hcreate : create .host .int32 2 3 none none .dense .empty = .ok (_, _) := rfl
  obtain ⟨-, -, -, hmade⟩ :=
    create_allocates Allocator.host_exact .int32 2 3 none none .dense .empty
  obtain ⟨-, -, -, hsize⟩ := hmade _ _ hcreate
  exact ⟨Allocator.host_exact, _, _, hcreate, hsize⟩

/-- The elements of a matrix of three columns can take more bytes than a 64-bit number counts. The
program ends, although the sizes are accepted. -/
theorem tallMatrix_overflows :
    Layout.Accepted 6148914691236517206 3 3 3 ∧ twoPow 64 ≤ 3 * 6148914691236517206 * 4 ∧
      create .host .int32 6148914691236517206 3 none none .dense .empty =
        .error (.overflow "multiply") :=
  ⟨by decide, by decide, rfl⟩

/-! ### Matrices that were made -/

/-- A matrix was made from an exact source, and memory has at most grown since then. -/
inductive Made (m : Matrix) : Memory → Prop
  | create {allocator : Allocator} {before after : Memory} {type : ElementType}
      {rows columns : UInt64} {leading? subLeading? : Option UInt64} {density : Density} :
      allocator.Exact → before.WellFormed →
        create allocator type rows columns leading? subLeading? density before = .ok (m, after) →
        Made m after
  | later {before after : Memory} : Made m before → after.Extends before → Made m after

/-- A matrix that was made owns its elements. -/
theorem Made.owned (h : m.Made memory) : m.Owned memory := by
  induction h with
  | create hexact hbefore hcreate => exact owned_of_create hexact hbefore hcreate
  | later _ hextends ih => exact ih.extend hextends

end Matrix

end KernelForge
