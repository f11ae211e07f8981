import KernelForge.Proofs.Storage.Addresses

/-!
# Elements that are copied one after the other

A kernel that moves data reads an element at one address and writes it at another, time and again.
What is written is logged. If no element that is read is one that is written, and none is written
twice, the order of the copies does not matter: every element ends up where it was copied to. If
every element that is written already holds what is copied to it, memory stays as it is.
-/

namespace KernelForge

/-- Memory with a log of all writes, the oldest first: their addresses and lengths. -/
structure LoggedMemory where
  memory : Memory
  writes : List (Nat × Nat)

/-- An element that is copied: the addresses where it is read and where it is written. -/
structure ElementCopy where
  source : Nat
  target : Nat

namespace LoggedMemory

/-- Writes bytes at an address. -/
def write (m : LoggedMemory) (address : Nat) (bytes : List UInt8) : Option LoggedMemory :=
  (m.memory.poke address bytes).map fun memory =>
    ⟨memory, m.writes ++ [(address, bytes.length)]⟩

/-- Copies an element of so many bytes. -/
def copy (size : Nat) (m : LoggedMemory) (c : ElementCopy) : Option LoggedMemory :=
  (m.memory.peek c.source size).bind (m.write c.target)

/-- Copies elements from the first to the last. -/
def copyAll (size : Nat) (copies : List ElementCopy) (m : LoggedMemory) : Option LoggedMemory :=
  copies.foldlM (copy size) m

variable {size : Nat} {m m' : LoggedMemory} {c : ElementCopy} {copies : List ElementCopy}

/-- An element is copied if it can be read and written, and the copy is logged. -/
theorem copy_eq_some :
    copy size m c = some m' ↔
      ∃ bytes memory', m.memory.peek c.source size = some bytes ∧
        m.memory.poke c.target bytes = some memory' ∧
        m' = ⟨memory', m.writes ++ [(c.target, size)]⟩ := by
  unfold copy write
  rw [Option.bind_eq_some_iff]
  constructor
  · rintro ⟨bytes, hpeek, hwrite⟩
    obtain ⟨memory', hpoke, rfl⟩ := Option.map_eq_some_iff.mp hwrite
    exact ⟨bytes, memory', hpeek, hpoke, by rw [Memory.length_of_peek hpeek]⟩
  · rintro ⟨bytes, memory', hpeek, hpoke, rfl⟩
    refine ⟨bytes, hpeek, ?_⟩
    rw [hpoke, Memory.length_of_peek hpeek]
    rfl

/-- The first copy is followed by the others. -/
theorem copyAll_cons (h : copyAll size (c :: copies) m = some m') :
    ∃ middle, copy size m c = some middle ∧ copyAll size copies middle = some m' := by
  rw [copyAll, List.foldlM_cons] at h
  exact Option.bind_eq_some_iff.mp h

/-- The log of copies. -/
theorem writes_of_copyAll (h : copyAll size copies m = some m') :
    m'.writes = m.writes ++ copies.map fun c => (c.target, size) := by
  induction copies generalizing m with
  | nil =>
    cases h
    rw [List.map_nil, List.append_nil]
  | cons c rest ih =>
    obtain ⟨middle, hcopy, hrest⟩ := copyAll_cons h
    obtain ⟨bytes, memory', -, -, rfl⟩ := copy_eq_some.mp hcopy
    rw [ih hrest, List.map_cons, List.append_assoc, List.singleton_append]

/-- What is apart from all elements that are written stays as it is. -/
theorem peek_of_copyAll_apart (h : copyAll size copies m = some m') {address length : Nat}
    (hapart : ∀ c ∈ copies, Apart address length c.target size) :
    m'.memory.peek address length = m.memory.peek address length := by
  induction copies generalizing m with
  | nil =>
    cases h
    rfl
  | cons c rest ih =>
    obtain ⟨middle, hcopy, hrest⟩ := copyAll_cons h
    obtain ⟨bytes, memory', hpeek, hpoke, rfl⟩ := copy_eq_some.mp hcopy
    rw [ih hrest fun c hc => hapart c (List.mem_cons_of_mem _ hc)]
    refine Memory.peek_poke_apart hpoke ?_
    rw [Memory.length_of_peek hpeek]
    exact hapart c List.mem_cons_self

/-- Every element is copied if the elements that are written are apart from each other and from all
that are read. -/
theorem peek_of_copyAll (h : copyAll size copies m = some m')
    (htargets : copies.Pairwise fun c d => Apart c.target size d.target size)
    (hsources : ∀ c ∈ copies, ∀ d ∈ copies, Apart c.source size d.target size) :
    ∀ c ∈ copies, m'.memory.peek c.target size = m.memory.peek c.source size := by
  induction copies generalizing m with
  | nil => exact fun c hc => absurd hc List.not_mem_nil
  | cons d rest ih =>
    obtain ⟨middle, hcopy, hrest⟩ := copyAll_cons h
    obtain ⟨hfirst, hpairs⟩ := List.pairwise_cons.mp htargets
    obtain ⟨bytes, memory', hpeek, hpoke, rfl⟩ := copy_eq_some.mp hcopy
    have hlength := Memory.length_of_peek hpeek
    intro c hc
    rcases List.mem_cons.mp hc with rfl | hc
    · have hself := Memory.peek_poke_self hpoke
      rw [peek_of_copyAll_apart hrest hfirst, hpeek]
      rwa [hlength] at hself
    · have hother := ih hrest hpairs fun c hc d hd =>
        hsources c (List.mem_cons_of_mem _ hc) d (List.mem_cons_of_mem _ hd)
      rw [hother c hc]
      refine Memory.peek_poke_apart hpoke ?_
      rw [hlength]
      exact hsources c (List.mem_cons_of_mem _ hc) d List.mem_cons_self

/-- Nothing changes if every element that is written holds what is read for it. -/
theorem peek_of_copyAll_same (h : copyAll size copies m = some m')
    (hsame : ∀ c ∈ copies, m.memory.peek c.target size = m.memory.peek c.source size)
    (address length : Nat) :
    m'.memory.peek address length = m.memory.peek address length := by
  induction copies generalizing m with
  | nil =>
    cases h
    rfl
  | cons c rest ih =>
    obtain ⟨middle, hcopy, hrest⟩ := copyAll_cons h
    obtain ⟨bytes, memory', hpeek, hpoke, rfl⟩ := copy_eq_some.mp hcopy
    have hthere : m.memory.peek c.target bytes.length = some bytes := by
      rw [Memory.length_of_peek hpeek, hsame c List.mem_cons_self, hpeek]
    have hstep : ∀ {address length : Nat},
        memory'.peek address length = m.memory.peek address length :=
      Memory.peek_poke_same hpoke hthere
    have hrestSame : ∀ c ∈ rest, memory'.peek c.target size = memory'.peek c.source size := by
      intro c hc
      rw [hstep, hstep]
      exact hsame c (List.mem_cons_of_mem _ hc)
    exact (ih hrest hrestSame).trans hstep

/-! ### Copies in another order -/

/-- After copies, every range is located where it was before. -/
theorem locate_of_copyAll (h : copyAll size copies m = some m') (address length : Nat) :
    m'.memory.locate address length = m.memory.locate address length := by
  induction copies generalizing m with
  | nil =>
    cases h
    rfl
  | cons c rest ih =>
    obtain ⟨middle, hcopy, hrest⟩ := copyAll_cons h
    obtain ⟨bytes, memory', -, hpoke, rfl⟩ := copy_eq_some.mp hcopy
    rw [ih hrest, Memory.locate_of_poke hpoke]

/-- Elements that are copied can be read before and after it. -/
theorem isSome_of_copyAll (h : copyAll size copies m = some m') :
    ∀ c ∈ copies, (m.memory.peek c.source size).isSome := by
  induction copies generalizing m with
  | nil => exact fun c hc => absurd hc List.not_mem_nil
  | cons d rest ih =>
    obtain ⟨middle, hcopy, hrest⟩ := copyAll_cons h
    obtain ⟨bytes, memory', hpeek, hpoke, rfl⟩ := copy_eq_some.mp hcopy
    intro c hc
    rcases List.mem_cons.mp hc with rfl | hc
    · rw [hpeek, Option.isSome_some]
    · rw [Memory.isSome_peek, ← Memory.locate_of_poke hpoke, ← Memory.isSome_peek]
      exact ih hrest c hc

/-- The order of copies does not matter if the elements that are written are apart from each other
and from all that are read. -/
theorem peek_of_copyAll_perm {copies' : List ElementCopy} {m'' : LoggedMemory}
    (h : copyAll size copies m = some m') (h' : copyAll size copies' m = some m'')
    (hperm : copies'.Perm copies) (hm' : m'.memory.WellFormed) (hm'' : m''.memory.WellFormed)
    (htargets : copies.Pairwise fun c d => Apart c.target size d.target size)
    (hsources : ∀ c ∈ copies, ∀ d ∈ copies, Apart c.source size d.target size)
    (address length : Nat) :
    m''.memory.peek address length = m'.memory.peek address length := by
  have hcopied := peek_of_copyAll h htargets hsources
  have hcopied' := peek_of_copyAll h'
    ((hperm.pairwise_iff fun hapart => hapart.symm).mpr htargets)
    fun c hc d hd => hsources c (hperm.mem_iff.mp hc) d (hperm.mem_iff.mp hd)
  refine hm'.peek_ext hm'' (fun address length => ?_) (fun address => ?_) address length
  · rw [locate_of_copyAll h, locate_of_copyAll h']
  by_cases hinside : ∃ c ∈ copies, c.target ≤ address ∧ address < c.target + size
  · obtain ⟨c, hc, hbyte⟩ := hinside
    obtain ⟨bytes, hbytes⟩ := Option.isSome_iff_exists.mp (isSome_of_copyAll h c hc)
    exact hm''.peek_byte_congr hm' ((hcopied' c (hperm.mem_iff.mpr hc)).trans hbytes)
      ((hcopied c hc).trans hbytes) hbyte
  · have hapart : ∀ c ∈ copies, Apart address 1 c.target size :=
      fun c hc => apart_byte fun hbyte => hinside ⟨c, hc, hbyte⟩
    rw [peek_of_copyAll_apart h hapart,
      peek_of_copyAll_apart h' fun c hc => hapart c (hperm.mem_iff.mp hc)]

end LoggedMemory

end KernelForge
