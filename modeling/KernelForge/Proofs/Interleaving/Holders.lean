import KernelForge.Proofs.Interleaving.Effects
import Mathlib.Algebra.Order.BigOperators.Group.Finset

/-!
# Who holds the locks and the handles

A lock is taken exactly while one request holds it. The number of handles on a gate is the number of
those that the table of gates and the requests have. Both hold after every step.
-/

namespace KernelForge.Interleaving

variable {K V T : Type}

/-- There are no requests at the start. -/
theorem request?_start (name : String) (p : Position T) :
    (State.start name : State K V T).request? p = none := by
  simp [State.start, State.request?]

/-- There are none when nobody does anything. -/
theorem request?_of_idle {s : State K V T} (hidle : s.Idle) (p : Position T) :
    s.request? p = none := by
  simp [State.request?, hidle p.1]

/-- How many handles on a gate the table has. -/
def Shared.listed (m : Shared K V T) (g : Gate) : Nat := m.gates.countP (·.2 = g)

variable [DecidableEq K] [DecidableEq T]

/-- What holds before the first step, and is kept by every step of a request, holds after every run,
of the state and of what its steps have told. -/
theorem Run.trace_invariant {P : List (Event K V T) → State K V T → Prop} {s s' : State K V T}
    {trace : List (Event K V T)} (hrun : Run s trace s') (hs : P [] s)
    (hkeep : ∀ {done : List (Event K V T)} {s₁ s₂ : State K V T} {choice : Choice K V T}
      {e : Event K V T} {p : Position T}, Run s done s₁ → s₁.step? choice = some (e, s₂) →
      StepAt s₁ e s₂ p → P done s₁ → P (done ++ [e]) s₂) : P trace s' := by
  induction hrun with
  | nil => exact hs
  | snoc hbefore hstep ih =>
    obtain ⟨p, hat⟩ := step_at hstep
    exact hkeep hbefore hstep hat ih

/-- What holds at first and is kept by every step holds after every run. -/
theorem Run.invariant {P : State K V T → Prop} {s s' : State K V T} {trace : List (Event K V T)}
    (hkeep : ∀ {s s' : State K V T} {e : Event K V T} {p : Position T},
      P s → StepAt s e s' p → P s')
    (hrun : Run s trace s') (hs : P s) : P s' :=
  hrun.trace_invariant (P := fun _ => P) hs fun _ _ hat h => hkeep h hat

/-! ### Locks -/

/-- The locks that are taken are those that a request holds, and only one request holds each. -/
structure Locking (s : State K V T) : Prop where
  locked_iff : ∀ l, s.shared.locked l = true ↔ ∃ p, holdsAt (s.request? p) l = true
  unique : ∀ {l p q}, holdsAt (s.request? p) l = true → holdsAt (s.request? q) l = true → p = q

omit [DecidableEq K] [DecidableEq T] in
/-- No lock is taken at the start. -/
theorem locking_start (name : String) : Locking (State.start name : State K V T) where
  locked_iff l := by
    simp only [request?_start, holdsAt_none, Bool.false_eq_true, exists_false, iff_false]
    simp [State.start, Shared.empty]
  unique h := by simp [request?_start] at h

omit [DecidableEq K] [DecidableEq T] in
/-- A lock that is taken is held by a request in flight. -/
theorem Locking.exists_holder {s : State K V T} (hs : Locking s) {l : Lock}
    (hlocked : s.shared.locked l = true) :
    ∃ q r, s.request? q = some r ∧ r.stage.holds l = true := by
  obtain ⟨q, hholds⟩ := (hs.locked_iff l).mp hlocked
  obtain ⟨r, hr, hstage⟩ := (Option.any_eq_true _ _).mp hholds
  exact ⟨q, r, hr, hstage⟩

/-- A step that takes a lock or gives it back changes who holds this lock at its own position. -/
theorem StepAt.holdsAt_eq {s s' : State K V T} {e : Event K V T} {p : Position T} {l : Lock}
    {held : Bool} (hat : StepAt s e s' p)
    (hchanged : ∀ l', holdsAt (s'.request? p) l' =
      if l' = l then held else holdsAt (s.request? p) l') (q : Position T) (l' : Lock) :
    holdsAt (s'.request? q) l' =
      if q = p ∧ l' = l then held else holdsAt (s.request? q) l' := by
  by_cases hq : q = p
  · simp only [hq, hchanged, true_and]
  · simp only [hat.frame q hq, hq, false_and, if_false]

/-- A request can only take a lock that no request holds. -/
theorem Locking.step {s s' : State K V T} {e : Event K V T} {p : Position T} (hs : Locking s)
    (hat : StepAt s e s' p) : Locking s' := by
  obtain ⟨hiff, hunique⟩ := hs
  rcases hat.effect.locks with ⟨hlocked, hsame⟩ | ⟨l, hfree, hlocked, hchanged⟩ |
    ⟨l, hheld, hlocked, hchanged⟩
  · have hall (q : Position T) (l : Lock) :
        holdsAt (s'.request? q) l = holdsAt (s.request? q) l :=
      hat.same (f := (holdsAt · l)) (hsame l) q
    refine ⟨fun l => ?_, fun {l q r} hq hr => ?_⟩
    · simp only [hlocked, hall, hiff]
    · rw [hall] at hq hr
      exact hunique hq hr
  · -- Before the step nobody holds the lock that is taken.
    have hnone (q : Position T) : holdsAt (s.request? q) l = false := by
      by_contra hq
      have hlocked := (hiff l).mpr ⟨q, by simpa using hq⟩
      rw [hfree] at hlocked
      cases hlocked
    have hall := hat.holdsAt_eq hchanged
    refine ⟨fun l' => ?_, fun {l' q r} hq hr => ?_⟩
    · by_cases hl : l' = l
      · subst hl
        simp only [hlocked, Function.update_self, true_iff]
        exact ⟨p, by simp only [hall, and_self, if_true]⟩
      · simp only [hlocked, Function.update_of_ne hl, hall, hl, and_false, if_false, hiff]
    · rw [hall] at hq hr
      by_cases hl : l' = l
      · simp only [hl, hnone, and_true, Bool.if_false_right, Bool.and_true, decide_eq_true_eq]
          at hq hr
        rw [hq, hr]
      · simp only [hl, and_false, if_false] at hq hr
        exact hunique hq hr
  · have hall := hat.holdsAt_eq hchanged
    refine ⟨fun l' => ?_, fun {l' q r} hq hr => ?_⟩
    · by_cases hl : l' = l
      · subst hl
        simp only [hlocked, Function.update_self, Bool.false_eq_true, false_iff, not_exists, hall]
        intro q hq
        by_cases hqp : q = p
        · simp only [hqp, and_self, if_true, Bool.false_eq_true] at hq
        · simp only [hqp, false_and, if_false] at hq
          exact hqp (hunique hq hheld)
      · simp only [hlocked, Function.update_of_ne hl, hall, hl, and_false, if_false, hiff]
    · rw [hall] at hq hr
      split at hq
      · cases hq
      · split at hr
        · cases hr
        · exact hunique hq hr

/-! ### Handles -/

/-- What a table gives for a key is one of its entries. -/
theorem Table.mem_of_lookup {A : Type} {table : Table K A} {key : K} {a : A}
    (h : table.lookup key = some a) : (key, a) ∈ table := by
  obtain ⟨before, after, htable, -⟩ := List.lookup_eq_some_iff.mp h
  rw [htable]
  exact List.mem_append_right _ List.mem_cons_self

/-- A key that is taken out takes its own gate along and no other. -/
theorem Table.countP_remove {table : Table K Gate} (h : (table.map Prod.fst).Nodup) (key : K)
    (g : Gate) :
    (table.remove key).countP (·.2 = g) + (if table.lookup key = some g then 1 else 0) =
      table.countP (·.2 = g) := by
  induction table with
  | nil => simp [remove]
  | cons e rest ih =>
    obtain ⟨other, a⟩ := e
    obtain ⟨hnotin, hrest⟩ := List.nodup_cons.mp h
    by_cases hother : other = key
    · have hlookup : rest.lookup key = none := by
        rw [List.lookup_eq_none_iff]
        intro e he
        have hne : key ≠ e.1 := fun heq =>
          hnotin (List.mem_map.mpr ⟨e, he, (hother.trans heq).symm⟩)
        simpa using hne
      have hremove : remove ((other, a) :: rest) key = rest := by
        rw [remove, List.filter_cons_of_neg (by simpa using hother)]
        exact remove_of_lookup_eq_none hlookup
      rw [hremove, List.countP_cons, List.lookup_cons, hother, beq_self_eq_true]
      simp
    · have hremove : remove ((other, a) :: rest) key = (other, a) :: remove rest key := by
        rw [remove, List.filter_cons_of_pos (by simpa using hother)]
        rfl
      rw [hremove, List.countP_cons, List.countP_cons, List.lookup_cons,
        beq_false_of_ne (Ne.symm hother), ← ih hrest]
      simp only
      omega

/-- Only what moves changes a sum. -/
theorem sum_move (f f' : Position T → Nat) {p : Position T} {S : Finset (Position T)}
    (hp : p ∈ S) (hframe : ∀ q, q ≠ p → f' q = f q) :
    ∑ q ∈ S, f' q + f p = ∑ q ∈ S, f q + f' p := by
  have hrest : ∑ q ∈ S.erase p, f' q = ∑ q ∈ S.erase p, f q :=
    Finset.sum_congr rfl fun q hq => hframe q (Finset.ne_of_mem_erase hq)
  have hf := Finset.add_sum_erase S f hp
  have hf' := Finset.add_sum_erase S f' hp
  omega

/-- All requests are at positions among these. -/
def State.Within (s : State K V T) (S : Finset (Position T)) : Prop :=
  ∀ p, p ∉ S → s.request? p = none

section Within

variable {s s' : State K V T} {e : Event K V T} {p : Position T} {S : Finset (Position T)}

/-- A step adds no position but its own. -/
theorem State.Within.step (h : s.Within S) (hat : StepAt s e s' p) : s'.Within (insert p S) := by
  intro q hq
  obtain ⟨hqp, hqS⟩ := not_or.mp (mt Finset.mem_insert.mpr hq)
  rw [hat.frame q hqp, h q hqS]

/-- A step changes a sum over all requests by what it changes at its own position. -/
theorem State.Within.sum_step (h : s.Within S) (hat : StepAt s e s' p)
    {f : Option (Request K V) → Nat} (hf : f none = 0) :
    ∑ q ∈ insert p S, f (s'.request? q) + f (s.request? p) =
      ∑ q ∈ S, f (s.request? q) + f (s'.request? p) := by
  have hinsert : ∑ q ∈ insert p S, f (s.request? q) = ∑ q ∈ S, f (s.request? q) :=
    Finset.sum_insert_of_eq_zero_if_notMem fun hp => by rw [h p hp, hf]
  rw [← hinsert]
  exact sum_move (fun q => f (s.request? q)) (fun q => f (s'.request? q))
    (Finset.mem_insert_self p S) fun q hq => by rw [hat.frame q hq]

omit [DecidableEq K] in
/-- A request has at most the share of all requests. -/
theorem State.Within.le_sum (h : s.Within S) (f : Option (Request K V) → Nat) (hf : f none = 0)
    (p : Position T) : f (s.request? p) ≤ ∑ q ∈ S, f (s.request? q) := by
  by_cases hp : p ∈ S
  · exact Finset.single_le_sum (f := fun q => f (s.request? q)) (fun _ _ => Nat.zero_le _) hp
  · rw [h p hp, hf]
    exact Nat.zero_le _

end Within

section TableChange

variable {m m' : Shared K V T} {key : K} {o o' : Option (Request K V)} {action : Action V}

omit [DecidableEq T]

/-- A step lists no key twice. -/
theorem TableChange.nodup (h : TableChange m key o action m' o')
    (hnodup : (m.gates.map Prod.fst).Nodup) : (m'.gates.map Prod.fst).Nodup := by
  cases h with
  | same _ hgates => rwa [hgates]
  | store => exact hnodup
  | share => exact hnodup
  | make => exact Table.nodup_put hnodup _ _
  | remove => exact Table.nodup_remove hnodup _
  | drop => exact hnodup

/-- Only a gate that was made has handles. -/
theorem TableChange.fresh (h : TableChange m key o action m' o')
    (hnew : ∀ g, m.made ≤ g → m.handles g = 0)
    (hlookup : ∀ {g}, m.gates.lookup key = some g → g < m.made) :
    ∀ g, m'.made ≤ g → m'.handles g = 0 := by
  cases h with
  | same _ _ hmade hhandles => rwa [hmade, hhandles]
  | store => exact hnew
  | share hlook =>
    intro g hg
    have hlt := hlookup hlook
    change m.made ≤ g at hg
    simp only [Shared.share, Function.update_of_ne (ne_of_gt (lt_of_lt_of_le hlt hg))]
    exact hnew g hg
  | make =>
    intro g hg
    change m.made + 1 ≤ g at hg
    simp only [Shared.share, Shared.makeGate, Function.update_of_ne (show g ≠ m.made by omega)]
    exact hnew g (by omega)
  | remove => exact hnew
  | drop g' =>
    intro g hg
    have hzero := hnew g hg
    by_cases h : g = g'
    · subst h
      simp [Shared.drop, hzero]
    · simp [Shared.drop, h, hzero]

/-- A step changes the handles on a gate by what it changes those of the table and of its
request. -/
theorem TableChange.balance (h : TableChange m key o action m' o')
    (hnodup : (m.gates.map Prod.fst).Nodup) (hnew : m.handles m.made = 0) (g : Gate)
    (hle : handlesAt o g ≤ m.handles g) :
    m'.handles g + m.listed g + handlesAt o g =
      m.handles g + m'.listed g + handlesAt o' g := by
  cases h with
  | same _ hgates _ hhandles hheld => rw [hheld, hhandles, Shared.listed, Shared.listed, hgates]
  | store g' v => simp [Shared.listed]
  | @share g' hlookup =>
    by_cases hg : g = g'
    · subst hg
      simp [Shared.share, Shared.listed]
      omega
    · simp [Shared.share, Shared.listed, hg, Ne.symm hg]
  | make hlookup =>
    have hlisted : ((m.makeGate key).share m.made).listed g =
        m.listed g + if m.made = g then 1 else 0 := by
      simp [Shared.listed, Shared.makeGate, Shared.share, Table.put,
        Table.remove_of_lookup_eq_none hlookup, List.countP_cons]
    rw [hlisted]
    by_cases hg : g = m.made
    · subst hg
      simp [Shared.share, Shared.makeGate, hnew]
      omega
    · simp [Shared.share, Shared.makeGate, hg, Ne.symm hg]
  | remove g' outcome =>
    have hcount := Table.countP_remove hnodup key g
    by_cases hlookup : m.gates.lookup key = some g
    · simp [Shared.listed, hlookup] at hcount ⊢
      omega
    · simp [Shared.listed, hlookup] at hcount ⊢
      omega
  | drop g' hheld =>
    have hg := hheld g
    by_cases heq : g = g'
    · subst heq
      simp [Shared.drop, Shared.listed] at hg ⊢
      omega
    · simp [Shared.drop, Shared.listed, heq] at hg ⊢
      omega

end TableChange

/-- The handles on every gate are those of the table and of the requests. -/
structure Counted (s : State K V T) : Prop where
  nodup : (s.shared.gates.map Prod.fst).Nodup
  fresh : ∀ g, s.shared.made ≤ g → s.shared.handles g = 0
  balance : ∃ S : Finset (Position T), (∀ p, p ∉ S → s.request? p = none) ∧
    ∀ g, s.shared.handles g = s.shared.listed g + ∑ p ∈ S, handlesAt (s.request? p) g

omit [DecidableEq K] [DecidableEq T] in
/-- Nothing is counted at the start. -/
theorem counted_start (name : String) : Counted (State.start name : State K V T) where
  nodup := List.nodup_nil
  fresh _ _ := rfl
  balance := ⟨∅, fun p _ => request?_start name p, fun _ => rfl⟩

/-- A step keeps the counts right. -/
theorem Counted.step {s s' : State K V T} {e : Event K V T} {p : Position T} (hs : Counted s)
    (hat : StepAt s e s' p) : Counted s' := by
  obtain ⟨hnodup, hfresh, S, hwithin, hsum⟩ := hs
  change s.Within S at hwithin
  have hchange := hat.effect.tables
  refine ⟨hchange.nodup hnodup, hchange.fresh hfresh fun {g} hlookup => ?_,
    insert p S, hwithin.step hat, fun g => ?_⟩
  · by_contra hg
    have hlisted : 0 < s.shared.listed g :=
      List.countP_pos_iff.mpr ⟨_, Table.mem_of_lookup hlookup, by simp⟩
    have hzero := hfresh g (not_lt.mp hg)
    have hg := hsum g
    omega
  · have hmove := hwithin.sum_step hat (f := (handlesAt · g)) rfl
    have hle := hwithin.le_sum (handlesAt · g) rfl p
    have hg := hsum g
    have hbalance := hchange.balance hnodup (hfresh _ le_rfl) g (by omega)
    omega

omit [DecidableEq K] in
/-- Two requests with handles on a gate of the table make three handles. -/
theorem Counted.three_le {s : State K V T} (hs : Counted s) {g : Gate} {p q : Position T}
    (hlisted : 0 < s.shared.listed g) (hpq : p ≠ q) (hp : 0 < handlesAt (s.request? p) g)
    (hq : 0 < handlesAt (s.request? q) g) : 3 ≤ s.shared.handles g := by
  obtain ⟨S, hout, hsum⟩ := hs.balance
  have hmem {r : Position T} (hr : 0 < handlesAt (s.request? r) g) : r ∈ S := by
    by_contra hr'
    rw [hout r hr'] at hr
    cases hr
  have htwo : handlesAt (s.request? p) g + handlesAt (s.request? q) g ≤
      ∑ r ∈ S, handlesAt (s.request? r) g := by
    have hrest : handlesAt (s.request? q) g ≤ ∑ r ∈ S.erase p, handlesAt (s.request? r) g :=
      Finset.single_le_sum (f := fun r => handlesAt (s.request? r) g) (fun _ _ => Nat.zero_le _)
        (Finset.mem_erase.mpr ⟨hpq.symm, hmem hq⟩)
    have hsplit := Finset.add_sum_erase S (fun r => handlesAt (s.request? r) g) (hmem hp)
    omega
  have hg := hsum g
  omega

end KernelForge.Interleaving
