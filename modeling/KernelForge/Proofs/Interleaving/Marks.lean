import KernelForge.Proofs.Interleaving.Exclusion

/-!
# Who has marked a key

A key is marked exactly while a request for it is between setting the mark and clearing it, and the
mark names the thread of the request. Such a request owns the gate of its key, so no other one sets
or clears the mark meanwhile. The requests around another one of its thread all run their builders,
and go on only after it has ended.
-/

namespace KernelForge.Interleaving

variable {K V T : Type}

/-! ### Requests around a request -/

/-- All requests of a thread but the innermost run their builders. -/
def Nested (s : State K V T) : Prop :=
  ∀ t, ∀ r ∈ (s.threads t).tail, ∃ g, r.stage = .building g

section Nested

variable {s s' : State K V T} {t : T} {m n : Nat} {r : Request K V} {rest : List (Request K V)}

/-- Where a request is, its thread has as many requests. -/
theorem State.lt_length_of_request? (h : (s.request? (t, m)).isSome) :
    m < (s.threads t).length := by
  change ((s.threads t).reverse[m]?).isSome at h
  by_contra hle
  rw [List.getElem?_eq_none (by rw [List.length_reverse]; omega)] at h
  cases h

/-- The innermost request has all others of its thread around it. -/
theorem State.request?_innermost (h : s.threads t = r :: rest) :
    s.request? (t, rest.length) = some r := by
  simp [State.request?, h]

/-- A thread with a request has an innermost one. -/
theorem State.exists_innermost (h : (s.request? (t, m)).isSome) :
    ∃ r rest, s.threads t = r :: rest ∧ m ≤ rest.length := by
  have hlt := s.lt_length_of_request? h
  cases hthread : s.threads t with
  | nil =>
    rw [hthread] at hlt
    cases hlt
  | cons r rest =>
    rw [hthread, List.length_cons] at hlt
    exact ⟨r, rest, rfl, Nat.le_of_lt_succ hlt⟩

/-- A request that has none inside is the innermost one. -/
theorem State.eq_innermost (h : s.threads t = r :: rest) (hat : (s.request? (t, m)).isSome)
    (hinner : s.request? (t, m + 1) = none) : m = rest.length := by
  have hlt := s.lt_length_of_request? hat
  change (s.threads t).reverse[m + 1]? = none at hinner
  rw [List.getElem?_eq_none_iff, List.length_reverse] at hinner
  rw [h, List.length_cons] at hlt hinner
  omega

/-- There is a request at every position around another one. -/
theorem State.exists_request?_around (hinner : (s.request? (t, m)).isSome) (hlt : n < m) :
    ∃ r, s.request? (t, n) = some r := by
  have hm := s.lt_length_of_request? hinner
  have hn : n < (s.threads t).reverse.length := by
    rw [List.length_reverse]
    omega
  exact ⟨_, List.getElem?_eq_getElem hn⟩

/-- A request around another one runs its builder. -/
theorem Nested.building (hs : Nested s) (hinner : (s.request? (t, m)).isSome) (hlt : n < m)
    (hr : s.request? (t, n) = some r) : ∃ g, r.stage = .building g := by
  have hm := s.lt_length_of_request? hinner
  change (s.threads t).reverse[n]? = some r at hr
  rw [List.getElem?_reverse (by omega)] at hr
  have hindex : 1 + ((s.threads t).length - 1 - n - 1) = (s.threads t).length - 1 - n := by omega
  refine hs t r ?_
  rw [← List.drop_one]
  refine List.mem_of_getElem? (i := (s.threads t).length - 1 - n - 1) ?_
  rw [List.getElem?_drop, hindex, hr]

/-- A request that does not run its builder has no request inside. -/
theorem Nested.innermost (hs : Nested s) (hr : s.request? (t, n) = some r)
    (hstage : ∀ g, r.stage ≠ .building g) (hlt : n < m) : s.request? (t, m) = none := by
  by_contra hinner
  obtain ⟨g, hbuilding⟩ := hs.building (Option.isSome_iff_ne_none.mpr hinner) hlt hr
  exact hstage g hbuilding

/-- There are no requests at the start. -/
theorem nested_start (name : String) : Nested (State.start name : State K V T) := by
  intro t r hr
  cases hr

variable [DecidableEq T]

/-- Requests that a thread gets are nested if all but the first run their builders. -/
theorem Nested.setThread (hs : Nested s) (t : T) {requests : List (Request K V)}
    (h : ∀ r ∈ requests.tail, ∃ g, r.stage = .building g) : Nested (s.setThread t requests) := by
  intro t' r hr
  change r ∈ (Function.update s.threads t requests t').tail at hr
  by_cases ht : t' = t
  · subst ht
    rw [Function.update_self] at hr
    exact h r hr
  · rw [Function.update_of_ne ht] at hr
    exact hs t' r hr

variable [DecidableEq K]

/-- A request is only made by a builder, and a request only goes on while it is the innermost. -/
theorem Nested.step (hs : Nested s) {choice : Choice K V T} {e : Event K V T}
    (hstep : s.step? choice = some (e, s')) : Nested s' := by
  have htail {t : T} {r : Request K V} {rest : List (Request K V)} (h : s.threads t = r :: rest) :
      ∀ r' ∈ rest, ∃ g, r'.stage = .building g := by
    have hnested := hs t
    rw [h] at hnested
    exact hnested
  cases choice with
  | ask t key =>
    simp only [State.step?] at hstep
    split at hstep
    · cases hstep
      exact hs.setThread t fun r hr => absurd hr List.not_mem_nil
    · next outer g rest heq =>
      cases hstep
      refine hs.setThread t fun r hr => ?_
      rcases List.mem_cons.mp hr with rfl | hr
      · exact ⟨g, rfl⟩
      · exact htail heq r hr
    · cases hstep
  | finish t outcome =>
    simp only [State.step?] at hstep
    split at hstep
    · next heq =>
      cases hstep
      exact hs.setThread t (htail heq)
    · cases hstep
  | go t =>
    simp only [State.step?] at hstep
    split at hstep
    · cases hstep
    · next heq =>
      cases hstep
      exact hs.setThread t fun r hr => htail heq r (List.mem_of_mem_tail hr)
    · next heq =>
      obtain ⟨next, -, hnext⟩ := Option.map_eq_some_iff.mp hstep
      cases hnext
      exact hs.setThread t (htail heq)

/-- A request that runs its builder goes on only to the end of the builder. -/
theorem Effect.not_stays {m m' : Shared K V T} {o o' : Option (Request K V)}
    {key k k' : K} {g g' : Gate} {action : Action V} (h : Effect t m o key action m' o')
    (ho : o = some ⟨k, .building g⟩) (ho' : o' = some ⟨k', .building g'⟩) : False := by
  cases h with
  | ask | finish | answer => cases ho <;> cases ho'
  | move h =>
    cases ho
    cases h

/-- No step is made at a position around a request that stays. -/
theorem Nested.not_around (hs : Nested s) (hs' : Nested s') {e : Event K V T} {p q : Position T}
    (hat : StepAt s e s' q) (hbefore : (s.request? p).isSome) (hafter : (s'.request? p).isSome) :
    ¬(q.1 = p.1 ∧ q.2 < p.2) := by
  obtain ⟨t, n⟩ := q
  rintro ⟨rfl, hlt⟩
  obtain ⟨r, hr⟩ := s.exists_request?_around hbefore hlt
  obtain ⟨r', hr'⟩ := s'.exists_request?_around hafter hlt
  obtain ⟨g, hbuilding⟩ := hs.building hbefore hlt hr
  obtain ⟨g', hbuilding'⟩ := hs'.building hafter hlt hr'
  obtain ⟨key, stage⟩ := r
  obtain ⟨key', stage'⟩ := r'
  cases hbuilding
  cases hbuilding'
  exact hat.effect.not_stays hr hr'

end Nested

/-! ### Marks -/

namespace Stage

/-- Whether a request at a stage has set the mark of its key and not cleared it yet. -/
@[simp] def marking : Stage V → Bool
  | .unlockMarksSet _ | .building _ | .lockMarksToClear _ _ | .clearMark _ _ => true
  | _ => false

/-- A request with a mark owns the gate of its key. -/
theorem owned?_of_marking {stage : Stage V} (h : stage.marking = true) :
    ∃ g, stage.owned? = some g := by
  cases stage <;> first | exact ⟨_, rfl⟩ | cases h

end Stage

/-- The key that the request at a position, if there is one, has marked. -/
def markedAt? (r : Option (Request K V)) : Option K :=
  r.bind fun r => if r.stage.marking then some r.key else none

/-- Where no request is, no key is marked. -/
@[simp] theorem markedAt?_none : markedAt? (none : Option (Request K V)) = none := rfl

/-- A request marks its key at some of its stages. -/
@[simp] theorem markedAt?_some (r : Request K V) :
    markedAt? (some r) = if r.stage.marking then some r.key else none := rfl

/-- A key is marked by a request for it. -/
theorem markedAt?_eq_some {o : Option (Request K V)} {key : K} :
    markedAt? o = some key ↔ ∃ r, o = some r ∧ r.key = key ∧ r.stage.marking = true := by
  cases o with
  | none => simp
  | some r => simp [-Stage.marking, and_comm]

variable [DecidableEq K]

/-- Every key has at most one mark, which is that of a request that has marked it and names the
thread of this request. -/
structure Marked (s : State K V T) : Prop where
  nodup : (s.shared.marks.map Prod.fst).Nodup
  lookup_iff : ∀ {key t}, s.shared.marks.lookup key = some t ↔
    ∃ n, markedAt? (s.request? (t, n)) = some key

/-- There are no marks at the start. -/
theorem marked_start (name : String) : Marked (State.start name : State K V T) where
  nodup := List.nodup_nil
  lookup_iff := by
    intro key t
    simp only [request?_start, markedAt?_none, reduceCtorEq, exists_false, iff_false]
    exact nofun

/-- Between the clearing of its mark and the loss of its gate, a request leaves its key unmarked. -/
theorem Marked.lookup_eq_none {s : State K V T} (h : Marked s) (hs : Coherent s) {p : Position T}
    {r : Request K V} (hp : s.request? p = some r) {g : Gate} (howned : r.stage.owned? = some g)
    (hmarking : r.stage.marking = false) : s.shared.marks.lookup r.key = none := by
  by_contra hmarked
  obtain ⟨t, ht⟩ := Option.ne_none_iff_exists'.mp hmarked
  obtain ⟨n, hn⟩ := h.lookup_iff.mp ht
  obtain ⟨r', hr', hkey, hmarking'⟩ := markedAt?_eq_some.mp hn
  obtain ⟨g', howned'⟩ := Stage.owned?_of_marking hmarking'
  have hqp := hs.owner_unique hp hr' hkey howned howned'
  rw [← hqp, hp] at hr'
  cases hr'
  rw [hmarking] at hmarking'
  cases hmarking'

/-- When no request is in flight, no key is marked. -/
theorem Marked.eq_nil {s : State K V T} (h : Marked s) (hidle : s.Idle) : s.shared.marks = [] := by
  cases hmarks : s.shared.marks with
  | nil => rfl
  | cons e rest =>
    have hlookup : s.shared.marks.lookup e.1 = some e.2 := by rw [hmarks, List.lookup_cons_self]
    obtain ⟨n, hn⟩ := h.lookup_iff.mp hlookup
    rw [request?_of_idle hidle] at hn
    cases hn

variable [DecidableEq T]

/-- A step keeps the marks, sets the mark of its key, or clears it. -/
theorem Effect.marks {t : T} {m m' : Shared K V T} {o o' : Option (Request K V)} {key : K}
    {action : Action V} (h : Effect t m o key action m' o') :
    (m'.marks = m.marks ∧ markedAt? o' = markedAt? o) ∨
      (∃ g, o = some ⟨key, .setMark g⟩ ∧ m'.marks = m.marks.put key t ∧
        markedAt? o' = some key) ∨
      ∃ g outcome, o = some ⟨key, .clearMark g outcome⟩ ∧ m'.marks = m.marks.remove key ∧
        markedAt? o' = none := by
  cases h with
  | ask | answer | finish => exact .inl ⟨rfl, rfl⟩
  | move h =>
    cases h
    case setMark g => exact .inr (.inl ⟨g, rfl, rfl, rfl⟩)
    case clearMark g outcome => exact .inr (.inr ⟨g, outcome, rfl, rfl, rfl⟩)
    all_goals exact .inl ⟨rfl, rfl⟩

section Step

variable {s s' : State K V T} {e : Event K V T} {p : Position T}

omit [DecidableEq T] in
/-- While a request owns the gate of its key, no other one has marked the key. -/
theorem Coherent.markedAt?_ne (hs : Coherent s) {r : Request K V} (hp : s.request? p = some r)
    {g : Gate} (howned : r.stage.owned? = some g) {q : Position T} (hqp : q ≠ p) :
    markedAt? (s.request? q) ≠ some r.key := by
  intro hq
  obtain ⟨r', hr', hkey, hmarking⟩ := markedAt?_eq_some.mp hq
  obtain ⟨g', howned'⟩ := Stage.owned?_of_marking hmarking
  exact hqp (hs.owner_unique hp hr' hkey howned howned').symm

/-- A step leaves the marks of other keys to the requests that had set them. -/
theorem StepAt.markedAt?_iff (hat : StepAt s e s' p) {key : K} (hkey : key ≠ e.key)
    (q : Position T) :
    markedAt? (s'.request? q) = some key ↔ markedAt? (s.request? q) = some key := by
  by_cases hq : q = p
  · subst hq
    obtain ⟨hbefore, hafter⟩ := hat.effect.key_eq
    simp only [markedAt?_eq_some]
    constructor
    · rintro ⟨r, hr, rfl, -⟩
      exact absurd (hafter r hr) hkey
    · rintro ⟨r, hr, rfl, -⟩
      exact absurd (hbefore r hr) hkey
  · rw [hat.frame q hq]

/-- A step keeps the marks in accord with the requests. -/
theorem Marked.step (h : Marked s) (hs : Coherent s) (hat : StepAt s e s' p) : Marked s' := by
  have hframe (q : Position T) (hq : q ≠ p) :
      markedAt? (s'.request? q) = markedAt? (s.request? q) := by rw [hat.frame q hq]
  rcases hat.effect.marks with ⟨hmarks, hsame⟩ | ⟨g, hbefore, hmarks, hafter⟩ |
    ⟨g, outcome, hbefore, hmarks, hafter⟩
  · have hall := hat.same hsame
    refine ⟨hmarks ▸ h.nodup, fun {key t} => ?_⟩
    simp only [hmarks, hall]
    exact h.lookup_iff
  · -- Nobody had marked the key, and now the request at `p` has.
    have hnone {q : Position T} (hq : q ≠ p) : markedAt? (s'.request? q) ≠ some e.key := by
      rw [hframe q hq]
      exact hs.markedAt?_ne hbefore rfl hq
    refine ⟨hmarks ▸ Table.nodup_put h.nodup _ _, fun {key t} => ?_⟩
    rw [hmarks, Table.lookup_put]
    by_cases hkey : key = e.key
    · subst hkey
      rw [if_pos rfl, Option.some_inj]
      constructor
      · rintro rfl
        exact ⟨p.2, hat.thread_eq ▸ hafter⟩
      · rintro ⟨n, hn⟩
        by_cases hq : (t, n) = p
        · rw [← hat.thread_eq, ← hq]
        · exact absurd hn (hnone hq)
    · rw [if_neg hkey, h.lookup_iff]
      exact exists_congr fun n => (hat.markedAt?_iff hkey (t, n)).symm
  · -- Only the request at `p` had marked the key, and now nobody has.
    have hnone {q : Position T} (hq : q ≠ p) : markedAt? (s'.request? q) ≠ some e.key := by
      rw [hframe q hq]
      exact hs.markedAt?_ne hbefore rfl hq
    refine ⟨hmarks ▸ Table.nodup_remove h.nodup _, fun {key t} => ?_⟩
    rw [hmarks, Table.lookup_remove]
    by_cases hkey : key = e.key
    · subst hkey
      rw [if_pos rfl]
      refine ⟨nofun, fun ⟨n, hn⟩ => ?_⟩
      by_cases hq : (t, n) = p
      · rw [hq, hafter] at hn
        cases hn
      · exact absurd hn (hnone hq)
    · rw [if_neg hkey, h.lookup_iff]
      exact exists_congr fun n => (hat.markedAt?_iff hkey (t, n)).symm

end Step

end KernelForge.Interleaving
