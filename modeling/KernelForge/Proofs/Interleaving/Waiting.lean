import KernelForge.Proofs.Interleaving.Pending
import KernelForge.Proofs.Interleaving.Refusals
import Mathlib.Logic.Relation

/-!
# Who waits for whom

Every gate is the gate of one key, so a request that waits for a gate waits for another request for
the same key. A request that was admitted is not inside a builder of its key, so this other request
is one of another thread. If the requests that builders make are for smaller keys, or for keys that
their threads are building anyway, then those of one thread that are under way at the same time are
for smaller and smaller keys from the outside to the inside.
-/

namespace KernelForge.Interleaving

variable {K V T : Type} [DecidableEq K]

/-! ### The keys of gates -/

/-- Every gate is the gate of one key: the table lists it for no other key, and only requests for
this key have handles on it. -/
structure Keyed (s : State K V T) (keyOf : Gate → Option K) : Prop where
  fresh : ∀ g, s.shared.made ≤ g → keyOf g = none
  listed : ∀ {key g}, s.shared.gates.lookup key = some g → keyOf g = some key
  handled : ∀ {p r g}, s.request? p = some r → r.stage.handle? = some g → keyOf g = some r.key

/-- A gate that was entered is one that the request has a handle on. -/
theorem Stage.handle?_of_entered? {stage : Stage V} {g : Gate} (h : stage.entered? = some g) :
    stage.handle? = some g := by
  cases stage <;> first | exact h | cases h

/-- A request for the key of a gate holds the gate that another one waits for. -/
theorem Keyed.key_eq {s : State K V T} {keyOf : Gate → Option K} (h : Keyed s keyOf)
    {p q : Position T} {r r' : Request K V} {g : Gate} (hp : s.request? p = some r)
    (hq : s.request? q = some r') (hhandle : r.stage.handle? = some g)
    (hhandle' : r'.stage.handle? = some g) : r.key = r'.key := by
  have hkey := h.handled hp hhandle
  rw [h.handled hq hhandle'] at hkey
  exact (Option.some_inj.mp hkey).symm

/-- There is no gate at the start. -/
theorem keyed_start (name : String) : Keyed (State.start name : State K V T) fun _ => none where
  fresh _ _ := rfl
  listed h := by cases h
  handled h := by simp [request?_start] at h

/-- A step lists no gate anew except one that it makes. -/
theorem TableChange.lookup_gates {m m' : Shared K V T} {key : K} {o o' : Option (Request K V)}
    {action : Action V} (h : TableChange m key o action m' o') :
    (m'.made = m.made ∧ ∀ {k g}, m'.gates.lookup k = some g → m.gates.lookup k = some g) ∨
      (m'.made = m.made + 1 ∧
        ∀ k, m'.gates.lookup k = if k = key then some m.made else m.gates.lookup k) := by
  cases h with
  | same _ hgates hmade => exact .inl ⟨hmade, fun h => hgates ▸ h⟩
  | store | share | drop => exact .inl ⟨rfl, id⟩
  | make => exact .inr ⟨rfl, fun k => Table.lookup_put ..⟩
  | remove =>
    refine .inl ⟨rfl, fun {k g} h => ?_⟩
    rw [Table.lookup_remove] at h
    split at h
    · cases h
    · exact h

variable [DecidableEq T]

/-- A request gets a handle on the gate that the table lists for its key. -/
theorem Effect.handle? {t : T} {m m' : Shared K V T} {o : Option (Request K V)} {key : K}
    {action : Action V} {r' : Request K V} (h : Effect t m o key action m' (some r')) {g : Gate}
    (hhandle : r'.stage.handle? = some g) :
    m'.gates.lookup r'.key = some g ∨
      ∃ r, o = some r ∧ r.key = r'.key ∧ r.stage.handle? = some g := by
  cases h with
  | ask => cases hhandle
  | finish => exact .inr ⟨_, rfl, rfl, hhandle⟩
  | move h =>
    cases h
    case shareGate hlookup =>
      cases hhandle
      exact .inl hlookup
    case makeGate =>
      cases hhandle
      exact .inl ((Table.lookup_put ..).trans (if_pos rfl))
    all_goals first | exact .inr ⟨_, rfl, rfl, hhandle⟩ | cases hhandle

/-- A gate that is made becomes the gate of the key that it is made for. -/
theorem Keyed.step {s s' : State K V T} {keyOf : Gate → Option K} {e : Event K V T}
    {p : Position T} (h : Keyed s keyOf) (hat : StepAt s e s' p) :
    ∃ keyOf', Keyed s' keyOf' := by
  rcases hat.effect.tables.lookup_gates with ⟨hmade, hgates⟩ | ⟨hmade, hgates⟩
  · refine ⟨keyOf, fun g hg => h.fresh g (hmade ▸ hg), fun hg => h.listed (hgates hg),
      fun {q r g} hq hhandle => ?_⟩
    by_cases hqp : q = p
    · have heffect := hat.effect
      rw [← hqp, hq] at heffect
      rcases heffect.handle? hhandle with hlookup | ⟨r', hr', hkey, hhandle'⟩
      · exact h.listed (hgates hlookup)
      · rw [← hkey]
        exact h.handled hr' hhandle'
    · exact h.handled (hat.frame q hqp ▸ hq) hhandle
  · have hold {g : Gate} {key : K} (hg : keyOf g = some key) :
        Function.update keyOf s.shared.made (some e.key) g = some key := by
      rw [Function.update_of_ne, hg]
      rintro rfl
      rw [h.fresh _ le_rfl] at hg
      cases hg
    have hlisted {key : K} {g : Gate} (hg : s'.shared.gates.lookup key = some g) :
        Function.update keyOf s.shared.made (some e.key) g = some key := by
      rw [hgates] at hg
      split at hg
      · next hkey =>
        cases hg
        rw [hkey, Function.update_self]
      · exact hold (h.listed hg)
    refine ⟨Function.update keyOf s.shared.made (some e.key), fun g hg => ?_, hlisted,
      fun {q r g} hq hhandle => ?_⟩
    · rw [hmade] at hg
      rw [Function.update_of_ne (show g ≠ s.shared.made by omega)]
      exact h.fresh g (by omega)
    · by_cases hqp : q = p
      · have heffect := hat.effect
        rw [← hqp, hq] at heffect
        rcases heffect.handle? hhandle with hlookup | ⟨r', hr', hkey, hhandle'⟩
        · exact hlisted hlookup
        · rw [← hkey]
          exact hold (h.handled hr' hhandle')
      · exact hold (h.handled (hat.frame q hqp ▸ hq) hhandle)

/-- Every gate is that of one key throughout a run. -/
theorem Run.keyed {name : String} {trace : List (Event K V T)} {s : State K V T}
    (hrun : Run (State.start name) trace s) : ∃ keyOf, Keyed s keyOf :=
  hrun.invariant (P := fun s => ∃ keyOf, Keyed s keyOf) (fun ⟨_, h⟩ hat => h.step hat)
    ⟨_, keyed_start name⟩

/-! ### Admitted requests -/

/-- Whether a request at a stage was told that its thread does not build the key. -/
@[simp] def Stage.admitted : Stage V → Bool
  | .look | .countHit _ | .lockMarks | .readMark | .unlockMarks _ | .done _ => false
  | _ => true

/-- No request that was admitted is inside a builder of its key. -/
def Apart (s : State K V T) : Prop :=
  ∀ p r, s.request? p = some r → r.stage.admitted = true → ¬s.Builds p r.key

/-- A request is admitted when it has read that its thread does not build the key. -/
theorem Effect.before_admitted {t : T} {m m' : Shared K V T} {o : Option (Request K V)} {key : K}
    {action : Action V} {r' : Request K V} (h : Effect t m o key action m' (some r'))
    (hadmitted : r'.stage.admitted = true) :
    ∃ stage, o = some ⟨r'.key, stage⟩ ∧ (stage.admitted = true ∨ stage = .unlockMarks false) := by
  cases h with
  | ask => cases hadmitted
  | finish => exact ⟨_, rfl, .inl rfl⟩
  | move h =>
    cases h
    case admitted => exact ⟨_, rfl, .inr rfl⟩
    all_goals first | exact ⟨_, rfl, .inl rfl⟩ | cases hadmitted

/-- A step admits no request to a builder that it is inside of. -/
theorem Apart.step {name : String} {s s' : State K V T} {choice : Choice K V T}
    {e : Event K V T} {q : Position T} (h : Apart s) (hs : Told name s)
    (hstep : s.step? choice = some (e, s')) (hat : StepAt s e s' q) : Apart s' := by
  intro p r hp hadmitted
  have hafter : (s'.request? p).isSome := Option.isSome_iff_exists.mpr ⟨_, hp⟩
  have hnested' := hs.nested.step hstep
  by_cases hpq : p = q
  · subst hpq
    have heffect := hat.effect
    rw [hp] at heffect
    obtain ⟨stage, hbefore, hstage⟩ := heffect.before_admitted hadmitted
    rw [hat.builds_iff hs.nested hnested' (Option.isSome_iff_exists.mpr ⟨_, hbefore⟩) hafter]
    rcases hstage with hstage | rfl
    · exact h p ⟨r.key, stage⟩ hbefore hstage
    · exact fun hbuilds => absurd ((hs.own_iff hbefore).mpr hbuilds) Bool.false_ne_true
  · have hbefore := hat.frame p hpq
    rw [hat.builds_iff hs.nested hnested' (hbefore ▸ hafter) hafter]
    exact h p r (hbefore ▸ hp) hadmitted

/-- No such request is admitted in a run. -/
theorem Run.apart {name : String} {trace : List (Event K V T)} {s : State K V T}
    (hrun : Run (State.start name) trace s) : Apart s := by
  refine hrun.trace_invariant (P := fun _ => Apart) ?_
    fun hbefore hstep hat h => h.step hbefore.told hstep hat
  intro p r hp
  simp [request?_start] at hp

omit [DecidableEq T] in
/-- A request never waits for a gate that its own thread holds: who holds it is a request for the
same key, and of another thread. -/
theorem Apart.holder_elsewhere {s : State K V T} (h : Apart s) (hs : Nested s)
    {keyOf : Gate → Option K} (hkeyed : Keyed s keyOf) {p q : Position T} {key : K} {g : Gate}
    {r : Request K V} (hp : s.request? p = some ⟨key, .lockGate g⟩) (hq : s.request? q = some r)
    (hholds : r.stage.entered? = some g) : r.key = key ∧ q.1 ≠ p.1 := by
  have hkey : r.key = key := hkeyed.key_eq hq hp (Stage.handle?_of_entered? hholds) rfl
  refine ⟨hkey, fun hthread => ?_⟩
  obtain ⟨t, n⟩ := q
  obtain rfl : t = p.1 := hthread
  rcases Nat.lt_trichotomy n p.2 with hlt | heq | hgt
  · -- The request around is inside its builder, and this one would have been refused.
    obtain ⟨g', hbuilding⟩ := hs.building (Option.isSome_iff_exists.mpr ⟨_, hp⟩) hlt hq
    obtain ⟨k, stage⟩ := r
    cases hbuilding
    cases hkey
    exact h p _ hp rfl ⟨n, hlt, g', hq⟩
  · rw [heq, hp] at hq
    cases hq
    cases hholds
  · rw [hs.innermost hp nofun hgt] at hq
    cases hq

/-! ### Requests for smaller keys -/

section Order

variable {below : K → K → Prop} {s s' : State K V T}

/-- Whether a step, if it is a request that a builder makes, asks for a key below that of the
builder or for one that the thread is building anyway. -/
def State.Descends (below : K → K → Prop) (s : State K V T) : Choice K V T → Prop
  | .ask t key => ∀ n outer, s.request? (t, n) = some outer → s.request? (t, n + 1) = none →
      below key outer.key ∨ s.Builds (t, n + 1) key
  | .go _ | .finish _ _ => True

/-- What a number of steps does in which builders ask for smaller keys only, or for keys that their
threads are building anyway. -/
inductive OrderedRun (below : K → K → Prop) :
    State K V T → List (Event K V T) → State K V T → Prop
  | nil (s : State K V T) : OrderedRun below s [] s
  | snoc {s s' s'' : State K V T} {trace : List (Event K V T)} {choice : Choice K V T}
      {e : Event K V T} : OrderedRun below s trace s' → s'.Descends below choice →
      s'.step? choice = some (e, s'') → OrderedRun below s (trace ++ [e]) s''

/-- Such a number of steps is a run. -/
theorem OrderedRun.run {trace : List (Event K V T)} (h : OrderedRun below s trace s') :
    Run s trace s' := by
  induction h with
  | nil => exact .nil _
  | snoc _ _ hstep ih => exact ih.snoc hstep

/-- Every request inside another one is for a smaller key, or for one that its thread is building
anyway. -/
def Ordered (below : K → K → Prop) (s : State K V T) : Prop :=
  ∀ t n outer inner, s.request? (t, n) = some outer → s.request? (t, n + 1) = some inner →
    below inner.key outer.key ∨ s.Builds (t, n + 1) inner.key

/-- A step that makes a request is chosen as one. -/
theorem State.step?_ask {choice : Choice K V T} {e : Event K V T}
    (h : s.step? choice = some (e, s')) (hask : e.action = .ask) :
    choice = .ask e.thread e.key := by
  cases choice with
  | ask t key =>
    simp only [State.step?] at h
    split at h <;> cases h <;> rfl
  | finish t outcome =>
    simp only [State.step?] at h
    split at h <;> cases h
    cases hask
  | go t =>
    simp only [State.step?] at h
    split at h
    · cases h
    · cases h
      cases hask
    · obtain ⟨next, hadvance, hnext⟩ := Option.map_eq_some_iff.mp h
      cases hnext
      have hmove := advance_eq_some.mp hadvance
      rw [show next.2.2 = .ask from hask] at hmove
      cases hmove

/-- Where no request is, one can only begin. -/
theorem Effect.of_none {t : T} {m m' : Shared K V T} {o' : Option (Request K V)} {key : K}
    {action : Action V} (h : Effect t m none key action m' o') :
    action = .ask ∧ o' = some ⟨key, .look⟩ := by
  cases h
  exact ⟨rfl, rfl⟩

/-- Requests stay in order if builders ask for smaller keys. -/
theorem Ordered.step {choice : Choice K V T} {e : Event K V T} {p : Position T}
    (h : Ordered below s) (hs : Nested s) (hdescends : s.Descends below choice)
    (hstep : s.step? choice = some (e, s')) (hat : StepAt s e s' p) : Ordered below s' := by
  intro t n outer inner houter hinner
  have hafter : (s'.request? (t, n + 1)).isSome := Option.isSome_iff_exists.mpr ⟨_, hinner⟩
  have hkept (hbefore : (s.request? (t, n + 1)).isSome)
      (hold : below inner.key outer.key ∨ s.Builds (t, n + 1) inner.key) :
      below inner.key outer.key ∨ s'.Builds (t, n + 1) inner.key :=
    hold.imp_right (hat.builds_iff hs (hs.step hstep) hbefore hafter).mpr
  by_cases hp : (t, n + 1) = p
  · have houter' : s.request? (t, n) = some outer := by
      rw [← hat.frame (t, n) (by rw [← hp]; simp), houter]
    cases hbefore : s.request? p with
    | some r =>
      have hkey : r.key = inner.key :=
        (hat.effect.key_eq.1 r hbefore).trans (hat.effect.key_eq.2 inner (hp ▸ hinner)).symm
      refine hkept (Option.isSome_iff_exists.mpr ⟨r, hp ▸ hbefore⟩) ?_
      rw [← hkey]
      exact h t n outer r houter' (hp ▸ hbefore)
    | none =>
      have heffect := hat.effect
      rw [hbefore] at heffect
      obtain ⟨hask, hlook⟩ := heffect.of_none
      rw [State.step?_ask hstep hask, ← hat.thread_eq, ← hp] at hdescends
      rw [← hp, hinner] at hlook
      cases hlook
      refine (hdescends n outer houter' (hp ▸ hbefore)).imp_right fun ⟨k, hlt, g, hk⟩ => ?_
      refine ⟨k, hlt, g, ?_⟩
      rw [hat.frame (t, k) (by rw [← hp]; intro heq; cases heq; exact absurd hlt (lt_irrefl _)), hk]
  · have hbefore := hat.frame (t, n + 1) hp
    have houter' : (t, n) ≠ p := by
      rintro rfl
      exact hs.not_around (hs.step hstep) hat (hbefore ▸ hafter) hafter ⟨rfl, Nat.lt_succ_self n⟩
    refine hkept (hbefore ▸ hafter) (h t n outer inner ?_ (hbefore ▸ hinner))
    rw [← hat.frame (t, n) houter', houter]

/-- They are in order throughout such a run. -/
theorem OrderedRun.ordered {name : String} {trace : List (Event K V T)}
    (h : OrderedRun below (State.start name) trace s) : Ordered below s := by
  induction h with
  | nil => exact fun t n outer inner hp => by simp [request?_start] at hp
  | snoc hbefore hdescends hstep ih =>
    obtain ⟨p, hat⟩ := step_at hstep
    exact ih.step hbefore.run.told.nested hdescends hstep hat

omit [DecidableEq K] [DecidableEq T] in
/-- A request that was admitted is for a key below those of all builders around it. -/
theorem Ordered.transGen (h : Ordered below s) (hs : Nested s) (hapart : Apart s) {t : T}
    {n m : Nat} {outer inner : Request K V} (hlt : n < m)
    (houter : s.request? (t, n) = some outer) (hinner : s.request? (t, m) = some inner)
    (hadmitted : inner.stage.admitted = true) : Relation.TransGen below inner.key outer.key := by
  induction m, hlt using Nat.le_induction generalizing inner with
  | base =>
    exact .single ((h t n outer inner houter hinner).resolve_right (hapart _ _ hinner hadmitted))
  | succ m hle ih =>
    have hinFlight : (s.request? (t, m + 1)).isSome := Option.isSome_iff_exists.mpr ⟨_, hinner⟩
    obtain ⟨middle, hmiddle⟩ := s.exists_request?_around hinFlight (Nat.lt_succ_self m)
    obtain ⟨g, hbuilding⟩ := hs.building hinFlight (Nat.lt_succ_self m) hmiddle
    have hbelow := (h t m middle inner hmiddle hinner).resolve_right (hapart _ _ hinner hadmitted)
    exact .head hbelow (ih hmiddle (by rw [hbuilding]; rfl))

end Order

end KernelForge.Interleaving
