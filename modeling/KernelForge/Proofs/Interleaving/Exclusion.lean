import KernelForge.Proofs.Interleaving.Holders

/-!
# A key is built at most once

A request that owns the gate of the table for its key is the only one of the key that does, since it
holds the lock of that gate. The gate leaves the table only after a value was stored, or after a
failure when no other request has a handle on it. So a builder only runs for a key without an entry,
and nobody else builds the key meanwhile.
-/

namespace KernelForge.Interleaving

variable {K V T : Type}

/-! ### What a request knows of the tables -/

namespace Stage

/-- The gate that a request at a stage waits for, until it has looked the key up again. -/
@[simp] def awaited? : Stage V → Option Gate
  | .unlockGates g | .lockGate g | .lookAgain g => some g
  | _ => none

/-- The gate of a request at a stage that builds the key or is about to remove the gate. -/
@[simp] def owned? : Stage V → Option Gate
  | .lockMarksToSet g | .setMark g | .unlockMarksSet g | .building g | .lockMarksToClear g _
  | .clearMark g _ | .unlockMarksCleared g _ | .store g _ | .countBuild g _
  | .lockGatesToLeave g _ | .countHandles g _ | .removeGate g _ => some g
  | _ => none

/-- Whether a request at a stage owns the gate and has not stored a value. -/
@[simp] def unstored : Stage V → Bool
  | .lockMarksToSet _ | .setMark _ | .unlockMarksSet _ | .building _ | .lockMarksToClear _ _
  | .clearMark _ _ | .unlockMarksCleared _ _ | .store _ _ | .lockGatesToLeave _ (.error _)
  | .countHandles _ _ | .removeGate _ (.error _) => true
  | _ => false

/-- The value that a request at a stage found or stored. -/
@[simp] def known? : Stage V → Option V
  | .countHit v | .countLateHit _ v | .countBuild _ v | .lockGatesToLeave _ (.ok v)
  | .removeGate _ (.ok v) | .dropRemoved _ _ (.ok v) | .unlockGatesLeft _ (.ok v)
  | .unlockGate _ (.ok v) | .dropHandle _ (.ok v) | .done (.ok v) => some v
  | _ => none

/-- The gate that a request at a stage removes after a failure. -/
@[simp] def abandoned? : Stage V → Option Gate
  | .removeGate g (.error _) => some g
  | _ => none

/-- Who owns a gate has entered it. -/
theorem entered?_of_owned? {stage : Stage V} {g : Gate} (h : stage.owned? = some g) :
    stage.entered? = some g := by
  cases stage <;> first | exact h | cases h

/-- Who has a value to store owns a gate. -/
theorem owned?_of_unstored {stage : Stage V} (h : stage.unstored = true) :
    ∃ g, stage.owned? = some g := by
  cases stage <;> first | exact ⟨_, rfl⟩ | cases h

/-- Who owns a gate has a handle on it. -/
theorem handle?_of_owned? {stage : Stage V} {g : Gate} (h : stage.owned? = some g) :
    stage.handle? = some g := by
  cases stage <;> first | exact h | cases h

/-- So has who waits for it. -/
theorem handle?_of_awaited? {stage : Stage V} {g : Gate} (h : stage.awaited? = some g) :
    stage.handle? = some g := by
  cases stage <;> first | exact h | cases h

/-- A gate is removed under the lock of the gates. -/
theorem holdsGates_of_abandoned? {stage : Stage V} {g : Gate} (h : stage.abandoned? = some g) :
    stage.holdsGates = true := by
  cases stage <;> first | rfl | cases h

end Stage

/-- A handle counts. -/
theorem handlesAt_pos {r : Request K V} {g : Gate} (h : r.stage.handle? = some g) :
    0 < handlesAt (some r) g := by
  rw [handlesAt_some, Stage.handlesOn, h, if_pos rfl]
  omega

variable [DecidableEq K]

/-- What the tables have to do with a request for a key at a stage. Most stages have to do with few
of them. -/
structure Fits (m : Shared K V T) (key : K) (stage : Stage V) : Prop where
  awaited : ∀ {g}, stage.awaited? = some g → m.entries.lookup key = none →
    m.gates.lookup key = some g := by simp
  owned : ∀ {g}, stage.owned? = some g → m.gates.lookup key = some g := by simp
  unstored : stage.unstored = true → m.entries.lookup key = none := by simp
  known : ∀ {v}, stage.known? = some v → m.entries.lookup key = some v := by simp
  abandoned : ∀ {g}, stage.abandoned? = some g → m.handles g ≤ 2 := by simp

/-- A request still fits after its own step. -/
theorem Fits.move [DecidableEq T] {t : T} {m m' : Shared K V T} {key : K} {stage stage' : Stage V}
    {action : Action V} (hfits : Fits m key stage) (h : Move t key m stage action m' stage') :
    Fits m' key stage' := by
  obtain ⟨hawaited, howned, hunstored, hknown, habandoned⟩ := hfits
  cases h
  case found hentry | foundLate hentry =>
    exact { known := by rintro _ ⟨⟩; exact hentry }
  case shareGate hgate => exact { awaited := by rintro _ ⟨⟩ -; exact hgate }
  case makeGate =>
    exact { awaited := by rintro _ ⟨⟩ -; exact (Table.lookup_put ..).trans (if_pos rfl) }
  case missedLate hentry =>
    exact { owned := by rintro _ ⟨⟩; exact hawaited rfl hentry, unstored := fun _ => hentry }
  case store g v =>
    exact { owned := howned,
            known := by rintro _ ⟨⟩; exact (Table.lookup_put ..).trans (if_pos rfl) }
  case fewHandles hfew =>
    rw [howned rfl, Option.map_some, Option.any_some] at hfew
    exact { owned := howned, unstored := hunstored, abandoned := by rintro _ ⟨⟩; simpa using hfew }
  case removeGate g outcome | unlockGatesLeft g outcome | unlockGate g outcome |
      dropRemoved g _ outcome | dropNothing g outcome | dropHandle g outcome =>
    cases outcome <;> exact { known := hknown }
  case unlockMarksBuilt | unlockMarksFailed => exact { owned := howned, unstored := hunstored }
  case lockGatesBuilt | lockGatesFailed =>
    exact { owned := howned, unstored := hunstored, known := hknown }
  case missed | manyHandles | refused | admitted => exact {}
  all_goals exact ⟨hawaited, howned, hunstored, hknown, habandoned⟩

/-- A request fits what became of the tables when this tells nothing of its key, and counts no
handles. -/
theorem Fits.congr {m m' : Shared K V T} {key : K} {stage : Stage V} (hfits : Fits m key stage)
    (hentries : m'.entries.lookup key = m.entries.lookup key)
    (hgates : m'.gates.lookup key = m.gates.lookup key)
    (hhandles : ∀ {g}, stage.abandoned? = some g → m'.handles g ≤ m.handles g) :
    Fits m' key stage where
  awaited := by rw [hentries, hgates]; exact hfits.awaited
  owned := by rw [hgates]; exact hfits.owned
  unstored := by rw [hentries]; exact hfits.unstored
  known := by rw [hentries]; exact hfits.known
  abandoned h := (hhandles h).trans (hfits.abandoned h)

/-! ### The invariant -/

/-- The locks and handles are those that are held, and the tables fit every request. -/
structure Coherent (s : State K V T) : Prop where
  locking : Locking s
  counted : Counted s
  fits : ∀ {p r}, s.request? p = some r → Fits s.shared r.key r.stage

/-- Nothing is owned at the start. -/
theorem coherent_start (name : String) : Coherent (State.start name : State K V T) where
  locking := locking_start name
  counted := counted_start name
  fits h := by simp [request?_start] at h

section Coherent

variable {s : State K V T} {p q : Position T} {r r' : Request K V} {g g' : Gate}

/-- Only one request owns the gate of a key. -/
theorem Coherent.owner_unique (hs : Coherent s) (hp : s.request? p = some r)
    (hq : s.request? q = some r') (hkey : r'.key = r.key) (howned : r.stage.owned? = some g)
    (howned' : r'.stage.owned? = some g') : p = q := by
  have hgate := (hs.fits hp).owned howned
  have hgate' := (hs.fits hq).owned howned'
  rw [hkey, hgate] at hgate'
  cases hgate'
  refine hs.locking.unique (l := .gate g) ?_ ?_
  · rw [hp]
    exact decide_eq_true (Stage.entered?_of_owned? howned)
  · rw [hq]
    exact decide_eq_true (Stage.entered?_of_owned? howned')

/-- While a request holds the lock of the table of gates, no other one counts handles. -/
theorem Coherent.abandoned_eq (hs : Coherent s) (hp : s.request? p = some r)
    (hq : s.request? q = some r') (hholds : r.stage.holdsGates = true)
    (habandoned : r'.stage.abandoned? = some g) : p = q := by
  refine hs.locking.unique (l := .gates) ?_ ?_
  · rw [hp]
    exact hholds
  · rw [hq]
    exact Stage.holdsGates_of_abandoned? habandoned

/-- While a request removes its gate after a failure, no other one waits for the gate. -/
theorem Coherent.not_awaited [DecidableEq T] (hs : Coherent s) (hp : s.request? p = some r)
    (hq : s.request? q = some r') (hpq : p ≠ q) (habandoned : r.stage.abandoned? = some g)
    (howned : r.stage.owned? = some g) : r'.stage.awaited? ≠ some g := by
  intro hawaited
  have hfew := (hs.fits hp).abandoned habandoned
  have hlisted : 0 < s.shared.listed g :=
    List.countP_pos_iff.mpr
      ⟨_, Table.mem_of_lookup ((hs.fits hp).owned howned), by simp⟩
  have hmany := hs.counted.three_le hlisted hpq
    (by rw [hp]; exact handlesAt_pos (Stage.handle?_of_owned? howned))
    (by rw [hq]; exact handlesAt_pos (Stage.handle?_of_awaited? hawaited))
  omega

/-- A request fits after the steps of all others. -/
theorem Coherent.fits_other [DecidableEq T] {m' : Shared K V T} {key : K}
    {o o' : Option (Request K V)} {action : Action V} (hs : Coherent s)
    (hchange : TableChange s.shared key o action m' o') (hp : s.request? p = o)
    (hq : s.request? q = some r) (hpq : p ≠ q) : Fits m' r.key r.stage := by
  have hfits := hs.fits hq
  cases hchange with
  | same hentries hgates _ hhandles =>
    exact hfits.congr (by rw [hentries]) (by rw [hgates]) fun _ => by rw [hhandles]
  | store g v =>
    by_cases hkey : r.key = key
    · subst hkey
      have howner {g' : Gate} (howned : r.stage.owned? = some g') : False :=
        hpq (hs.owner_unique hp hq rfl rfl howned)
      have hentry := (hs.fits hp).unstored rfl
      refine ⟨fun _ hnone => ?_, fun h => (howner h).elim, fun h => ?_, fun h => ?_,
        hfits.abandoned⟩
      · rw [Table.lookup_put, if_pos rfl] at hnone
        cases hnone
      · obtain ⟨g', howned⟩ := Stage.owned?_of_unstored h
        exact (howner howned).elim
      · have hknown := hfits.known h
        rw [hentry] at hknown
        cases hknown
    · exact hfits.congr ((Table.lookup_put ..).trans (if_neg hkey)) rfl fun _ => le_rfl
  | share hlookup =>
    exact hfits.congr rfl rfl fun h => (hpq (hs.abandoned_eq hp hq rfl h)).elim
  | make hlookup =>
    have hcounts {g' : Gate} (h : r.stage.abandoned? = some g') : False :=
      hpq (hs.abandoned_eq hp hq rfl h)
    by_cases hkey : r.key = key
    · subst hkey
      refine ⟨fun h hnone => ?_, fun h => ?_, hfits.unstored, hfits.known,
        fun h => (hcounts h).elim⟩
      · have hgate := hfits.awaited h hnone
        rw [hlookup] at hgate
        cases hgate
      · have hgate := hfits.owned h
        rw [hlookup] at hgate
        cases hgate
    · exact hfits.congr rfl ((Table.lookup_put ..).trans (if_neg hkey)) fun h => (hcounts h).elim
  | remove g outcome =>
    by_cases hkey : r.key = key
    · subst hkey
      refine ⟨fun {g'} h hnone => ?_, fun h => ?_, hfits.unstored, hfits.known, hfits.abandoned⟩
      · -- Without an entry the builder failed, and the request that waits has a third handle.
        have hgate := hfits.awaited h hnone
        rw [(hs.fits hp).owned rfl] at hgate
        cases hgate
        cases outcome with
        | ok v =>
          have hentry : s.shared.entries.lookup r.key = some v := (hs.fits hp).known rfl
          rw [hnone] at hentry
          cases hentry
        | error error => exact (hs.not_awaited hp hq hpq rfl rfl h).elim
      · exact (hpq (hs.owner_unique hp hq rfl rfl h)).elim
    · exact hfits.congr rfl ((Table.lookup_remove ..).trans (if_neg hkey)) fun _ => le_rfl
  | drop g =>
    refine hfits.congr rfl rfl fun {g'} _ => ?_
    by_cases hg : g' = g
    · subst hg
      simp [Shared.drop]
    · simp [Shared.drop, hg]

end Coherent

variable [DecidableEq T]

/-- The request that a step is made for fits afterwards. -/
theorem Effect.fits {t : T} {m m' : Shared K V T} {o : Option (Request K V)} {key : K}
    {action : Action V} {r' : Request K V} (h : Effect t m o key action m' (some r'))
    (hfits : ∀ r, o = some r → Fits m r.key r.stage) : Fits m' r'.key r'.stage := by
  cases h with
  | ask => exact {}
  | move h => exact (hfits _ rfl).move h
  | finish outcome =>
    obtain ⟨-, howned, hunstored, -, -⟩ := hfits _ rfl
    exact { owned := howned, unstored := hunstored }

/-- The invariant holds after every step. -/
theorem Coherent.step {s s' : State K V T} {e : Event K V T} {p : Position T} (hs : Coherent s)
    (hat : StepAt s e s' p) : Coherent s' where
  locking := hs.locking.step hat
  counted := hs.counted.step hat
  fits {q r} hq := by
    by_cases hqp : q = p
    · subst hqp
      have heffect := hat.effect
      rw [hq] at heffect
      exact heffect.fits fun r hr => hs.fits hr
    · rw [hat.frame q hqp] at hq
      exact hs.fits_other hat.effect.tables rfl hq (Ne.symm hqp)

/-- The invariant holds in every state that can be reached. -/
theorem Run.coherent {name : String} {trace : List (Event K V T)} {s : State K V T}
    (hrun : Run (State.start name) trace s) : Coherent s :=
  hrun.invariant Coherent.step (coherent_start name)

end KernelForge.Interleaving
