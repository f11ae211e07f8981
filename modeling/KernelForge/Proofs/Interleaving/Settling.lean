import KernelForge.Proofs.Interleaving.AtMostOnce

/-!
# What becomes of requests

Every request is settled once: it finds a value, it is refused, its builder fails, or its builder
ends with a value, which is counted after it was stored. Until then it is in flight. So the requests
that were made are those that were settled and those that are not settled yet, and the entries are
the builds that were counted and those that are about to be.
-/

namespace KernelForge.Interleaving

variable {K V T : Type}

namespace Action

/-- Whether a step makes a request. -/
@[simp] def isAsk : Action V → Bool
  | .ask => true
  | _ => false

/-- Whether a step refuses a request. -/
@[simp] def isRefusal : Action V → Bool
  | .refuse => true
  | _ => false

/-- Whether a step is the end of a builder with a failure. -/
@[simp] def isFailure : Action V → Bool
  | .finish (.error _) => true
  | _ => false

end Action

/-- How many steps of a kind were made. -/
def tally (kind : Action V → Bool) (trace : List (Event K V T)) : Nat :=
  trace.countP fun e => kind e.action

/-- A step is counted if it is one of a kind. -/
theorem tally_snoc (kind : Action V → Bool) (trace : List (Event K V T)) (e : Event K V T) :
    tally kind (trace ++ [e]) = tally kind trace + (kind e.action).toNat := by
  cases h : kind e.action <;> simp [tally, h]

/-- Whether a request at a stage has not been settled. -/
@[simp] def Stage.unsettled : Stage V → Bool
  | .look | .countHit _ | .lockMarks | .readMark | .unlockMarks _ | .lockGates | .takeGate
  | .unlockGates _ | .lockGate _ | .lookAgain _ | .countLateHit _ _ | .lockMarksToSet _
  | .setMark _ | .unlockMarksSet _ | .building _ | .lockMarksToClear _ (.ok _)
  | .clearMark _ (.ok _) | .unlockMarksCleared _ (.ok _) | .store _ _ | .countBuild _ _ => true
  | _ => false

/-- Whether a request at a stage has stored a value that was not counted. -/
@[simp] def Stage.uncounted : Stage V → Bool
  | .countBuild _ _ => true
  | _ => false

/-- One if the request at a position, if there is one, has not been settled. -/
def unsettledAt (o : Option (Request K V)) : Nat := o.elim 0 (·.stage.unsettled.toNat)

/-- One if the request at a position, if there is one, has stored a value that was not counted. -/
def uncountedAt (o : Option (Request K V)) : Nat := o.elim 0 (·.stage.uncounted.toNat)

variable [DecidableEq K] [DecidableEq T]

section Effect

variable {t : T} {m m' : Shared K V T} {o o' : Option (Request K V)} {key : K} {action : Action V}

/-- A step makes a request, or settles one, or does neither. -/
theorem Effect.settles (h : Effect t m o key action m' o') :
    action.isAsk.toNat + unsettledAt o + m.hits + m.builds =
      m'.hits + m'.builds + action.isFailure.toNat + action.isRefusal.toNat + unsettledAt o' := by
  cases h with
  | ask | answer => simp +arith [unsettledAt]
  | finish outcome => cases outcome <;> simp +arith [unsettledAt]
  | move h =>
    cases h
    case clearMark g outcome | lockMarksToClear g outcome _ =>
      cases outcome <;> simp +arith [unsettledAt, Shared.hold]
    all_goals simp +arith [unsettledAt, Shared.hold, Shared.release, Shared.share,
      Shared.makeGate, Shared.drop]

/-- A step that stores a value makes an entry, since there was none for the key. -/
theorem Effect.stores (h : Effect t m o key action m' o')
    (hfits : ∀ r, o = some r → Fits m r.key r.stage) :
    m'.entries.length + m.builds + uncountedAt o =
      m.entries.length + m'.builds + uncountedAt o' := by
  cases h with
  | ask | answer | finish => rfl
  | move h =>
    cases h
    case store g v =>
      have hnone := (hfits _ rfl).unstored rfl
      simp +arith [uncountedAt, Table.put, Table.remove_of_lookup_eq_none hnone]
    all_goals rfl

end Effect

/-- The requests that were made are those that were settled and those among these positions that are
not settled yet, and the entries are the builds that were counted and those that are not yet. -/
structure Settled (trace : List (Event K V T)) (s : State K V T) (S : Finset (Position T)) :
    Prop where
  within : s.Within S
  requests : tally Action.isAsk trace = s.shared.hits + s.shared.builds +
    tally Action.isFailure trace + tally Action.isRefusal trace +
    ∑ p ∈ S, unsettledAt (s.request? p)
  entries : s.shared.entries.length = s.shared.builds + ∑ p ∈ S, uncountedAt (s.request? p)

section Settled

variable {name : String} {trace : List (Event K V T)} {s s' : State K V T} {S : Finset (Position T)}

omit [DecidableEq K] [DecidableEq T] in
/-- Nothing was counted at the start. -/
theorem settled_start (name : String) : Settled [] (State.start name : State K V T) ∅ where
  within p _ := request?_start name p
  requests := rfl
  entries := rfl

/-- A step keeps the accounts. -/
theorem Settled.step {e : Event K V T} {p : Position T} (h : Settled trace s S) (hs : Coherent s)
    (hat : StepAt s e s' p) : Settled (trace ++ [e]) s' (insert p S) where
  within := h.within.step hat
  requests := by
    have hsettles := hat.effect.settles
    have hsum := h.within.sum_step hat (f := unsettledAt) rfl
    have hrequests := h.requests
    rw [tally_snoc, tally_snoc, tally_snoc]
    omega
  entries := by
    have hstores := hat.effect.stores fun r hr => hs.fits hr
    have hsum := h.within.sum_step hat (f := uncountedAt) rfl
    have hentries := h.entries
    omega

/-- The accounts are right throughout a run. -/
theorem Run.settled (hrun : Run (State.start name) trace s) : ∃ S, Settled trace s S :=
  hrun.trace_invariant (P := fun trace s => ∃ S, Settled trace s S) ⟨∅, settled_start name⟩
    fun {_ _ _ _ _ p} hbefore _ hat ⟨S, hS⟩ => ⟨insert p S, hS.step hbefore.coherent hat⟩

/-- However the steps of the threads come, no more builds are counted than there are entries, and no
more requests are settled than were made. When no request is in flight, there are as many entries as
builds that were counted, and every request that was made is counted as a hit or as a build, failed
with its builder, or was refused. -/
theorem Run.requests_settled (hrun : Run (State.start name) trace s) :
    s.shared.cache.builds ≤ s.shared.cache.size ∧
    s.shared.cache.hits + s.shared.cache.builds + tally Action.isFailure trace +
      tally Action.isRefusal trace ≤ tally Action.isAsk trace ∧
    (s.Idle →
      tally Action.isAsk trace = s.shared.cache.hits + s.shared.cache.builds +
        tally Action.isFailure trace + tally Action.isRefusal trace ∧
      s.shared.cache.builds = s.shared.cache.size) := by
  obtain ⟨S, -, hrequests, hentries⟩ := hrun.settled
  refine ⟨?_, ?_, fun hidle => ?_⟩
  · exact Nat.le.intro hentries.symm
  · exact Nat.le.intro hrequests.symm
  · have hnone (f : Option (Request K V) → Nat) (hf : f none = 0) :
        ∑ p ∈ S, f (s.request? p) = 0 :=
      Finset.sum_eq_zero fun p _ => by rw [request?_of_idle hidle, hf]
    rw [hnone unsettledAt rfl] at hrequests
    rw [hnone uncountedAt rfl] at hentries
    exact ⟨hrequests, hentries.symm⟩

end Settled

/-- Two threads ask for a key whose builder asks for it again and fails on that account. The one that
waited builds it anew and then asks for it once more. -/
def retriedBuild : List (Choice Nat Nat Bool) :=
  Choice.ask true 0 :: Choice.ask false 0 :: List.replicate 7 (Choice.go true) ++
    List.replicate 7 (Choice.go false) ++ List.replicate 5 (Choice.go true) ++
    Choice.ask true 0 :: List.replicate 5 (Choice.go true) ++
    Choice.finish true (.error (.reentrantBuild "kernels")) :: List.replicate 9 (Choice.go true) ++
    List.replicate 5 (Choice.go false) ++
    Choice.finish false (.ok 7) :: List.replicate 12 (Choice.go false) ++
    Choice.ask false 0 :: List.replicate 3 (Choice.go false)

/-- One of the four requests is refused, one fails, one builds the value and one finds it. -/
theorem retriedBuild_settled : ∃ (events : List (Event Nat Nat Bool)) (s : State Nat Nat Bool),
    Run (State.start "kernels") events s ∧ s.Idle ∧ s.shared.cache.hits = 1 ∧
      tally Action.isFailure events = 1 ∧ tally Action.isRefusal events = 1 ∧
      tally Action.isAsk events = 4 ∧ s.shared.cache.builds = 1 ∧ s.shared.cache.size = 1 := by
  obtain ⟨events, s, hperform, hfirst, hsecond, hhits, hbuilds, hfailed, hrefused⟩ :
      ∃ events s, (State.start "kernels").perform retriedBuild = some (events, s) ∧
        s.threads true = [] ∧ s.threads false = [] ∧ s.shared.cache.hits = 1 ∧
        s.shared.cache.builds = 1 ∧ tally Action.isFailure events = 1 ∧
        tally Action.isRefusal events = 1 := ⟨_, _, rfl, rfl, rfl, rfl, rfl, rfl, rfl⟩
  have hrun := State.run_of_perform hperform
  have hidle : s.Idle := fun t => by cases t <;> assumption
  obtain ⟨-, -, hrest⟩ := Run.requests_settled hrun
  obtain ⟨hasked, hsize⟩ := hrest hidle
  rw [hhits, hbuilds, hfailed, hrefused] at hasked
  exact ⟨events, s, hrun, hidle, hhits, hfailed, hrefused, hasked, hbuilds, hsize ▸ hbuilds⟩

end KernelForge.Interleaving
