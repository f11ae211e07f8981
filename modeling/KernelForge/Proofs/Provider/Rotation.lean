import KernelForge.Proofs.Provider.Preserves
import KernelForge.Proofs.Storage.Banks

/-!
# Banks that take turns

Callers make banks, copy them, and make members active through any copy, between their calls on a
provider. A copy of a bank keeps no choice of its own: all copies read one selection in the store. This
is the last index that somebody selected through one of them, or the initial one, and it is always the
number of a member. Requests, launches and other changes have nothing to do with the selections.
-/

namespace KernelForge

variable {Fn σ : Type}

/-- A bank in the hands of a caller. All copies of a bank have the same origin. -/
structure Handle where
  bank : Bank
  origin : Nat

/-- Calls on a provider, and the banks that callers have. -/
structure Rotation (Fn σ : Type) where
  history : History Fn σ
  handles : List Handle

/-- What can happen next. -/
inductive Turn (σ : Type) where
  | call (c : Call σ)
  /-- Makes a bank. -/
  | create (members : List Matrix) (initial : UInt64)
  /-- Copies the i-th bank. -/
  | clone (i : Nat)
  /-- Makes a member of the i-th bank active. -/
  | select (i : Nat) (index : UInt64)

namespace Rotation

/-- The store as it is now. -/
def store (r : Rotation Fn σ) : Store := r.history.session.world.store

/-- The store is replaced. -/
def withStore (r : Rotation Fn σ) (store : Store) : Rotation Fn σ :=
  { r with history :=
      { r.history with session :=
          { r.history.session with world := { r.history.session.world with store := store } } } }

/-- The store that was put in place. -/
@[simp] theorem store_withStore (r : Rotation Fn σ) (store : Store) :
    (r.withStore store).store = store := rfl

/-- Callers keep their banks. -/
@[simp] theorem handles_withStore (r : Rotation Fn σ) (store : Store) :
    (r.withStore store).handles = r.handles := rfl

/-- Somebody gets a bank. -/
def withHandle (r : Rotation Fn σ) (handle : Handle) : Rotation Fn σ :=
  { r with handles := r.handles ++ [handle] }

/-- Getting a bank is no change of the store. -/
@[simp] theorem store_withHandle (r : Rotation Fn σ) (handle : Handle) :
    (r.withHandle handle).store = r.store := rfl

/-- The new bank comes last. -/
@[simp] theorem handles_withHandle (r : Rotation Fn σ) (handle : Handle) :
    (r.withHandle handle).handles = r.handles ++ [handle] := rfl

/-- What holds for all banks and the new one. -/
theorem forall_withHandle {r : Rotation Fn σ} {handle : Handle} {p : Handle → Prop} :
    (∀ other ∈ (r.withHandle handle).handles, p other) ↔
      (∀ other ∈ r.handles, p other) ∧ p handle := by
  rw [handles_withHandle, List.forall_mem_append, List.forall_mem_singleton]

/-- A new provider; nobody has a bank. -/
def start (world : World σ) : Rotation Fn σ := ⟨.start world, []⟩

variable (backend : Backend Fn σ)

/-- What becomes of calls and banks by the next turn. What fails changes nothing. -/
def turn (r : Rotation Fn σ) : Turn σ → Rotation Fn σ
  | .call c => { r with history := r.history.call backend c }
  | .create members initial =>
      match Bank.create members initial r.store with
      | .ok (bank, store) =>
          (r.withStore store).withHandle ⟨bank, r.handles.length⟩
      | .error _ => r
  | .clone i =>
      match r.handles[i]? with
      | some handle => r.withHandle handle
      | none => r
  | .select i index =>
      match r.handles[i]? with
      | some handle =>
          match handle.bank.select index r.store with
          | .ok ((), store) => r.withStore store
          | .error _ => r
      | none => r

/-- A new provider after a number of turns. -/
def after (world : World σ) (turns : List (Turn σ)) : Rotation Fn σ :=
  turns.foldl (turn backend) (start world)

end Rotation

/-! ### What was selected -/

/-- The index that a turn makes the active one of a bank, if it succeeds. -/
def Turn.activates (r : Rotation Fn σ) (origin : Nat) : Turn σ → Option Nat
  | .create members initial =>
      match Bank.create members initial r.store with
      | .ok _ => if r.handles.length = origin then some initial.toNat else none
      | .error _ => none
  | .select i index =>
      match r.handles[i]? with
      | some handle =>
          if handle.origin = origin ∧ index.toNat < handle.bank.size then some index.toNat else none
      | none => none
  | .call _ | .clone _ => none

namespace Rotation

/-- All indices that were made active for a bank, in order. -/
def activations (backend : Backend Fn σ) (r : Rotation Fn σ) (origin : Nat) :
    List (Turn σ) → List Nat
  | [] => []
  | t :: rest =>
      (t.activates r origin).toList ++ activations backend (r.turn backend t) origin rest

end Rotation

/-- What a turn can do: what it leaves, and what it makes active. -/
inductive Rotation.Turned (backend : Backend Fn σ) (r : Rotation Fn σ) :
    Turn σ → Rotation Fn σ → (Nat → Option Nat) → Prop where
  | call (c : Call σ) :
      Turned backend r (.call c) { r with history := r.history.call backend c } fun _ => none
  | create {members : List Matrix} {initial : UInt64} {bank : Bank} {store : Store}
      (h : Bank.create members initial r.store = .ok (bank, store)) :
      Turned backend r (.create members initial)
        ((r.withStore store).withHandle ⟨bank, r.handles.length⟩)
        fun origin => if r.handles.length = origin then some initial.toNat else none
  | clone {i : Nat} {handle : Handle} (hmem : handle ∈ r.handles) :
      Turned backend r (.clone i) (r.withHandle handle) fun _ => none
  | select {i : Nat} {index : UInt64} {handle : Handle} {store : Store} (hmem : handle ∈ r.handles)
      (h : handle.bank.select index r.store = .ok ((), store)) :
      Turned backend r (.select i index) (r.withStore store)
        fun origin => if handle.origin = origin then some index.toNat else none
  | failed (t : Turn σ) : Turned backend r t r fun _ => none

/-- Every turn is one of these. -/
theorem Rotation.turned (backend : Backend Fn σ) (r : Rotation Fn σ) (t : Turn σ) :
    Turned backend r t (r.turn backend t) fun origin => t.activates r origin := by
  cases t with
  | call c => exact .call c
  | create members initial =>
    simp only [turn, Turn.activates]
    cases hcreate : Bank.create members initial r.store with
    | ok made => exact .create hcreate
    | error error => exact .failed _
  | clone i =>
    simp only [turn, Turn.activates]
    cases hhandle : r.handles[i]? with
    | some handle => exact .clone (List.mem_of_getElem? hhandle)
    | none => exact .failed _
  | select i index =>
    simp only [turn, Turn.activates]
    cases hhandle : r.handles[i]? with
    | none => exact .failed _
    | some handle =>
      have hmem := List.mem_of_getElem? hhandle
      by_cases hlt : index.toNat < handle.bank.size
      · simp only [Bank.select, hlt, and_true, if_true]
        exact .select hmem (if_pos hlt)
      · simp only [Bank.select, hlt, and_false, if_false]
        exact .failed _

/-! ### What does not select -/

/-- A backend has nothing to do with the selections of banks. -/
structure Backend.KeepsSelections (backend : Backend Fn σ) : Prop where
  render : ∀ name module params world,
    (backend.render name module params world).2.store.selections = world.store.selections
  build : ∀ name source slots world,
    (backend.build name source slots world).2.store.selections = world.store.selections
  launch : ∀ function dims values world,
    (backend.launch function dims values world).2.store.selections = world.store.selections

/-- A turn that changes the world leaves the selections of banks alone. -/
def Turn.KeepsSelections (t : Turn σ) : Prop :=
  ∀ f, t = .call (.change f) → ∀ world, (f world).store.selections = world.store.selections

/-- Work of a backend that keeps the selections. -/
theorem Session.keeps_selections {α : Type} {work : BackendM σ α} (selections : Array Nat)
    (h : ∀ world, (work world).2.store.selections = world.store.selections) :
    Keeps (fun s : Session Fn σ => s.world.store.selections = selections) (ofBackend work)
      fun _ => True :=
  fun s hs => ⟨(h s.world).trans hs, fun _ _ => trivial⟩

namespace Backend.KeepsSelections

variable {backend : Backend Fn σ}

/-- Calls on a provider over such a backend keep the selections. -/
theorem preserves (h : backend.KeepsSelections) (selections : Array Nat) :
    backend.Preserves (fun s => s.world.store.selections = selections) fun _ _ => True where
  register _ := Session.keeps_register fun _ _ hs => hs
  function name module params := by
    refine (?_ : Keeps _ _ fun _ => True).bind fun rendered _ =>
      (?_ : Keeps _ _ fun _ => True).bind fun _ _ => Keeps.pure trivial
    · exact Session.renderSlot.keeps_request _ (fun _ h => h) (fun _ h => h) (fun _ h => h)
        (fun _ _ h _ => h) (fun _ _ _ _ => trivial)
        (Session.keeps_selections _ (h.render _ _ _))
    · exact Session.buildSlot.keeps_request _ (fun _ h => h) (fun _ h => h) (fun _ h => h)
        (fun _ _ h _ => h) (fun _ _ _ _ => trivial)
        (Session.keeps_selections _ (h.build _ _ _))
  launch _ := Session.keeps_selections _ (h.launch _ _ _)

/-- A call keeps the selections, unless it is a change that does not. -/
theorem call (h : backend.KeepsSelections) {history : History Fn σ}
    (hkept : history.Kept (fun _ => True) fun _ _ => True) {c : Call σ}
    (hc : (Turn.call c).KeepsSelections) :
    (history.call backend c).session.world.store.selections =
      history.session.world.store.selections := by
  have hnow : history.Kept
      (fun s => s.world.store.selections = history.session.world.store.selections)
      fun _ _ => True := ⟨rfl, hkept.2⟩
  exact (hnow.call (h.preserves _) c fun f hf s hs => (hc f (congrArg _ hf) s.world).trans hs).1

end Backend.KeepsSelections

/-- What is active depends on the selections and on nothing else. -/
theorem Bank.selected_congr (bank : Bank) {store store' : Store}
    (h : store'.selections = store.selections) : bank.selected store' = bank.selected store := by
  rw [selected, selected, h]

/-- A new selection leaves the earlier ones alone. -/
theorem Bank.selected_push (bank : Bank) (store : Store) (index : Nat) :
    bank.selected { store with selections := store.selections.push index } =
      if bank.selector = store.selections.size then index else bank.selected store := by
  rw [selected, selected, Array.getD_eq_getD_getElem?, Array.getD_eq_getD_getElem?,
    Array.getElem?_push]
  split <;> rfl

/-- A selection is seen by the banks that share it, and by no others. -/
theorem Bank.selected_set (bank : Bank) {store : Store} {selector : Nat}
    (h : selector < store.selections.size) (index : Nat) :
    bank.selected { store with selections := store.selections.setIfInBounds selector index } =
      if selector = bank.selector then index else bank.selected store := by
  rw [selected, selected, Array.getD_eq_getD_getElem?, Array.getD_eq_getD_getElem?,
    Array.getElem?_setIfInBounds]
  by_cases hsame : selector = bank.selector
  · rw [if_pos hsame, if_pos (hsame ▸ h), if_pos hsame]
    rfl
  · rw [if_neg hsame, if_neg hsame]

/-! ### Copies of banks -/

/-- Copies of a bank are equal, other banks have other selections, and what is selected is always the
number of a member. -/
structure Rotation.Coherent (r : Rotation Fn σ) : Prop where
  kept : r.history.Kept (fun _ => True) fun _ _ => True
  uniform : ∀ handle ∈ r.handles, handle.bank.Uniform
  bounded : ∀ handle ∈ r.handles, handle.bank.selector < r.store.selections.size
  selected : ∀ handle ∈ r.handles, handle.bank.selected r.store < handle.bank.size
  same : ∀ handle ∈ r.handles, ∀ other ∈ r.handles,
    handle.origin = other.origin ↔ handle.bank.selector = other.bank.selector
  equal : ∀ handle ∈ r.handles, ∀ other ∈ r.handles,
    handle.origin = other.origin → handle.bank = other.bank
  earlier : ∀ handle ∈ r.handles, handle.origin < r.handles.length

namespace Rotation

variable {backend : Backend Fn σ} {r : Rotation Fn σ}

/-- Nobody has a bank at the start. -/
theorem coherent_start (world : World σ) : (start world : Rotation Fn σ).Coherent where
  kept := ⟨trivial, fun _ h => absurd h List.not_mem_nil⟩
  uniform _ h := absurd h List.not_mem_nil
  bounded _ h := absurd h List.not_mem_nil
  selected _ h := absurd h List.not_mem_nil
  same _ h := absurd h List.not_mem_nil
  equal _ h := absurd h List.not_mem_nil
  earlier _ h := absurd h List.not_mem_nil

namespace Coherent

/-- A change of the history that keeps the selections. -/
theorem change (h : r.Coherent) {history : History Fn σ}
    (hkept : history.Kept (fun _ => True) fun _ _ => True)
    (hselections : history.session.world.store.selections = r.store.selections) :
    ({ r with history := history } : Rotation Fn σ).Coherent where
  kept := hkept
  uniform := h.uniform
  bounded handle hmem := by
    change handle.bank.selector < history.session.world.store.selections.size
    rw [hselections]
    exact h.bounded handle hmem
  selected handle hmem := by
    change handle.bank.selected history.session.world.store < _
    rw [handle.bank.selected_congr hselections]
    exact h.selected handle hmem
  same := h.same
  equal := h.equal
  earlier := h.earlier

/-- A bank is made. -/
theorem create (h : r.Coherent) {members : List Matrix} {initial : UInt64} {bank : Bank}
    {store : Store} (hcreate : Bank.create members initial r.store = .ok (bank, store)) :
    ((r.withStore store).withHandle ⟨bank, r.handles.length⟩).Coherent := by
  obtain ⟨-, huniform, hinitial, hselector, rfl⟩ := Bank.create_eq_ok hcreate
  have hother {handle : Handle} (hmem : handle ∈ r.handles) :
      handle.origin ≠ r.handles.length ∧ handle.bank.selector ≠ bank.selector := by
    have hearlier := h.earlier handle hmem
    have hbounded := h.bounded handle hmem
    omega
  constructor
  case kept => exact ⟨trivial, h.kept.2⟩
  case uniform => exact forall_withHandle.mpr ⟨h.uniform, huniform⟩
  case bounded =>
    simp only [store_withHandle, store_withStore, Array.size_push]
    refine forall_withHandle.mpr ⟨fun handle hmem => Nat.lt_succ_of_lt (h.bounded handle hmem), ?_⟩
    exact hselector ▸ Nat.lt_succ_self _
  case selected =>
    simp only [store_withHandle, store_withStore, Bank.selected_push]
    refine forall_withHandle.mpr ⟨fun handle hmem => ?_, ?_⟩
    · rw [if_neg (Nat.ne_of_lt (h.bounded handle hmem))]
      exact h.selected handle hmem
    · rw [if_pos hselector]
      exact hinitial
  case same =>
    simp only [forall_withHandle, iff_self, and_true]
    refine ⟨fun handle hmem => ⟨h.same handle hmem, ?_⟩, fun handle hmem => ?_⟩
    · exact iff_of_false (hother hmem).1 (hother hmem).2
    · exact iff_of_false (hother hmem).1.symm (hother hmem).2.symm
  case equal =>
    simp only [forall_withHandle, implies_true, and_true]
    refine ⟨fun handle hmem => ⟨h.equal handle hmem, fun heq => ?_⟩, fun handle hmem heq => ?_⟩
    · exact absurd heq (hother hmem).1
    · exact absurd heq.symm (hother hmem).1
  case earlier =>
    rw [handles_withHandle, handles_withStore, List.length_append, List.length_singleton]
    refine forall_withHandle.mpr ⟨fun handle hmem => Nat.lt_succ_of_lt (h.earlier handle hmem), ?_⟩
    exact Nat.lt_succ_self _

/-- A bank is copied. -/
theorem clone (h : r.Coherent) {handle : Handle} (hmem : handle ∈ r.handles) :
    (r.withHandle handle).Coherent := by
  have hold {other : Handle} (hother : other ∈ (r.withHandle handle).handles) :
      other ∈ r.handles :=
    forall_withHandle.mpr ⟨fun _ h => h, hmem⟩ other hother
  constructor
  case kept => exact h.kept
  case uniform => exact fun other hother => h.uniform other (hold hother)
  case bounded => exact fun other hother => h.bounded other (hold hother)
  case selected => exact fun other hother => h.selected other (hold hother)
  case same => exact fun one hone other hother => h.same one (hold hone) other (hold hother)
  case equal => exact fun one hone other hother => h.equal one (hold hone) other (hold hother)
  case earlier =>
    intro other hother
    rw [handles_withHandle, List.length_append]
    exact Nat.lt_add_right _ (h.earlier other (hold hother))

/-- A member of a bank is made active. -/
theorem select (h : r.Coherent) {handle : Handle} (hmem : handle ∈ r.handles) {index : UInt64}
    {store : Store} (hselect : handle.bank.select index r.store = .ok ((), store)) :
    (r.withStore store).Coherent := by
  obtain ⟨hlt, rfl⟩ := Bank.select_eq_ok.mp hselect
  constructor
  case kept => exact ⟨trivial, h.kept.2⟩
  case uniform => exact h.uniform
  case bounded =>
    intro other hother
    rw [store_withStore, Array.size_setIfInBounds]
    exact h.bounded other hother
  case selected =>
    intro other hother
    rw [store_withStore, Bank.selected_set _ (h.bounded handle hmem)]
    split
    · next hsame =>
      rw [← h.equal handle hmem other hother ((h.same handle hmem other hother).mpr hsame)]
      exact hlt
    · exact h.selected other hother
  case same => exact h.same
  case equal => exact h.equal
  case earlier => exact h.earlier

/-- What a turn leaves is coherent. -/
theorem turned (h : r.Coherent) (hbackend : backend.KeepsSelections) {t : Turn σ}
    (ht : t.KeepsSelections) {r' : Rotation Fn σ} {active : Nat → Option Nat}
    (hturned : Turned backend r t r' active) : r'.Coherent := by
  cases hturned with
  | call c =>
    refine h.change ?_ (hbackend.call h.kept ht)
    exact h.kept.call backend.preserves_anything c fun _ _ _ h => h
  | create hcreate => exact h.create hcreate
  | clone hmem => exact h.clone hmem
  | select hmem hselect => exact h.select hmem hselect
  | failed => exact h

end Coherent

/-- What the copies of banks report, by the origins of the banks. -/
def Reports (r : Rotation Fn σ) (last : Nat → Option Nat) : Prop :=
  ∀ handle ∈ r.handles, last handle.origin = some (handle.bank.selected r.store)

/-- What a turn makes active is reported from then on, and nothing else changes. -/
theorem Reports.turned {last : Nat → Option Nat} (hreports : r.Reports last) (h : r.Coherent)
    (hbackend : backend.KeepsSelections) {t : Turn σ} (ht : t.KeepsSelections)
    {r' : Rotation Fn σ} {active : Nat → Option Nat} (hturned : Turned backend r t r' active) :
    r'.Reports fun origin => (active origin).or (last origin) := by
  cases hturned with
  | call c =>
    intro handle hmem
    simp only [Option.none_or, hreports handle hmem]
    exact congrArg some (handle.bank.selected_congr (hbackend.call h.kept ht)).symm
  | create hcreate =>
    obtain ⟨-, -, -, hselector, rfl⟩ := Bank.create_eq_ok hcreate
    simp only [Reports, store_withHandle, store_withStore, Bank.selected_push]
    refine forall_withHandle.mpr ⟨fun handle hmem => ?_, ?_⟩
    · rw [if_neg (Nat.ne_of_gt (h.earlier handle hmem)), Option.none_or, hreports handle hmem,
        if_neg (Nat.ne_of_lt (h.bounded handle hmem))]
    · rw [if_pos rfl, Option.some_or, if_pos hselector]
  | clone hmem => exact forall_withHandle.mpr ⟨hreports, hreports _ hmem⟩
  | @select _ index handle _ hmem hselect =>
    obtain ⟨hlt, rfl⟩ := Bank.select_eq_ok.mp hselect
    intro other hother
    simp only [store_withStore, Bank.selected_set _ (h.bounded handle hmem),
      ← h.same handle hmem other hother]
    split
    · rfl
    · exact hreports other hother
  | failed => exact hreports

/-- A turn keeps what calls preserve and what is not about the world. -/
theorem Turned.kept {inv : Session Fn σ → Prop} {post : Fn → Contract → Prop}
    (hp : backend.Preserves inv post) (hworld : ∀ s world, inv s → inv { s with world := world })
    {t : Turn σ} {r' : Rotation Fn σ} {active : Nat → Option Nat}
    (hturned : Turned backend r t r' active) (h : r.history.Kept inv post) :
    r'.history.Kept inv post := by
  cases hturned with
  | call c => exact h.call hp c fun _ _ s hs => hworld s _ hs
  | create => exact ⟨hworld _ _ h.1, h.2⟩
  | clone => exact h
  | select => exact ⟨hworld _ _ h.1, h.2⟩
  | failed => exact h

/-- Nobody loses a bank. -/
theorem Turned.mem {t : Turn σ} {r' : Rotation Fn σ} {active : Nat → Option Nat}
    (hturned : Turned backend r t r' active) {handle : Handle} (h : handle ∈ r.handles) :
    handle ∈ r'.handles := by
  cases hturned with
  | create | clone => exact List.mem_append_left _ h
  | call | select | failed => exact h

/-! ### Any turns -/

/-- What calls keep on any world, turns keep. -/
theorem kept_turns {inv : Session Fn σ → Prop} {post : Fn → Contract → Prop}
    (hp : backend.Preserves inv post) (hworld : ∀ s world, inv s → inv { s with world := world })
    (turns : List (Turn σ)) (h : r.history.Kept inv post) :
    (turns.foldl (turn backend) r).history.Kept inv post := by
  induction turns generalizing r with
  | nil => exact h
  | cons t rest ih => exact ih ((r.turned backend t).kept hp hworld h)

/-- Callers keep the banks that they have. -/
theorem mem_handles_turns {handle : Handle} (turns : List (Turn σ)) (h : handle ∈ r.handles) :
    handle ∈ (turns.foldl (turn backend) r).handles := by
  induction turns generalizing r with
  | nil => exact h
  | cons t rest ih => exact ih ((r.turned backend t).mem h)

/-- Turns keep the banks in accord. -/
theorem coherent_turns (hbackend : backend.KeepsSelections) {turns : List (Turn σ)}
    (hturns : ∀ t ∈ turns, t.KeepsSelections) (h : r.Coherent) :
    (turns.foldl (turn backend) r).Coherent := by
  induction turns generalizing r with
  | nil => exact h
  | cons t rest ih =>
    have ht := hturns t List.mem_cons_self
    exact ih (fun t ht => hturns t (List.mem_cons_of_mem _ ht))
      (h.turned hbackend ht (r.turned backend t))

/-- After any turns, a bank reports the last index that was made active for it. -/
theorem reports_turns (hbackend : backend.KeepsSelections) {turns : List (Turn σ)}
    (hturns : ∀ t ∈ turns, t.KeepsSelections) (h : r.Coherent) {last : Nat → Option Nat}
    (hreports : r.Reports last) :
    (turns.foldl (turn backend) r).Reports fun origin =>
      (activations backend r origin turns).getLast?.or (last origin) := by
  induction turns generalizing r last with
  | nil => exact hreports
  | cons t rest ih =>
    have ht := hturns t List.mem_cons_self
    have hturned := r.turned backend t
    have hnext := ih (fun t ht => hturns t (List.mem_cons_of_mem _ ht))
      (h.turned hbackend ht hturned) (hreports.turned h hbackend ht hturned)
    have hlast (origin : Nat) : (activations backend r origin (t :: rest)).getLast?.or (last origin) =
        (activations backend (r.turn backend t) origin rest).getLast?.or
          ((t.activates r origin).or (last origin)) := by
      rw [activations, List.getLast?_append, Option.or_assoc]
      cases t.activates r origin <;> rfl
    simp only [hlast]
    exact hnext

/-- After any turns on a new provider, banks are coherent and report what was last made active. -/
theorem coherent_after (hbackend : backend.KeepsSelections) (world : World σ) {turns : List (Turn σ)}
    (hturns : ∀ t ∈ turns, t.KeepsSelections) : (after backend world turns).Coherent :=
  coherent_turns hbackend hturns (coherent_start world)

/-- After any turns banks report what was last made active. -/
theorem reports_after (hbackend : backend.KeepsSelections) (world : World σ) {turns : List (Turn σ)}
    (hturns : ∀ t ∈ turns, t.KeepsSelections) :
    (after backend world turns).Reports fun origin =>
      (activations backend (start world) origin turns).getLast? := by
  have hnone : (start world : Rotation Fn σ).Reports fun _ => none :=
    fun handle h => absurd h List.not_mem_nil
  have hreports := reports_turns hbackend hturns (coherent_start world) hnone
  simp only [Option.or_none] at hreports
  exact hreports

end Rotation

end KernelForge
