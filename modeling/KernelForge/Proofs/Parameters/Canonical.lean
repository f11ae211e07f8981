import KernelForge.Proofs.Parameters.Order
import KernelForge.Proofs.Provider.Lasting
import Mathlib.Data.List.Induction

/-!
# Parameter sets do not show how they were made

A set of parameters is made by binding names, one after the other, and by collecting lists of bindings.
What it is then is decided by the last value of each name: sets for which these are the same are equal,
list the same names in ascending order, and are the same part of what a rendering is remembered under.
What was rendered or built for one of them is found for the other, without work for the backend.
-/

namespace KernelForge

/-! ### Lists of bindings -/

namespace NameMap

variable {α : Type}

/-- The value in the last binding of a name. -/
def lastValue (bindings : List (String × α)) (name : String) : Option α :=
  ((bindings.filter fun e => e.1 = name).getLast?).map Prod.snd

/-- A binding that is added at the end is the last one of its name. -/
theorem lastValue_concat (bindings : List (String × α)) (e : String × α) (name : String) :
    lastValue (bindings ++ [e]) name =
      if name = e.1 then some e.2 else lastValue bindings name := by
  rw [lastValue, List.filter_append]
  split
  · next h => rw [List.filter_cons_of_pos (by simp [h]), List.filter_nil, List.getLast?_concat]; rfl
  · next h =>
    rw [List.filter_cons_of_neg (by simp [Ne.symm h]), List.filter_nil, List.append_nil, lastValue]

/-- A list is collected from the front, so its last binding is inserted last. -/
theorem ofList_concat (bindings : List (String × α)) (e : String × α) :
    ofList (bindings ++ [e]) = (ofList bindings).insert e.1 e.2 := List.foldl_append

/-- A collected map has the last value of every name. -/
theorem get?_ofList (bindings : List (String × α)) (name : String) :
    (ofList bindings).get? name = lastValue bindings name := by
  induction bindings using List.reverseRecOn with
  | nil => rfl
  | append_singleton rest e ih => rw [ofList_concat, get?_insert, lastValue_concat, ih]

/-- Names are listed in ascending order. -/
theorem keys_ascending (map : NameMap α) : map.keys.Pairwise (· < ·) :=
  List.pairwise_map.mpr map.sorted

/-- The listed names are those that have a value. -/
theorem mem_keys_iff {map : NameMap α} {name : String} :
    name ∈ map.keys ↔ (map.get? name).isSome := by
  rw [keys, get?]
  induction map.entries with
  | nil => simp [lookupEntry]
  | cons e rest ih =>
    rw [List.map_cons, List.mem_cons, lookupEntry, ih]
    split <;> simp_all

end NameMap

/-! ### Sequences of steps -/

/-- A step in which parameters are made. -/
inductive ParamStep where
  | insert (name : String) (value : ParamValue)
  | extend (name : String) (value : ParamValue)
  /-- Makes a new set of a list of bindings. -/
  | collect (bindings : List (String × ParamValue))

namespace ParamStep

/-- The parameters after a step. -/
def next (params : Params) : ParamStep → Params
  | insert name value => (params.replace name value).2
  | extend name value => params.extend name value
  | collect bindings => .ofList bindings

/-- The bindings that were made since the set is the one that it is. -/
def bound (earlier : List (String × ParamValue)) : ParamStep → List (String × ParamValue)
  | insert name value | extend name value => earlier ++ [(name, value)]
  | collect bindings => bindings

/-- A step makes the bindings of a set with the ones that it makes itself. -/
theorem next_ofList (step : ParamStep) (earlier : List (String × ParamValue)) :
    step.next (.ofList earlier) = .ofList (step.bound earlier) := by
  cases step with
  | insert name value => rw [bound, NameMap.ofList_concat, next, NameMap.replace_eq]
  | extend name value =>
    rw [bound, NameMap.ofList_concat, next, Params.extend, NameMap.replace_eq]
  | collect bindings => rfl

/-- The last value of a name in a number of steps. -/
def lastValue (steps : List ParamStep) (name : String) : Option ParamValue :=
  NameMap.lastValue (steps.foldl bound []) name

end ParamStep

namespace Params

/-- The parameters that are made by a number of steps. -/
def after (steps : List ParamStep) : Params := steps.foldl ParamStep.next .empty

/-- Parameters are collected from the bindings that count. -/
theorem after_eq (steps : List ParamStep) :
    after steps = .ofList (steps.foldl ParamStep.bound []) := by
  induction steps using List.reverseRecOn with
  | nil => rfl
  | append_singleton earlier step ih =>
    rw [after, List.foldl_append, List.foldl_append]
    exact (congrArg step.next ih).trans (step.next_ofList _)

/-- Parameters have the last value of every name. -/
theorem get?_after (steps : List ParamStep) (name : String) :
    (after steps).get? name = ParamStep.lastValue steps name := by
  rw [after_eq, NameMap.get?_ofList, ParamStep.lastValue]

/-- They are equal if all names have the same last values. -/
theorem after_eq_iff {steps steps' : List ParamStep} :
    after steps = after steps' ↔
      ∀ name, ParamStep.lastValue steps name = ParamStep.lastValue steps' name := by
  refine ⟨fun h name => ?_, fun h => NameMap.eq_of_get? fun name => ?_⟩
  · rw [← get?_after, ← get?_after, h]
  · rw [get?_after, get?_after, h]

/-- Another step that binds a name gives the value that the name had. -/
theorem replace_after (steps : List ParamStep) (name : String) (value : ParamValue) :
    (after steps).replace name value =
      (ParamStep.lastValue steps name, after (steps ++ [.insert name value])) := by
  have hafter : after (steps ++ [.insert name value]) = ((after steps).replace name value).2 :=
    List.foldl_append
  rw [hafter, NameMap.replace_eq, get?_after]

end Params

/-! ### Requests -/

variable {Fn σ : Type}

/-- Whatever was called before and is called in between, what was made for a request with one key is
found by a request with another. It counts as a hit, and the backend does nothing. -/
structure Backend.Shares (backend : Backend Fn σ) (world : World σ) (key key' : RenderKey) :
    Prop where
  rendering : ∀ (earlier later : List (Call σ)) (rendered : RenderedKernel),
    (Session.renderSlot.request key
        (Session.ofBackend (backend.render key.name key.module key.params))
        (History.after backend world earlier).session).1 = .ok rendered →
      let s := (History.after backend world
        (earlier ++ .function key.name key.module key.params :: later)).session
      Session.renderSlot.request key'
          (Session.ofBackend (backend.render key'.name key'.module key'.params)) s =
        (.ok rendered, { s with provider :=
          { s.provider with renders := s.provider.renders.countHit } })
  function : ∀ (earlier later : List (Call σ)) (result : Fn × Contract),
    (backend.function key.name key.module key.params
        (History.after backend world earlier).session).1 = .ok result →
      let s := (History.after backend world
        (earlier ++ .function key.name key.module key.params :: later)).session
      backend.function key'.name key'.module key'.params s =
        (.ok result, { s with provider :=
          { s.provider with
            renders := s.provider.renders.countHit, builds := s.provider.builds.countHit } })

/-- A key shares its entries with itself. -/
theorem Backend.shares_self (backend : Backend Fn σ) (world : World σ) (key : RenderKey) :
    backend.Shares world key key where
  rendering _ later _ h :=
    Session.renderSlot.request_of_hit (History.rendered_later h later)
  function _ later _ h := (History.has_later h later).function_apply backend

namespace Params

open ParamStep

/-- Parameters are decided by the last value of each name: they have these values, list the names that
have one in strictly ascending order, and are equal exactly if all of them are the same. Requests with
such parameters find what was rendered and built for each other. A step that binds a name gives its
last value so far. The comparison of parameters is a total order in which only equal ones are equal. -/
theorem after_canonical (backend : Backend Fn σ) (world : World σ) :
    (∀ steps, (∀ name, (after steps).get? name = lastValue steps name) ∧
      (after steps).keys.Pairwise (· < ·) ∧
      ∀ name, name ∈ (after steps).keys ↔ (lastValue steps name).isSome) ∧
    (∀ steps steps', after steps = after steps' ↔
      ∀ name, lastValue steps name = lastValue steps' name) ∧
    (∀ steps steps', (∀ name, lastValue steps name = lastValue steps' name) →
      (after steps).entries = (after steps').entries ∧
      ∀ name module, RenderKey.mk name module (after steps) = ⟨name, module, after steps'⟩ ∧
        backend.Shares world ⟨name, module, after steps⟩ ⟨name, module, after steps'⟩) ∧
    (∀ steps name value, (after steps).replace name value =
      (lastValue steps name, after (steps ++ [.insert name value]))) ∧
    ∀ a b c : Params, b.compare a = (a.compare b).swap ∧
      ((a.compare b).isLE → (b.compare c).isLE → (a.compare c).isLE) ∧
      (a.compare b = .eq ↔ ∀ name, a.get? name = b.get? name) := by
  refine ⟨fun steps => ⟨get?_after steps, NameMap.keys_ascending _, fun name => ?_⟩,
    fun steps steps' => after_eq_iff, fun steps steps' h => ?_, replace_after,
    fun a b c => ⟨Std.OrientedCmp.eq_swap, Std.TransCmp.isLE_trans, compare_eq_iff⟩⟩
  · rw [NameMap.mem_keys_iff, get?_after]
  · rw [after_eq_iff.mpr h]
    exact ⟨rfl, fun name module => ⟨rfl, backend.shares_self world _⟩⟩

/-! ### A binding that is overwritten -/

/-- A backend that renders how many parameters there are, and builds what it rendered. -/
def sizeBackend : Backend String Unit where
  render _ _ params := pure ⟨toString params.size, .ofArguments 1 []⟩
  build _ source _ := pure source
  launch _ _ _ := pure ()

/-- One of two names is bound twice. -/
def overwritten : List ParamStep :=
  [.insert "n" (.int 2), .extend floatTypeName (.elementType .float64), .insert "n" (.int 3)]

/-- The last bindings are collected in another order. -/
def collected : List ParamStep :=
  [.collect [(floatTypeName, .elementType .float64), ("n", .int 3)]]

/-- Both ways give the same last values. -/
theorem lastValue_overwritten (name : String) :
    lastValue overwritten name = lastValue collected name := by
  by_cases hn : "n" = name
  · subst hn
    rfl
  by_cases hfloat : floatTypeName = name
  · subst hfloat
    rfl
  simp [lastValue, overwritten, collected, bound, NameMap.lastValue, hn, hfloat]

/-- What is built for the first set is found for the second one. -/
theorem overwritten_canonical :
    (after overwritten).entries = (after collected).entries ∧
      (after overwritten).compare (after collected) = .eq ∧
      ∃ s : Session String Unit, s.provider.builds.hits = 1 ∧
        sizeBackend.function "name" "module" (after collected)
          (History.after sizeBackend ⟨.empty, ()⟩
            [.function "name" "module" (after overwritten)]).session =
          (.ok ("2", .ofArguments 1 []), s) := by
  obtain ⟨hvalues, -, hsame, -, horder⟩ := after_canonical sizeBackend ⟨.empty, ()⟩
  obtain ⟨hentries, hrequests⟩ := hsame overwritten collected lastValue_overwritten
  have hfound := (hrequests "name" "module").2.function [] [] ("2", .ofArguments 1 []) rfl
  refine ⟨hentries, (horder _ _ (after collected)).2.2.mpr fun name => ?_, _, rfl, hfound⟩
  rw [(hvalues _).1, (hvalues _).1, lastValue_overwritten]

end Params

end KernelForge
