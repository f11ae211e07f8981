import KernelForge.Proofs.Provider.Keeps

/-!
# Nested requests and a memoising evaluator

A builder makes requests on the cache that it builds for, and may go on after each whatever its
answer was. What all of these requests give, and the cache after each of them, is told by an
evaluator that knows no more than the values so far and the keys that are being built.
-/

namespace KernelForge

variable {K V : Type}

/-- What a builder does: it ends with an outcome, or it requests a key, giving a builder for it, and
goes on by the answer. -/
inductive Builder (K V : Type) where
  | ends (outcome : Except KernelError V)
  | requests (key : K) (own : Builder K V) (next : Except KernelError V → Builder K V)

/-! ### The evaluator -/

/-- The answer of the evaluator to a request: whether the value was there before, and the values and
the keys that are being built afterwards. -/
structure Answer (K V : Type) where
  key : K
  outcome : Except KernelError V
  hit : Bool
  values : List (K × V)
  stack : List K

/-- The key and value that a request added, if it did. -/
def Answer.added? (answer : Answer K V) : Option (K × V) :=
  match answer.hit, answer.outcome with
  | false, .ok value => some (answer.key, value)
  | _, _ => none

/-- What an evaluation comes to: its outcome, the values, and the answers on the way. -/
structure Evaluation (K V : Type) where
  outcome : Except KernelError V
  values : List (K × V)
  answers : List (Answer K V)

namespace Builder

variable [DecidableEq K]

/-- Evaluates a request for a key, given the evaluation of its builder. -/
def answer (name : String) (key : K) (run : List (K × V) → List K → Evaluation K V)
    (values : List (K × V)) (stack : List K) : Evaluation K V :=
  match values.lookup key with
  | some value => ⟨.ok value, values, [⟨key, .ok value, true, values, stack⟩]⟩
  | none =>
      if key ∈ stack then
        let refusal : Except KernelError V := .error (.reentrantBuild name)
        ⟨refusal, values, [⟨key, refusal, false, values, stack⟩]⟩
      else
        let built := run values (key :: stack)
        let values := match built.outcome with
          | .ok value => (key, value) :: built.values
          | .error _ => built.values
        ⟨built.outcome, values, built.answers ++ [⟨key, built.outcome, false, values, stack⟩]⟩

/-- Evaluates a builder, knowing the values so far and the keys that are being built. -/
def evaluate (name : String) : Builder K V → List (K × V) → List K → Evaluation K V
  | ends outcome, values, _ => ⟨outcome, values, []⟩
  | requests key own next, values, stack =>
      let first := answer name key (own.evaluate name) values stack
      let rest := (next first.outcome).evaluate name first.values stack
      ⟨rest.outcome, rest.values, first.answers ++ rest.answers⟩

end Builder

/-! ### Requests on the cache -/

/-- A request that ended, and the cache that it left. -/
structure Sight (K V : Type) where
  key : K
  outcome : Except KernelError V
  cache : BuildCache K V

/-- A cache, and what was seen of it after every request. -/
structure Watched (K V : Type) where
  cache : BuildCache K V
  seen : List (Sight K V)

namespace Watched

/-- The slot of the cache. -/
def slot : CacheSlot (Watched K V) K V := ⟨cache, fun cache w => { w with cache := cache }⟩

/-- Looks at the cache after a request. -/
def see (w : Watched K V) (key : K) (outcome : Except KernelError V) : Watched K V :=
  { w with seen := w.seen ++ [⟨key, outcome, w.cache⟩] }

/-- Requests a key and looks at the cache afterwards, however the request ended. -/
def request [DecidableEq K] (key : K) (build : ExceptT KernelError (StateM (Watched K V)) V) :
    ExceptT KernelError (StateM (Watched K V)) V := fun w =>
  let (outcome, w) := slot.request key build w
  (outcome, w.see key outcome)

end Watched

/-- Makes the requests of a builder. -/
def Builder.work [DecidableEq K] : Builder K V → ExceptT KernelError (StateM (Watched K V)) V
  | ends outcome => fun w => (outcome, w)
  | requests key own next => fun w =>
      let (outcome, w) := Watched.request key own.work w
      (next outcome).work w

/-! ### What is seen -/

/-- How many of the answers found a value. -/
def Answer.hits (answers : List (Answer K V)) : Nat := answers.countP (·.hit)

/-- The cache of a name that an evaluator with values and a stack stands for. -/
def BuildCache.ofEvaluator (name : String) (values : List (K × V)) (stack : List K) (hits : Nat) :
    BuildCache K V :=
  ⟨name, values, stack, stack, hits, values.length⟩

/-- What the answers of the evaluator look like from outside, after so many hits before. -/
def Answer.sights (name : String) : Nat → List (Answer K V) → List (Sight K V)
  | _, [] => []
  | hits, answer :: rest =>
      let hits := hits + answer.hit.toNat
      ⟨answer.key, answer.outcome, .ofEvaluator name answer.values answer.stack hits⟩ ::
        sights name hits rest

/-- Answers are seen one after the other, with the hits of the earlier ones counted. -/
theorem Answer.sights_append (name : String) (hits : Nat) (answers rest : List (Answer K V)) :
    sights name hits (answers ++ rest) =
      sights name hits answers ++ sights name (hits + Answer.hits answers) rest := by
  induction answers generalizing hits with
  | nil => rfl
  | cons answer answers ih =>
    have hcount : hits + Answer.hits (answer :: answers) =
        hits + answer.hit.toNat + Answer.hits answers := by
      rw [Answer.hits, List.countP_cons, Answer.hits]
      cases answer.hit with
      | false => simp
      | true =>
        simp
        omega
    rw [List.cons_append, sights, sights, ih, List.cons_append, hcount]

/-- What an evaluation leaves of a cache that is watched. -/
def Evaluation.shown (e : Evaluation K V) (name : String) (stack : List K) (hits : Nat)
    (seen : List (Sight K V)) : Except KernelError V × Watched K V :=
  (e.outcome, ⟨.ofEvaluator name e.values stack (hits + Answer.hits e.answers),
    seen ++ Answer.sights name hits e.answers⟩)

section Requests

variable [DecidableEq K] {name : String} {key : K} {values : List (K × V)} {stack : List K}
  {hits : Nat} {seen : List (Sight K V)}

/-- A build that is over leaves its key. -/
theorem BuildCache.close_ofEvaluator (outcome : Except KernelError V) :
    (ofEvaluator name values (key :: stack) hits).close key outcome =
      ofEvaluator name
        (match outcome with | .ok value => (key, value) :: values | .error _ => values) stack hits := by
  cases outcome <;> simp [close, keep, leave, ofEvaluator]

/-- A request is answered as by the evaluator, if its builder works as it is evaluated. -/
theorem Watched.request_eq {own : Builder K V}
    (hown : own.work ⟨.ofEvaluator name values (key :: stack) hits, seen⟩ =
      (own.evaluate name values (key :: stack)).shown name (key :: stack) hits seen) :
    request key own.work ⟨.ofEvaluator name values stack hits, seen⟩ =
      (Builder.answer name key (own.evaluate name) values stack).shown name stack hits seen := by
  have hget : (slot.get ⟨.ofEvaluator name values stack hits, seen⟩).get? key =
      values.lookup key := rfl
  unfold request Builder.answer
  cases hvalue : values.lookup key with
  | some value =>
    rw [slot.request_of_hit (hget.trans hvalue)]
    rfl
  | none =>
    by_cases hmarked : key ∈ stack
    · rw [slot.request_of_marked (hget.trans hvalue) hmarked, if_pos hmarked]
      rfl
    · have henter : slot.modify (·.enter key) ⟨.ofEvaluator name values stack hits, seen⟩ =
          ⟨.ofEvaluator name values (key :: stack) hits, seen⟩ := rfl
      rw [slot.request_of_absent (hget.trans hvalue) hmarked, if_neg hmarked, henter, hown]
      simp only [Evaluation.shown, see, slot, CacheSlot.modify, BuildCache.close_ofEvaluator,
        Answer.sights_append, Answer.sights, Answer.hits, List.countP_append]
      simp

/-- A builder works as it is evaluated. -/
theorem Builder.work_eq (b : Builder K V) (values : List (K × V)) (stack : List K) (hits : Nat)
    (seen : List (Sight K V)) :
    b.work ⟨.ofEvaluator name values stack hits, seen⟩ =
      (b.evaluate name values stack).shown name stack hits seen := by
  induction b generalizing values stack hits seen with
  | ends outcome => simp [work, evaluate, Evaluation.shown, Answer.hits, Answer.sights]
  | requests key own next ihOwn ihNext =>
    have hrequest := Watched.request_eq (ihOwn values (key :: stack) hits seen)
    simp only [work, evaluate, hrequest, Evaluation.shown, ihNext, Answer.sights_append]
    simp [Answer.hits, Nat.add_assoc]

end Requests

/-! ### What the values are -/

namespace Answer

/-- What a list of answers added, the last first. -/
def added (answers : List (Answer K V)) : List (K × V) := (answers.filterMap added?).reverse

/-- What later answers added comes before what earlier ones did. -/
theorem added_append (answers rest : List (Answer K V)) :
    added (answers ++ rest) = added rest ++ added answers := by
  rw [added, List.filterMap_append, List.reverse_append]
  rfl

/-- From values on, answers tell at every point what was added so far, and lead to other values. -/
structure Grow (values : List (K × V)) (answers : List (Answer K V)) (values' : List (K × V)) :
    Prop where
  values_eq : values' = added answers ++ values
  each : ∀ i answer, answers[i]? = some answer →
    answer.values = added (answers.take (i + 1)) ++ values

namespace Grow

variable {values values' values'' : List (K × V)} {answers rest : List (Answer K V)}

/-- No answers add nothing. -/
theorem nil (values : List (K × V)) : Grow values [] values := by
  refine ⟨rfl, fun i a ha => ?_⟩
  rw [List.getElem?_nil] at ha
  cases ha

/-- One answer adds what it says. -/
theorem single {answer : Answer K V} (h : answer.values = added [answer] ++ values) :
    Grow values [answer] answer.values := by
  refine ⟨h, fun i a ha => ?_⟩
  cases i with
  | zero =>
    cases ha
    exact h
  | succ i => cases ha

/-- Answers after answers add to what these added. -/
theorem append (h : Grow values answers values') (h' : Grow values' rest values'') :
    Grow values (answers ++ rest) values'' := by
  refine ⟨?_, fun i a ha => ?_⟩
  · rw [h'.values_eq, h.values_eq, added_append, List.append_assoc]
  · rcases Nat.lt_or_ge i answers.length with hi | hi
    · rw [List.getElem?_append_left hi] at ha
      rw [List.take_append_of_le_length hi]
      exact h.each i a ha
    · rw [List.getElem?_append_right hi] at ha
      have htake : (answers ++ rest).take (i + 1) =
          answers ++ rest.take (i - answers.length + 1) := by
        rw [List.take_append, List.take_of_length_le (by omega)]
        congr 2
        omega
      rw [htake, added_append, List.append_assoc, ← h.values_eq]
      exact h'.each _ a ha

end Grow

end Answer

namespace Builder

variable [DecidableEq K] {name : String} {key : K}

/-- A request adds what its builder added, and its own value if it was built. -/
theorem grow_answer {own : Builder K V} {values : List (K × V)} {stack : List K}
    (hown : Answer.Grow values (own.evaluate name values (key :: stack)).answers
      (own.evaluate name values (key :: stack)).values) :
    Answer.Grow values (answer name key (own.evaluate name) values stack).answers
      (answer name key (own.evaluate name) values stack).values := by
  unfold answer
  split
  · exact .single rfl
  · split
    · exact .single rfl
    · refine hown.append (.single ?_)
      cases (own.evaluate name values (key :: stack)).outcome <;> rfl

/-- The values are those before and what the answers added. -/
theorem grow_evaluate (b : Builder K V) (values : List (K × V)) (stack : List K) :
    Answer.Grow values (b.evaluate name values stack).answers
      (b.evaluate name values stack).values := by
  induction b generalizing values stack with
  | ends outcome => exact .nil values
  | requests key own next ihOwn ihNext =>
    exact (grow_answer (ihOwn values (key :: stack))).append (ihNext _ _ stack)

/-- Every key has at most one value, and no key that is being built has one. -/
structure Distinct (values : List (K × V)) (stack : List K) : Prop where
  nodup : (values.map Prod.fst).Nodup
  absent : ∀ key ∈ stack, key ∉ values.map Prod.fst

/-- An answer gives a key its value only if it has none. -/
theorem distinct_answer {own : Builder K V} {values : List (K × V)} {stack : List K}
    (h : Distinct values stack)
    (hown : Distinct values (key :: stack) →
      Distinct (own.evaluate name values (key :: stack)).values (key :: stack) ∧
        ∀ a ∈ (own.evaluate name values (key :: stack)).answers, (a.values.map Prod.fst).Nodup) :
    Distinct (answer name key (own.evaluate name) values stack).values stack ∧
      ∀ a ∈ (answer name key (own.evaluate name) values stack).answers,
        (a.values.map Prod.fst).Nodup := by
  unfold answer
  split
  · refine ⟨h, fun a ha => ?_⟩
    rw [List.mem_singleton.mp ha]
    exact h.nodup
  · next hvalue =>
    split
    · refine ⟨h, fun a ha => ?_⟩
      rw [List.mem_singleton.mp ha]
      exact h.nodup
    · next hstack =>
      have hkey : key ∉ values.map Prod.fst := by
        intro hmem
        obtain ⟨e, he, rfl⟩ := List.mem_map.mp hmem
        simpa using List.lookup_eq_none_iff.mp hvalue e he
      obtain ⟨hbuilt, hanswers⟩ := hown ⟨h.nodup, List.forall_mem_cons.mpr ⟨hkey, h.absent⟩⟩
      obtain ⟨habsent, hrest⟩ := List.forall_mem_cons.mp hbuilt.absent
      have hafter : Distinct (match (own.evaluate name values (key :: stack)).outcome with
          | .ok value => (key, value) :: (own.evaluate name values (key :: stack)).values
          | .error _ => (own.evaluate name values (key :: stack)).values) stack := by
        split
        · refine ⟨List.nodup_cons.mpr ⟨habsent, hbuilt.nodup⟩, fun k hk hmem => ?_⟩
          rcases List.mem_cons.mp hmem with rfl | hmem
          · exact hstack hk
          · exact hrest k hk hmem
        · exact ⟨hbuilt.nodup, hrest⟩
      refine ⟨hafter, fun a ha => ?_⟩
      rcases List.mem_append.mp ha with ha | ha
      · exact hanswers a ha
      · rw [List.mem_singleton.mp ha]
        exact hafter.nodup

/-- No key gets a second value. -/
theorem distinct_evaluate (b : Builder K V) {values : List (K × V)} {stack : List K}
    (h : Distinct values stack) :
    Distinct (b.evaluate name values stack).values stack ∧
      ∀ a ∈ (b.evaluate name values stack).answers, (a.values.map Prod.fst).Nodup := by
  induction b generalizing values stack with
  | ends outcome => exact ⟨h, fun _ ha => absurd ha List.not_mem_nil⟩
  | requests key own next ihOwn ihNext =>
    obtain ⟨hfirst, hanswers⟩ := distinct_answer h ihOwn
    obtain ⟨hrest, hanswers'⟩ := ihNext _ hfirst
    refine ⟨hrest, fun a ha => ?_⟩
    rcases List.mem_append.mp ha with ha | ha
    · exact hanswers a ha
    · exact hanswers' a ha

end Builder

/-! ### What is seen after every request -/

/-- What is seen of a cache after some answers, of which the last is the given one: its values are
what was added so far, as many as there were builds, and there is a gate for every key that is being
built. -/
structure Sight.Shows (sight : Sight K V) [DecidableEq K] (answer : Answer K V)
    (answers : List (Answer K V)) : Prop where
  key_eq : sight.key = answer.key
  outcome_eq : sight.outcome = answer.outcome
  get?_eq : ∀ key, sight.cache.get? key = answer.values.lookup key
  values_eq : answer.values = Answer.added answers
  nodup : (answer.values.map Prod.fst).Nodup
  size_eq : sight.cache.size = answer.values.length
  builds_eq : sight.cache.builds = sight.cache.size
  pending_eq : sight.cache.pending = answer.stack.length
  hits_eq : sight.cache.hits = Answer.hits answers

namespace Answer

/-- Each answer is seen once. -/
theorem length_sights (name : String) (hits : Nat) (answers : List (Answer K V)) :
    (sights name hits answers).length = answers.length := by
  induction answers generalizing hits with
  | nil => rfl
  | cons answer rest ih => rw [sights, List.length_cons, ih, List.length_cons]

/-- It is seen with the values and the hits of its time. -/
theorem getElem?_sights (name : String) (hits : Nat) (answers : List (Answer K V)) (i : Nat) :
    (sights name hits answers)[i]? = answers[i]?.map fun answer =>
      ⟨answer.key, answer.outcome, .ofEvaluator name answer.values answer.stack
        (hits + Answer.hits (answers.take (i + 1)))⟩ := by
  induction answers generalizing hits i with
  | nil => rfl
  | cons answer rest ih =>
    cases i with
    | zero =>
      cases hhit : answer.hit <;>
        simp [sights, Answer.hits, hhit]
    | succ i =>
      rw [sights, List.getElem?_cons_succ, List.getElem?_cons_succ, ih]
      cases hhit : answer.hit <;>
        simp [Answer.hits, hhit, Nat.add_assoc, Nat.add_comm 1]

end Answer

/-- After every request, what is seen of the cache is what the evaluator tells. -/
theorem Builder.work_shows [DecidableEq K] (b : Builder K V) (name : String) {i : Nat}
    {sight : Sight K V} (hsight : (b.work ⟨.empty name, []⟩).2.seen[i]? = some sight)
    {answer : Answer K V} (hanswer : (b.evaluate name [] []).answers[i]? = some answer) :
    sight.Shows answer ((b.evaluate name [] []).answers.take (i + 1)) := by
  have hwork : b.work ⟨.empty name, []⟩ = (b.evaluate name [] []).shown name [] 0 [] :=
    b.work_eq [] [] 0 []
  rw [hwork, Evaluation.shown, List.nil_append, Answer.getElem?_sights, hanswer, Option.map_some,
    Nat.zero_add] at hsight
  cases hsight
  have hvalues := (b.grow_evaluate [] []).each i answer hanswer
  have hstart : Distinct ([] : List (K × V)) [] := ⟨List.nodup_nil, nofun⟩
  have hnodup := (b.distinct_evaluate hstart).2 answer (List.mem_of_getElem? hanswer)
  rw [List.append_nil] at hvalues
  exact ⟨rfl, rfl, fun _ => rfl, hvalues, hnodup, rfl, rfl, rfl, rfl⟩

end KernelForge
