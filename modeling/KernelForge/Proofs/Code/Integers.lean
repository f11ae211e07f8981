import KernelForge.Proofs.Code.Calling

/-!
# Integers that code computes

A run gives one value, but computes many on the way to it. Which integers these are is read off the
tree: the values of all expressions that are evaluated, in the states in which they are evaluated,
with those of loops in all turns. On a machine with exact integers they are what mathematics gives,
so code is free of overflow exactly if all of them are values of the type that source has for them.
-/

namespace KernelForge.Code

variable {M : Machine}

/-! ### What is computed -/

/-- A run succeeds, and its result and the state after it have a property. -/
def After {α : Type} (run : Run M α) (s : RunState M) (p : α → RunState M → Prop) : Prop :=
  ∃ a s', run s = .ok (a, s') ∧ p a s'

/-- What holds after a run that ends is what holds where it ends. -/
theorem after_iff {α : Type} {run : Run M α} {s s' : RunState M} {a : α}
    {p : α → RunState M → Prop} (h : run s = .ok (a, s')) : After run s p ↔ p a s' := by
  constructor
  · rintro ⟨a', s'', hrun, hp⟩
    cases h.symm.trans hrun
    exact hp
  · intro hp
    exact ⟨a, s', h, hp⟩

/-- A value is an integer. -/
def Value.IsInt (n : Int) (v : Value M.Real) : Prop := ∃ kind, v = .int kind n

/-- A run gives an integer. -/
def GivesInt (run : Run M (Value M.Real)) (s : RunState M) (n : Int) : Prop :=
  After run s fun v _ => v.IsInt n

mutual

/-- An integer is computed when an expression is evaluated: it is the value of the expression, or of
one that is evaluated for it. What called code computes is not counted. -/
@[simp] def Expr.Computes (ctx : Context M) (n : Int) : Expr → RunState M → Prop
  | .intLit value kind, s => GivesInt ((Expr.intLit value kind).eval ctx) s n
  | .floatLit .., _ => False
  | .var name, s => GivesInt ((Expr.var name).eval ctx) s n
  | .paren inner, s => inner.Computes ctx n s
  | .unary op operand, s =>
      operand.Computes ctx n s ∨ GivesInt ((Expr.unary op operand).eval ctx) s n
  | .deref pointer, s => pointer.Computes ctx n s ∨ GivesInt (pointer.deref.eval ctx) s n
  | .addressOf place, s => place.PlaceComputes ctx n s
  | .index pointer offset, s =>
      pointer.Computes ctx n s ∨
        After (pointer.eval ctx) s (fun _ s => offset.Computes ctx n s) ∨
        GivesInt ((pointer.index offset).eval ctx) s n
  | .binary op left right, s =>
      left.Computes ctx n s ∨ After (left.eval ctx) s (fun _ s => right.Computes ctx n s) ∨
        GivesInt ((Expr.binary op left right).eval ctx) s n
  | .logic op left right, s =>
      left.Computes ctx n s ∨
        After (left.eval ctx) s (fun v s =>
          v.truth = .ok (decide (op = .and)) ∧ right.Computes ctx n s) ∨
        GivesInt ((Expr.logic op left right).eval ctx) s n
  | .cond test yes no, s =>
      test.Computes ctx n s ∨
        After (test.eval ctx) s fun v s =>
          (v.truth = .ok true ∧ yes.Computes ctx n s) ∨
            (v.truth = .ok false ∧ no.Computes ctx n s)
  | .assign place value, s =>
      place.PlaceComputes ctx n s ∨
        After (place.place ctx) s (fun _ s => value.Computes ctx n s) ∨
        GivesInt ((place.assign value).eval ctx) s n
  | .update op place value, s =>
      place.PlaceComputes ctx n s ∨
        After (place.place ctx) s (fun target s =>
          value.Computes ctx n s ∨
            After (value.eval ctx) s fun _ s => GivesInt (readPlace target) s n) ∨
        GivesInt ((Expr.update op place value).eval ctx) s n
  | .count up _ place, s =>
      place.PlaceComputes ctx n s ∨
        After (place.place ctx) s fun target s =>
          GivesInt (countPlace up true target) s n ∨ GivesInt (countPlace up false target) s n
  | .cast type operand, s =>
      operand.Computes ctx n s ∨ GivesInt ((Expr.cast type operand).eval ctx) s n
  | .call callee args, s =>
      callee.Computes ctx n s ∨
        After (callee.eval ctx) s (fun _ s => Expr.SomeComputes ctx n args s) ∨
        GivesInt ((callee.call args).eval ctx) s n
  | .comma first second, s =>
      first.Computes ctx n s ∨ After (first.eval ctx) s fun _ s => second.Computes ctx n s
  | .sizeOf type, s => GivesInt ((Expr.sizeOf type).eval ctx) s n

/-- An integer is computed when the object is found that an expression denotes. -/
@[simp] def Expr.PlaceComputes (ctx : Context M) (n : Int) : Expr → RunState M → Prop
  | .paren inner, s => inner.PlaceComputes ctx n s
  | .deref pointer, s => pointer.Computes ctx n s
  | .index pointer offset, s =>
      pointer.Computes ctx n s ∨ After (pointer.eval ctx) s fun _ s => offset.Computes ctx n s
  | _, _ => False

/-- An integer is computed when expressions are evaluated, from the first to the last. -/
@[simp] def Expr.SomeComputes (ctx : Context M) (n : Int) : List Expr → RunState M → Prop
  | [], _ => False
  | e :: rest, s =>
      e.Computes ctx n s ∨ After (e.eval ctx) s fun _ s => Expr.SomeComputes ctx n rest s

end

/-- An integer is computed when a variable is declared. -/
def Variable.Computes (ctx : Context M) (n : Int) (v : Variable) (s : RunState M) : Prop :=
  ∃ e, v.init = some e ∧ (e.Computes ctx n s ∨
    After (e.eval ctx) s fun value _ => ∃ kind, value.convert v.type = .ok (.int kind n))

/-- A step that was repeated so many times and gave no result. -/
def Repeats {α : Type} (step : Run M (Option α)) : Nat → RunState M → RunState M → Prop
  | 0, s, s' => s' = s
  | k + 1, s, s' => After step s fun result s₁ => result.isNone ∧ Repeats step k s₁ s'

/-- An integer is computed in a turn of a loop: by its test, by its body, or by its step. -/
def LoopComputes (ctx : Context M) (n : Int) (test step : Option Expr) (body : Stmt)
    (inBody : RunState M → Prop) (s : RunState M) : Prop :=
  ∃ k < ctx.limit, ∃ s₁, Repeats (Stmt.turn test step body ctx) k s s₁ ∧
    ((∃ e, test = some e ∧ e.Computes ctx n s₁) ∨
      After (testHolds test ctx) s₁ fun holds s₂ => holds = true ∧
        (inBody s₂ ∨
          After (inScope (body.exec ctx)) s₂ fun flow s₃ => flow.afterBody.isNone ∧
            ∃ e, step = some e ∧ e.Computes ctx n s₃))

/-- What a loop does each time that tests after its body. -/
def Stmt.lateTurn (body : Stmt) (test : Expr) (ctx : Context M) : Run M (Option (Flow M)) := do
  match (← inScope (body.exec ctx)).afterBody with
  | some flow => return some flow
  | none => if ← (← test.eval ctx).truth then return none else return some .next

mutual

/-- An integer is computed when a statement is run. -/
@[simp] def Stmt.Computes (ctx : Context M) (n : Int) : Stmt → RunState M → Prop
  | .empty, _ => False
  | .expr e, s => e.Computes ctx n s
  | .declare vars, s => ∃ before v after, vars = before ++ v :: after ∧
      After (before.forM (declareVariable ctx)) s fun _ s => v.Computes ctx n s
  | .block body, s => Stmt.SomeComputes ctx n body s
  | .ifElse test yes no, s =>
      test.Computes ctx n s ∨
        After (test.eval ctx) s fun v s =>
          (v.truth = .ok true ∧ yes.Computes ctx n s) ∨
            (v.truth = .ok false ∧ no.Computes ctx n s)
  | .while test body, s =>
      LoopComputes ctx n (some test) none body (fun s => body.Computes ctx n s) s
  | .doWhile body test, s => ∃ k < ctx.limit, ∃ s₁, Repeats (body.lateTurn test ctx) k s s₁ ∧
      (body.Computes ctx n s₁ ∨
        After (inScope (body.exec ctx)) s₁ fun flow s => flow.afterBody.isNone ∧
          test.Computes ctx n s)
  | .for init test step body, s =>
      init.Computes ctx n s ∨
        After (init.exec ctx) s fun _ s =>
          LoopComputes ctx n test step body (fun s => body.Computes ctx n s) s
  | .return value, s => ∃ e, value = some e ∧ e.Computes ctx n s
  | .break, _ => False
  | .continue, _ => False
  | .parallelFor index bound body, s =>
      bound.Computes ctx n s ∨
        After (bound.eval ctx) s fun v s => ∃ count : Int, v.IsInt count ∧
          ∃ (before : List Nat) (i : Nat) (after : List Nat),
            M.order count.toNat = before ++ i :: after ∧
              After (before.forM (body.iteration ctx index)) s fun _ s =>
                n = i ∨ body.Computes ctx n ⟨s.memory, counter M index i :: s.locals⟩
  | .parallel body, s => ∃ (before : List Nat) (rank : Nat) (after : List Nat),
      M.order M.team = before ++ rank :: after ∧
        After (before.forM (body.onThread ctx)) s fun _ s =>
          body.Computes { ctx with team := ⟨M.team, rank⟩ } n s

/-- An integer is computed when statements are run, until one of them does not end normally. -/
@[simp] def Stmt.SomeComputes (ctx : Context M) (n : Int) : List Stmt → RunState M → Prop
  | [], _ => False
  | statement :: rest, s =>
      statement.Computes ctx n s ∨
        After (statement.exec ctx) s fun flow s =>
          (flow matches .next) ∧ Stmt.SomeComputes ctx n rest s

end

/-- An integer is computed when the body of a function is run on arguments. -/
def Function.Computes (f : Function) (ctx : Context M) (args : List (Value M.Real))
    (s : RunState M) (n : Int) : Prop :=
  After (Program.bindParams f.params args) s fun _ s' =>
    Stmt.SomeComputes { ctx with frame := s.locals.length } n f.body s'

/-! ### Values and lists of integers -/

variable {ctx : Context M} {s s' : RunState M} {n : Int}

/-- An integer is a value of a type. -/
def IntKind.Has (kind : IntKind) (n : Int) : Prop := kind.least ≤ n ∧ n ≤ kind.greatest

/-- The natural numbers that an `int` has. -/
theorem IntKind.int_has_iff {k : Nat} : IntKind.int.Has k ↔ k < twoPow 31 := by
  have hleast : IntKind.int.least = -twoPow 31 := rfl
  have hgreatest : IntKind.int.greatest = twoPow 31 - 1 := rfl
  rw [Has, hleast, hgreatest]
  omega

/-- An integer is only itself. -/
@[simp] theorem Value.isInt_int {kind : IntKind} {m : Int} :
    (Value.int kind m : Value M.Real).IsInt n ↔ n = m := by
  constructor
  · rintro ⟨kind', heq⟩
    cases heq
    rfl
  · rintro rfl
    exact ⟨kind, rfl⟩

/-- Addresses are no integers. -/
@[simp] theorem Value.not_isInt_pointer {type : CType} {location : Location} :
    ¬(Value.pointer type location : Value M.Real).IsInt n := nofun

/-- Neither are floating-point numbers. -/
@[simp] theorem Value.not_isInt_float {kind : FloatKind} {x : M.Real kind} :
    ¬(Value.float kind x : Value M.Real).IsInt n := nofun

/-- An integer is one of some natural numbers. -/
def Listed (ns : List Nat) (n : Int) : Prop := ∃ k ∈ ns, n = (k : Int)

/-- Nothing is on an empty list. -/
@[simp] theorem not_listed_nil : ¬Listed [] n := nofun

/-- A list of one number has that one only. -/
@[simp] theorem listed_singleton {k : Nat} : Listed [k] n ↔ n = k := by
  simp [Listed]

/-- What two lists have together. -/
@[simp] theorem listed_append {ns ns' : List Nat} :
    Listed (ns ++ ns') n ↔ Listed ns n ∨ Listed ns' n := by
  simp only [Listed, List.mem_append, or_and_right, exists_or]

/-- A member of a list is on it as an integer. -/
theorem Listed.of_mem {ns : List Nat} {k : Nat} (h : k ∈ ns) : Listed ns (k : Int) := ⟨k, h, rfl⟩

/-! ### Expressions that leave the state alone -/

/-- An expression has a value and leaves the state as it is, and the integers that are computed for it
are those of a list. -/
structure Expr.Yields (e : Expr) (ctx : Context M) (s : RunState M) (v : Value M.Real)
    (ns : List Nat) : Prop where
  eval_eq : e.eval ctx s = .ok (v, s)
  computes_iff : ∀ n, e.Computes ctx n s ↔ Listed ns n

/-- An expression has a natural number as its value and leaves the state as it is, and the integers
that are computed for it are those of a list. -/
structure Expr.Tallies (e : Expr) (ctx : Context M) (s : RunState M) (value : Nat)
    (ns : List Nat) : Prop where
  counts : e.Counts ctx s value
  computes_iff : ∀ n, e.Computes ctx n s ↔ Listed ns n
  value_mem : value ∈ ns

namespace Expr

variable {e a b pointer offset : Expr} {m k : Nat} {ms ks ns : List Nat}

/-- An expression that counts gives its count. -/
theorem Counts.givesInt_iff {value : Int} (h : e.Counts ctx s value) :
    GivesInt (e.eval ctx) s n ↔ n = value := by
  obtain ⟨kind, h⟩ := h
  exact (after_iff h).trans Value.isInt_int

/-- It leaves the state as it was, so what held before holds after it. -/
theorem Counts.after_iff {value : Int} {p : RunState M → Prop} (h : e.Counts ctx s value) :
    After (e.eval ctx) s (fun _ s => p s) ↔ p s := by
  obtain ⟨kind, h⟩ := h
  exact Code.after_iff h

namespace Tallies

/-- A literal computes its value and no other integer. -/
theorem literal (k : Nat) (kind : IntKind) : (Expr.intLit k kind).Tallies ctx s k [k] where
  counts := .literal k kind
  computes_iff n := by
    rw [Computes, (Counts.literal k kind).givesInt_iff, listed_singleton]
  value_mem := List.mem_singleton_self k

/-- A variable that counts computes its value. -/
theorem var {name : String} (h : (Expr.var name).Counts ctx s k) :
    (Expr.var name).Tallies ctx s k [k] where
  counts := h
  computes_iff n := by rw [Computes, h.givesInt_iff, listed_singleton]
  value_mem := List.mem_singleton_self k

/-- Parentheses compute nothing of their own. -/
theorem paren (h : a.Tallies ctx s k ks) : (Expr.paren a).Tallies ctx s k ks where
  counts := h.counts.paren
  computes_iff n := by rw [Computes, h.computes_iff]
  value_mem := h.value_mem

/-- An operation computes its operands and its result. -/
theorem binary {op : BinaryOp} {r : Nat} (ha : a.Tallies ctx s m ms) (hb : b.Tallies ctx s k ks)
    (h : (Expr.binary op a b).Counts ctx s r) :
    (Expr.binary op a b).Tallies ctx s r (ms ++ ks ++ [r]) where
  counts := h
  computes_iff n := by
    rw [Computes, ha.computes_iff, ha.counts.after_iff, hb.computes_iff, h.givesInt_iff,
      listed_append, listed_append, listed_singleton, or_assoc]
  value_mem := List.mem_append_right _ (List.mem_singleton_self r)

/-- A sum computes what its operands do, and then itself. -/
theorem add (hexact : M.IsExact) (ha : a.Tallies ctx s m ms) (hb : b.Tallies ctx s k ks) :
    (Expr.binary .add a b).Tallies ctx s (m + k) (ms ++ ks ++ [m + k]) :=
  ha.binary hb (Int.natCast_add m k ▸ ha.counts.add hexact hb.counts)

/-- So does a product. -/
theorem mul (hexact : M.IsExact) (ha : a.Tallies ctx s m ms) (hb : b.Tallies ctx s k ks) :
    (Expr.binary .mul a b).Tallies ctx s (m * k) (ms ++ ks ++ [m * k]) :=
  ha.binary hb (Int.natCast_mul m k ▸ ha.counts.mul hexact hb.counts)

/-- So does a difference that is not negative. -/
theorem sub (hexact : M.IsExact) (ha : a.Tallies ctx s m ms) (hb : b.Tallies ctx s k ks)
    (hle : k ≤ m) : (Expr.binary .sub a b).Tallies ctx s (m - k) (ms ++ ks ++ [m - k]) :=
  ha.binary hb (Int.natCast_sub hle ▸
    ha.counts.sub_of_holds (hexact.holds _) (hexact.holds _) hb.counts (hexact.holds _))

/-- So does a quotient. -/
theorem div (hexact : M.IsExact) (ha : a.Tallies ctx s m ms) (hb : b.Tallies ctx s k ks)
    (hpos : 0 < k) : (Expr.binary .div a b).Tallies ctx s (m / k) (ms ++ ks ++ [m / k]) :=
  ha.binary hb (Int.ofNat_tdiv m k ▸
    ha.counts.div_of_holds (hexact.holds _) (hexact.holds _) hb.counts (by omega) (hexact.holds _))

/-- A comparison computes what its operands do, and then a truth value. -/
theorem lt (hexact : M.IsExact) (ha : a.Tallies ctx s m ms) (hb : b.Tallies ctx s k ks) :
    (Expr.binary .lt a b).Tallies ctx s (if m < k then 1 else 0)
      (ms ++ ks ++ [if m < k then 1 else 0]) := by
  have hcast : ((if m < k then 1 else 0 : Nat) : Int) = if (m : Int) < k then 1 else 0 := by
    by_cases hlt : m < k
    · rw [if_pos hlt, if_pos (Int.ofNat_lt.mpr hlt)]
      rfl
    · rw [if_neg hlt, if_neg (mt Int.ofNat_lt.mp hlt)]
      rfl
  exact ha.binary hb (hcast ▸ ha.counts.lt hexact hb.counts)

/-- The lesser one of two numbers. After they were compared it is evaluated once more. -/
theorem smaller (hexact : M.IsExact) (ha : a.Tallies ctx s m ms) (hb : b.Tallies ctx s k ks) :
    (Expr.cond (.binary .lt a b) a b).Tallies ctx s (min m k)
      (ms ++ ks ++ [if m < k then 1 else 0]) := by
  have htest := ha.lt hexact hb
  have hmin : ((min m k : Nat) : Int) = min (m : Int) k := by omega
  have hcounts := ha.counts.smaller (hexact.holds m) (hexact.holds k) hb.counts
  obtain ⟨kind, heval⟩ := htest.counts
  refine ⟨hmin ▸ hcounts, fun n => ?_, ?_⟩
  · rw [Computes, htest.computes_iff, Code.after_iff heval]
    simp only [or_iff_left_iff_imp, listed_append, ha.computes_iff, hb.computes_iff]
    rintro (⟨-, h⟩ | ⟨-, h⟩)
    · exact .inl (.inl h)
    · exact .inl (.inr h)
  · rw [List.mem_append, List.mem_append]
    rcases Nat.le_total m k with hle | hle
    · rw [Nat.min_eq_left hle]
      exact .inl (.inl ha.value_mem)
    · rw [Nat.min_eq_right hle]
      exact .inl (.inr hb.value_mem)

/-- An entry of an array of integers, after the place of the array and the number of the entry. -/
theorem index {v : Value M.Real} {value : Nat} (hpointer : pointer.Yields ctx s v ms)
    (hoffset : offset.Tallies ctx s k ks) (h : (pointer.index offset).Counts ctx s value) :
    (pointer.index offset).Tallies ctx s value (ms ++ ks ++ [value]) where
  counts := h
  computes_iff n := by
    rw [Computes, hpointer.computes_iff, after_iff hpointer.eval_eq, hoffset.computes_iff,
      h.givesInt_iff, listed_append, listed_append, listed_singleton, or_assoc]
  value_mem := List.mem_append_right _ (List.mem_singleton_self value)

/-- What a pointer leads to is computed after the pointer. -/
theorem deref {v : Value M.Real} (hpointer : pointer.Yields ctx s v ms)
    (h : pointer.deref.Counts ctx s k) : pointer.deref.Tallies ctx s k (ms ++ [k]) where
  counts := h
  computes_iff n := by
    rw [Computes, hpointer.computes_iff, h.givesInt_iff, listed_append, listed_singleton]
  value_mem := List.mem_append_right _ (List.mem_singleton_self k)

/-- A call of a function that does nothing but return an integer. -/
theorem call {name : String} {result : CType} {kind : IntKind}
    (hlocal : (s.visible ctx).findIdx? (·.name = name) = none)
    (hglobal : ctx.global name = some (.function result, .function name))
    (hcall : ctx.call (.named name) ctx.team [] s = .ok (.int kind k, s)) :
    (Expr.call (.var name) []).Tallies ctx s k [k] where
  counts := .call hlocal hglobal hcall
  computes_iff n := by
    have hcallee := eval_global hlocal hglobal
    rw [Computes, Computes, GivesInt, after_iff hcallee, after_iff hcallee, SomeComputes,
      (Counts.call hlocal hglobal hcall).givesInt_iff, listed_singleton]
    simp
  value_mem := List.mem_singleton_self k

end Tallies

/-- A variable that holds no integer. -/
theorem Yields.var {name : String} {v : Value M.Real}
    (h : (Expr.var name).eval ctx s = .ok (v, s)) (hv : ∀ n, ¬v.IsInt n) :
    (Expr.var name).Yields ctx s v [] where
  eval_eq := h
  computes_iff n := by
    rw [Computes, GivesInt, after_iff h]
    simpa using hv n

/-- An entry of an array of other things. -/
theorem Yields.index {v w : Value M.Real} (hpointer : pointer.Yields ctx s v ms)
    (hoffset : offset.Tallies ctx s k ks) (h : (pointer.index offset).eval ctx s = .ok (w, s))
    (hw : ∀ n, ¬w.IsInt n) : (pointer.index offset).Yields ctx s w (ms ++ ks) where
  eval_eq := h
  computes_iff n := by
    have hnone : ¬GivesInt ((pointer.index offset).eval ctx) s n := fun hint =>
      hw n ((after_iff h).mp hint)
    rw [Computes, hpointer.computes_iff, after_iff hpointer.eval_eq, hoffset.computes_iff,
      listed_append]
    simp only [hnone, or_false]

end Expr

/-! ### Statements -/

/-- A variable of type `int` begins with the value of an expression. -/
theorem Variable.computes_iff {v : Variable} {e : Expr} {k : Nat} {ks : List Nat}
    (hinit : v.init = some e) (htype : v.type = .int .int) (h : e.Tallies ctx s k ks)
    (hk : M.Holds k) : v.Computes ctx n s ↔ Listed ks n := by
  obtain ⟨kind, heval⟩ := h.counts
  rw [Variable.Computes, hinit, htype]
  simp only [Option.some.injEq, exists_eq_left', h.computes_iff, after_iff heval,
    convert_int_of_holds hk kind, Except.ok.injEq, Value.int.injEq, or_iff_left_iff_imp]
  rintro ⟨-, -, rfl⟩
  exact .of_mem h.value_mem

/-- The integer that is assigned through a pointer to a local variable. -/
theorem Expr.computes_assign_deref {pointer value : Expr} {target v : Value M.Real} {k : Nat}
    {ks : List Nat} (hpointer : pointer.Yields ctx s target [])
    (hplace : ∃ place, pointer.deref.place ctx s = .ok (place, s)) (hvalue : value.Tallies ctx s k ks)
    (h : (pointer.deref.assign value).eval ctx s = .ok (v, s')) (hv : v.IsInt k) :
    (pointer.deref.assign value).Computes ctx n s ↔ Listed ks n := by
  obtain ⟨place, hplace⟩ := hplace
  obtain ⟨kind, rfl⟩ := hv
  rw [Computes, PlaceComputes, hpointer.computes_iff, after_iff hplace, hvalue.computes_iff, GivesInt,
    after_iff h, Value.isInt_int]
  simp only [not_listed_nil, false_or, or_iff_left_iff_imp]
  rintro rfl
  exact .of_mem hvalue.value_mem

/-- The integers that are computed to assign another thing to an entry of an array. -/
theorem Expr.computes_assign_index {pointer offset value : Expr} {v w x : Value M.Real} {k : Nat}
    {ms ks ns : List Nat} (hpointer : pointer.Yields ctx s v ms) (hoffset : offset.Tallies ctx s k ks)
    (hplace : ∃ place, (pointer.index offset).place ctx s = .ok (place, s))
    (hvalue : value.Yields ctx s w ns)
    (h : ((pointer.index offset).assign value).eval ctx s = .ok (x, s')) (hx : ¬x.IsInt n) :
    ((pointer.index offset).assign value).Computes ctx n s ↔ Listed (ms ++ ks ++ ns) n := by
  obtain ⟨place, hplace⟩ := hplace
  have hnone : ¬GivesInt (((pointer.index offset).assign value).eval ctx) s n := fun hint =>
    hx ((after_iff h).mp hint)
  rw [Computes, PlaceComputes, hpointer.computes_iff, after_iff hpointer.eval_eq,
    hoffset.computes_iff, after_iff hplace, hvalue.computes_iff, listed_append, listed_append]
  simp only [hnone, or_false]

namespace Stmt

/-- Statements compute a number if the first one does, or the others after it. -/
theorem someComputes_cons {statement : Stmt} {rest : List Stmt}
    (h : statement.exec ctx s = .ok (.next, s')) :
    SomeComputes ctx n (statement :: rest) s ↔
      statement.Computes ctx n s ∨ SomeComputes ctx n rest s' := by
  rw [SomeComputes, after_iff h]
  simp

/-- No statements compute nothing. -/
theorem not_someComputes_nil : ¬SomeComputes ctx n [] s := by
  simp [SomeComputes]

/-- Variables are declared one after the other. -/
theorem computes_declare_cons {v : Variable} {vars : List Variable}
    (h : declareVariable ctx v s = .ok ((), s')) :
    (Stmt.declare (v :: vars)).Computes ctx n s ↔
      v.Computes ctx n s ∨ (Stmt.declare vars).Computes ctx n s' := by
  have hnone {p : RunState M → Prop} :
      After ([].forM (declareVariable ctx)) s (fun _ s => p s) ↔ p s := after_iff rfl
  have hrest (before : List Variable) :
      (v :: before).forM (declareVariable ctx) s = before.forM (declareVariable ctx) s' :=
    run_bind h
  rw [Computes, Computes]
  constructor
  · rintro ⟨before, w, after, heq, hw⟩
    rcases before with - | ⟨x, before⟩
    · obtain ⟨rfl, rfl⟩ := List.cons.inj heq
      exact .inl (hnone.mp hw)
    · obtain ⟨rfl, rfl⟩ := List.cons.inj heq
      rw [After, hrest] at hw
      exact .inr ⟨before, w, after, rfl, hw⟩
  · rintro (hv | ⟨before, w, after, rfl, hw⟩)
    · exact ⟨[], v, vars, rfl, hnone.mpr hv⟩
    · rw [After, ← hrest] at hw
      exact ⟨v :: before, w, after, rfl, hw⟩

/-- Neither does a declaration without variables. -/
theorem not_computes_declare_nil : ¬(Stmt.declare []).Computes ctx n s := by
  rw [Computes]
  rintro ⟨before, v, after, heq, -⟩
  simp at heq

/-! ### Statements that keep the local variables -/

variable {locals : List (Local M)} {inv : M.Memory → Prop}

/-- From every memory for which an invariant holds, a statement computes the integers that have a
property, all of them and no others. -/
def ComputesExactly (statement : Stmt) (ctx : Context M) (locals : List (Local M))
    (inv : M.Memory → Prop) (p : Int → Prop) : Prop :=
  ∀ memory, inv memory → ∀ n, statement.Computes ctx n ⟨memory, locals⟩ ↔ p n

namespace ComputesExactly

/-- A block of one statement. -/
theorem block {statement : Stmt} {p : Int → Prop} (h : statement.ComputesExactly ctx locals inv p) :
    (Stmt.block [statement]).ComputesExactly ctx locals inv p := by
  intro memory hinv n
  rw [Computes, SomeComputes, h memory hinv]
  simp [After, SomeComputes]

section Counting

variable {index : String} {bound k : Nat} {memory : M.Memory} {body : Stmt}
  {step : Nat → M.Memory → Option M.Memory} (hexact : M.IsExact) (hframe : ctx.frame ≤ locals.length)
  (hbody : ∀ k < bound, body.Performs ctx (counter M index k :: locals) inv (step k))

include hexact hframe hbody

/-- A loop over a counter goes on until the counter reaches the bound. -/
theorem exists_repeats (turns : Nat) (hle : k + turns ≤ bound) (hinv : inv memory) :
    ∃ memory', inv memory' ∧
      Repeats (turn (some (.binary .lt (.var index) (Builtin.intLit bound)))
          (some (.count true true (.var index))) body ctx) turns
        ⟨memory, counter M index k :: locals⟩
        ⟨memory', counter M index (k + turns) :: locals⟩ := by
  induction turns generalizing k memory with
  | zero => exact ⟨memory, hinv, rfl⟩
  | succ turns ih =>
    have hlt : k < bound := by omega
    have hnext : k + 1 + turns ≤ bound := by omega
    obtain ⟨middle, -, hmiddle, hturn⟩ := turn_of_lt hexact hframe hlt (hbody k hlt) hinv
    obtain ⟨memory', hinv', hrepeats⟩ := ih hnext hmiddle
    refine ⟨memory', hinv', (after_iff hturn).mpr ⟨rfl, ?_⟩⟩
    rwa [Nat.add_right_comm, Nat.add_assoc] at hrepeats

/-- All turns of a loop over a counter begin in memories for which the invariant holds, with values of
the counter up to the bound. -/
theorem of_repeats {turns : Nat} {s' : RunState M} (hle : k ≤ bound) (hinv : inv memory)
    (h : Repeats (turn (some (.binary .lt (.var index) (Builtin.intLit bound)))
          (some (.count true true (.var index))) body ctx) turns
        ⟨memory, counter M index k :: locals⟩ s') :
    ∃ j ≤ bound, ∃ memory', inv memory' ∧ s' = ⟨memory', counter M index j :: locals⟩ := by
  induction turns generalizing k memory with
  | zero => exact ⟨k, hle, memory, hinv, h⟩
  | succ turns ih =>
    rcases Nat.lt_or_ge k bound with hlt | hge
    · obtain ⟨middle, -, hmiddle, hturn⟩ := turn_of_lt hexact hframe hlt (hbody k hlt) hinv
      obtain ⟨-, hrest⟩ := (after_iff hturn).mp h
      exact ih hlt hmiddle hrest
    · obtain ⟨hnone, -⟩ := (after_iff (turn_of_le hexact hframe hge)).mp h
      cases hnone

/-- What a turn computes: the counter is compared with the bound and counted up around the body. -/
theorem computes_turn {p : Nat → Int → Prop} (hinv : inv memory)
    (hcomputes : ∀ k < bound, body.ComputesExactly ctx (counter M index k :: locals) inv (p k)) :
    let s : RunState M := ⟨memory, counter M index k :: locals⟩
    let test := Expr.binary .lt (.var index) (Builtin.intLit bound)
    let count := Expr.count true true (.var index)
    (test.Computes ctx n s ∨ After (testHolds (some test) ctx) s fun holds s' => holds = true ∧
        (body.Computes ctx n s' ∨ After (inScope (body.exec ctx)) s' fun flow s' =>
          flow.afterBody.isNone ∧ count.Computes ctx n s')) ↔
      n = k ∨ n = bound ∨ (n = if k < bound then 1 else 0) ∨
        (k < bound ∧ (p k n ∨ n = k + 1)) := by
  intro s test count
  have hcounter : (Expr.var index).Tallies ctx s k [k] :=
    .var ⟨.int, eval_counter hframe⟩
  have htest : test.Tallies ctx s _ _ := hcounter.lt hexact (.literal bound .int)
  rw [htest.computes_iff, after_iff (testHolds_counter hexact hframe)]
  simp only [listed_append, listed_singleton, decide_eq_true_eq]
  by_cases hlt : k < bound
  · obtain ⟨memory', -, hinv', hexec⟩ := hbody k hlt memory hinv
    have hscope := inScope_of_ok hexec (List.suffix_refl _)
    have hcount : count.Computes ctx n ⟨memory', counter M index k :: locals⟩ ↔
        n = k ∨ n = k + 1 := by
      rw [Expr.Computes, after_iff (place_counter hframe), GivesInt, GivesInt,
        after_iff (countPlace_counter hexact true), after_iff (countPlace_counter hexact false)]
      simp
    rw [hcomputes k hlt memory hinv, after_iff hscope, hcount]
    simp only [hlt, if_true, true_and, Flow.afterBody, Option.isNone_none]
    tauto
  · simp only [hlt, if_false, false_and, or_false]
    tauto

/-- A loop over a counter computes all values of the counter, up to the bound, and what its body
computes. -/
theorem countedLoop {p : Nat → Int → Prop} (hlimit : bound < ctx.limit)
    (hcomputes : ∀ k < bound, body.ComputesExactly ctx (counter M index k :: locals) inv (p k)) :
    (Builtin.Packing.countedLoop index bound body).ComputesExactly ctx locals inv fun n =>
      (0 ≤ n ∧ n ≤ bound) ∨ ∃ k < bound, p k n := by
  intro memory hinv n
  have hzero : (Builtin.intLit 0).Tallies ctx (⟨memory, locals⟩ : RunState M) 0 [0] := .literal 0 .int
  have hinit : (Stmt.declare [⟨index, .int .int, false, some (Builtin.intLit 0)⟩]).Computes ctx n
      ⟨memory, locals⟩ ↔ n = 0 := by
    rw [computes_declare_cons (declareVariable_int (hexact.holds _) hzero.counts),
      Variable.computes_iff rfl rfl hzero (hexact.holds _), listed_singleton]
    simp only [not_computes_declare_nil, or_false]
    rfl
  rw [Builtin.Packing.countedLoop, Computes, hinit, after_iff (exec_declare hexact), LoopComputes]
  simp only [Option.some.injEq, exists_eq_left']
  constructor
  · rintro (rfl | ⟨turns, -, s', hrepeats, hcomputed⟩)
    · exact .inl ⟨Int.le_refl _, Int.natCast_nonneg _⟩
    · obtain ⟨k, hle, memory', hinv', rfl⟩ :=
        of_repeats hexact hframe hbody (Nat.zero_le _) hinv hrepeats
      rcases (computes_turn hexact hframe hbody hinv' hcomputes).mp hcomputed with
        rfl | rfl | htest | ⟨hlt, hbodyComputes | rfl⟩
      · exact .inl ⟨Int.natCast_nonneg _, Int.ofNat_le.mpr hle⟩
      · exact .inl ⟨Int.natCast_nonneg _, Int.le_refl _⟩
      · split at htest <;> omega
      · exact .inr ⟨k, hlt, hbodyComputes⟩
      · exact .inl (by omega)
  · intro h
    right
    obtain ⟨k, hle, hcomputed⟩ : ∃ k ≤ bound, n = k ∨ n = bound ∨ (n = if k < bound then 1 else 0) ∨
        (k < bound ∧ (p k n ∨ n = k + 1)) := by
      rcases h with ⟨hnonneg, hle⟩ | ⟨k, hlt, hbodyComputes⟩
      · exact ⟨n.toNat, by omega, .inl (by omega)⟩
      · exact ⟨k, Nat.le_of_lt hlt, .inr (.inr (.inr ⟨hlt, .inl hbodyComputes⟩))⟩
    have hsum : 0 + k ≤ bound := (Nat.zero_add k).symm ▸ hle
    obtain ⟨memory', hinv', hrepeats⟩ := exists_repeats hexact hframe hbody k hsum hinv
    rw [Nat.zero_add] at hrepeats
    exact ⟨k, Nat.lt_of_le_of_lt hle hlimit, _, hrepeats,
      (computes_turn hexact hframe hbody hinv' hcomputes).mpr hcomputed⟩

end Counting

/-- A shared loop computes its bound, the numbers of its iterations, and what its body computes. -/
theorem parallelFor {index : String} {bound : Expr} {body : Stmt} {m : Nat} {ns : List Nat}
    {step : Nat → M.Memory → Option M.Memory} {p : Nat → Int → Prop}
    (hbound : ∀ memory, inv memory → bound.Tallies ctx ⟨memory, locals⟩ m ns)
    (hbody : ∀ i ∈ M.order m, body.Performs ctx (counter M index i :: locals) inv (step i))
    (hcomputes : ∀ i ∈ M.order m,
      body.ComputesExactly ctx (counter M index i :: locals) inv (p i)) :
    (Stmt.parallelFor index bound body).ComputesExactly ctx locals inv fun n =>
      Listed ns n ∨ ∃ i ∈ M.order m, n = i ∨ p i n := by
  intro memory hinv n
  have htally := hbound memory hinv
  obtain ⟨kind, heval⟩ := htally.counts
  have hbefore {before : List Nat} {i : Nat} {after : List Nat}
      (hsplit : M.order m = before ++ i :: after) :
      After (before.forM (body.iteration ctx index)) ⟨memory, locals⟩ (fun _ s =>
        n = i ∨ body.Computes ctx n ⟨s.memory, counter M index i :: s.locals⟩) ↔
          n = i ∨ p i n := by
    have hmem : ∀ j ∈ before, j ∈ M.order m := fun j hj =>
      hsplit ▸ List.mem_append_left _ hj
    have hi : i ∈ M.order m := hsplit ▸ List.mem_append_right _ List.mem_cons_self
    obtain ⟨memory', -, hinv', hforM⟩ := forM_iteration (fun j hj => hbody j (hmem j hj)) hinv
    rw [after_iff hforM, hcomputes i hi memory' hinv']
  rw [Computes, htally.computes_iff, after_iff heval]
  refine or_congr_right ?_
  constructor
  · rintro ⟨count, hcount, before, i, after, hsplit, hcomputed⟩
    obtain rfl := Value.isInt_int.mp hcount
    rw [Int.toNat_natCast] at hsplit
    exact ⟨i, hsplit ▸ List.mem_append_right _ List.mem_cons_self, (hbefore hsplit).mp hcomputed⟩
  · rintro ⟨i, hi, hcomputed⟩
    obtain ⟨before, after, hsplit⟩ := List.append_of_mem hi
    exact ⟨m, Value.isInt_int.mpr rfl, before, i, after, hsplit, (hbefore hsplit).mpr hcomputed⟩

end ComputesExactly

end Stmt

/-- The integers that are computed in a call of a function with one statement. -/
theorem Function.computes_iff {f : Function} {statement : Stmt} {values : List (Value M.Real)}
    {memory : M.Memory} {locals : List (Local M)} {inv : M.Memory → Prop} {p : Int → Prop}
    (hbody : f.body = [statement])
    (hvalues : List.Forall₂ (fun p v => Value.convert p.type v = .ok v) f.params values)
    (hlocals : boundLocals f.params values = locals)
    (h : statement.ComputesExactly { ctx with frame := 0 } locals inv p) (hinv : inv memory) :
    f.Computes ctx values ⟨memory, []⟩ n ↔ p n := by
  subst hlocals
  have hbind : Program.bindParams f.params values ⟨memory, []⟩ = .ok ((), ⟨memory, _ ++ []⟩) :=
    bindParams_eq_ok hvalues
  rw [List.append_nil] at hbind
  rw [Function.Computes, after_iff hbind, hbody, Stmt.SomeComputes]
  refine Iff.trans ?_ (h memory hinv n)
  simp [After, Stmt.SomeComputes]

end KernelForge.Code
