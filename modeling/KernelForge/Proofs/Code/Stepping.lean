import KernelForge.Proofs.Code.Evaluating
import KernelForge.Template.Builtin

/-!
# Statements as steps of memory

A statement that ends normally and leaves the local variables as they were is a step of memory.
Loops over a counter, and loops whose iterations are shared among threads, do the steps of their
bodies one after the other. An invariant says in which memories the step is done at all, and is kept
by it.
-/

namespace KernelForge.Code

variable {M : Machine} {ctx : Context M} {locals : List (Local M)} {inv : M.Memory → Prop}

/-- From every memory for which an invariant holds, a statement does a step: it ends normally, the
local variables are as they were, and the invariant holds again. -/
def Stmt.Performs (statement : Stmt) (ctx : Context M) (locals : List (Local M))
    (inv : M.Memory → Prop) (step : M.Memory → Option M.Memory) : Prop :=
  ∀ memory, inv memory → ∃ memory', step memory = some memory' ∧ inv memory' ∧
    statement.exec ctx ⟨memory, locals⟩ = .ok (.next, ⟨memory', locals⟩)

/-- An expression is evaluated for what it does. -/
theorem exec_expr {e : Expr} {s s' : RunState M} {v : Value M.Real}
    (h : e.eval ctx s = .ok (v, s')) : (Stmt.expr e).exec ctx s = .ok (.next, s') := by
  rw [Stmt.exec, run_bind h]
  rfl

/-! ### Scopes -/

/-- Code in a scope of its own loses the local variables that it added, and may have changed
others. -/
theorem inScope_eq_ok {α : Type} {run : Run M α} {memory memory' : M.Memory}
    (added : List (Local M)) {locals' : List (Local M)} {a : α}
    (h : run ⟨memory, locals⟩ = .ok (a, ⟨memory', added ++ locals'⟩))
    (hlength : locals'.length = locals.length) :
    inScope run ⟨memory, locals⟩ = .ok (a, ⟨memory', locals'⟩) := by
  have hget : (get : Run M (RunState M)) ⟨memory, locals⟩ =
      .ok (⟨memory, locals⟩, ⟨memory, locals⟩) := rfl
  have hdrop : (added ++ locals').drop ((added ++ locals').length - locals.length) = locals' := by
    rw [List.length_append, hlength, Nat.add_sub_cancel, List.drop_left]
  rw [inScope, run_bind hget, run_bind h]
  change Except.ok (a, (⟨memory', (added ++ locals').drop _⟩ : RunState M)) = _
  rw [hdrop]

/-- Code in a scope of its own leaves the local variables as they were if it only added some. -/
theorem inScope_of_ok {α : Type} {run : Run M α} {memory memory' : M.Memory}
    {locals' : List (Local M)} {a : α} (h : run ⟨memory, locals⟩ = .ok (a, ⟨memory', locals'⟩))
    (hadded : locals <:+ locals') : inScope run ⟨memory, locals⟩ = .ok (a, ⟨memory', locals⟩) := by
  obtain ⟨added, rfl⟩ := hadded
  exact inScope_eq_ok added h rfl

/-! ### Loops over a counter -/

/-- The counter of a loop as a local variable. -/
def counter (M : Machine) (name : String) (k : Nat) : Local M := ⟨name, .int .int, .int .int k⟩

/-- What a loop does each time. -/
def Stmt.turn (test step : Option Expr) (body : Stmt) (ctx : Context M) :
    Run M (Option (Flow M)) := do
  if ← testHolds test ctx then
    match (← inScope (body.exec ctx)).afterBody with
    | some flow => return some flow
    | none =>
        if let some e := step then
          let _ ← e.eval ctx
        return none
  else return some .next

/-- A loop sets out in a scope of its own and then takes turns. -/
theorem Stmt.exec_for (init body : Stmt) (test step : Option Expr) (ctx : Context M) :
    (Stmt.for init test step body).exec ctx = inScope (do
      let _ ← init.exec ctx
      repeatUntil ctx.limit (turn test step body ctx)) := by
  rw [Stmt.exec]
  rfl

section Counting

variable {index : String} {bound k : Nat} {memory : M.Memory} {body : Stmt}
  {step : Nat → M.Memory → Option M.Memory}

/-- A counter is the newest local variable that code sees. -/
theorem visible_counter (hframe : ctx.frame ≤ locals.length) :
    RunState.visible ⟨memory, counter M index k :: locals⟩ ctx =
      counter M index k :: locals.take (locals.length - ctx.frame) := by
  have hlength : (counter M index k :: locals).length - ctx.frame =
      (locals.length - ctx.frame) + 1 := by
    rw [List.length_cons]
    omega
  simp only [RunState.visible, hlength, List.take_succ_cons]

/-- The counter is the innermost variable. -/
theorem eval_counter (hframe : ctx.frame ≤ locals.length) :
    (Expr.var index).eval ctx ⟨memory, counter M index k :: locals⟩ =
      .ok (.int .int k, ⟨memory, counter M index k :: locals⟩) := by
  refine eval_var (x := counter M index k) ?_ rfl
  rw [visible_counter hframe]
  exact List.find?_cons_of_pos (decide_eq_true rfl)

/-- A counter begins at zero. -/
theorem exec_declare (hexact : M.IsExact) :
    (Stmt.declare [⟨index, .int .int, false, some (Builtin.intLit 0)⟩]).exec ctx
        ⟨memory, locals⟩ = .ok (.next, ⟨memory, counter M index 0 :: locals⟩) := by
  have hzero : (Builtin.intLit 0).eval ctx ⟨memory, locals⟩ =
      .ok (.int .int 0, ⟨memory, locals⟩) := by
    rw [Builtin.intLit, Expr.eval]
    rfl
  have hconvert : (Value.int .int 0 : Value M.Real).convert (.int .int) = .ok (.int .int 0) := by
    simp only [Value.convert, hexact .int 0]
  have hdeclare : declareVariable ctx ⟨index, .int .int, false, some (Builtin.intLit 0)⟩
      ⟨memory, locals⟩ = .ok ((), ⟨memory, counter M index 0 :: locals⟩) := by
    change ((Builtin.intLit 0).eval ctx >>= fun v =>
      (liftM (v.convert (.int .int)) : Run M _) >>= fun value => _) _ = _
    rw [run_bind hzero, run_bind (run_liftM hconvert)]
    rfl
  have hall : [(⟨index, .int .int, false, some (Builtin.intLit 0)⟩ : Variable)].forM
      (declareVariable ctx) ⟨memory, locals⟩ = .ok ((), ⟨memory, counter M index 0 :: locals⟩) :=
    (run_bind hdeclare).trans rfl
  rw [Stmt.exec, run_bind hall]
  rfl

/-- A counter is compared with a bound. -/
theorem testHolds_counter (hexact : M.IsExact) (hframe : ctx.frame ≤ locals.length) :
    testHolds (some (.binary .lt (.var index) (Builtin.intLit bound))) ctx
        ⟨memory, counter M index k :: locals⟩ =
      .ok (decide (k < bound), ⟨memory, counter M index k :: locals⟩) := by
  have hcounter : (Expr.var index).Counts ctx ⟨memory, counter M index k :: locals⟩ k :=
    ⟨.int, eval_counter hframe⟩
  obtain ⟨kind, heval⟩ := hcounter.lt hexact (.literal bound .int)
  change ((Expr.binary .lt (.var index) (.intLit bound .int)).eval ctx >>= fun v =>
    (liftM v.truth : Run M Bool)) _ = _
  rw [run_bind heval]
  by_cases hlt : k < bound
  · simp only [Int.ofNat_lt, hlt, if_true, decide_true]
    rfl
  · simp only [Int.ofNat_lt, hlt, if_false, decide_false]
    rfl

/-- A counter is the object that its name denotes. -/
theorem place_counter (hframe : ctx.frame ≤ locals.length) :
    (Expr.var index).place ctx ⟨memory, counter M index k :: locals⟩ =
      .ok ((.int .int, .slot locals.length), ⟨memory, counter M index k :: locals⟩) := by
  have hname : decide ((counter M index k).name = index) = true := decide_eq_true rfl
  have hfind : (RunState.visible ⟨memory, counter M index k :: locals⟩ ctx).findIdx?
      (·.name = index) = some 0 := by
    rw [visible_counter hframe, List.findIdx?_cons, if_pos hname]
  rw [Expr.place]
  exact lookup_slot hfind rfl

/-- A counter counts up, which yields its old or its new value. -/
theorem countPlace_counter (hexact : M.IsExact) (yieldsOld : Bool) :
    countPlace true yieldsOld (.int .int, .slot locals.length)
        (⟨memory, counter M index k :: locals⟩ : RunState M) =
      .ok (.int .int (if yieldsOld then k else k + 1 : Nat),
        ⟨memory, counter M index (k + 1) :: locals⟩) := by
  have hread : readPlace (.int .int, .slot locals.length)
      (⟨memory, counter M index k :: locals⟩ : RunState M) =
        .ok (.int .int k, ⟨memory, counter M index k :: locals⟩) :=
    readPlace_slot (s := ⟨memory, counter M index k :: locals⟩) (i := 0)
      (x := counter M index k) rfl rfl
  have hsum : BinaryOp.add.apply (.int .int k : Value M.Real) (.int .int 1) =
      .ok (.int .int (k + 1 : Nat)) := by
    simp [BinaryOp.apply, intOperation, BinaryOp.isShift, BinaryOp.isComparison, BinaryOp.ofInts,
      hexact _ _, bind, Except.bind, pure, Except.pure]
    rfl
  have hconvert : (Value.int .int (k + 1 : Nat) : Value M.Real).convert (.int .int) =
      .ok (.int .int (k + 1 : Nat)) := by
    simp only [Value.convert, hexact .int _]
  have hwrite : writePlace (.int .int, .slot locals.length) (.int .int (k + 1 : Nat))
      (⟨memory, counter M index k :: locals⟩ : RunState M) =
        .ok (.int .int (k + 1 : Nat), ⟨memory, counter M index (k + 1) :: locals⟩) := by
    have hlt : locals.length < (counter M index k :: locals).length := Nat.lt_succ_self _
    have hslot : (counter M index k :: locals).length - 1 - locals.length = 0 := by simp
    simp only [writePlace, hconvert, if_pos hlt, hslot]
    rfl
  rw [countPlace, run_bind hread, if_pos rfl, run_bind (run_liftM hsum), run_bind hwrite]
  cases yieldsOld <;> rfl

/-- Counting up yields the old count and stores the new one. -/
theorem eval_count (hexact : M.IsExact) (hframe : ctx.frame ≤ locals.length) :
    (Expr.count true true (.var index)).eval ctx ⟨memory, counter M index k :: locals⟩ =
      .ok (.int .int k, ⟨memory, counter M index (k + 1) :: locals⟩) := by
  rw [Expr.eval, run_bind (place_counter hframe), countPlace_counter hexact]
  rfl

/-- What a loop does for a value of its counter: the step of its body. -/
theorem turn_of_lt (hexact : M.IsExact) (hframe : ctx.frame ≤ locals.length) (hlt : k < bound)
    (hbody : body.Performs ctx (counter M index k :: locals) inv (step k)) (hinv : inv memory) :
    ∃ memory', step k memory = some memory' ∧ inv memory' ∧
      Stmt.turn (some (.binary .lt (.var index) (Builtin.intLit bound)))
          (some (.count true true (.var index))) body ctx ⟨memory, counter M index k :: locals⟩ =
        .ok (none, ⟨memory', counter M index (k + 1) :: locals⟩) := by
  obtain ⟨memory', hstep, hinv', hexec⟩ := hbody memory hinv
  refine ⟨memory', hstep, hinv', ?_⟩
  rw [Stmt.turn, run_bind (testHolds_counter hexact hframe), decide_eq_true hlt, if_pos rfl,
    run_bind (inScope_of_ok hexec (List.suffix_refl _))]
  change ((Expr.count true true (.var index)).eval ctx >>= fun _ => pure none) _ = _
  rw [run_bind (eval_count hexact hframe)]
  rfl

/-- A loop ends when its counter is not below the bound. -/
theorem turn_of_le (hexact : M.IsExact) (hframe : ctx.frame ≤ locals.length) (hle : bound ≤ k) :
    Stmt.turn (some (.binary .lt (.var index) (Builtin.intLit bound)))
        (some (.count true true (.var index))) body ctx ⟨memory, counter M index k :: locals⟩ =
      .ok (some .next, ⟨memory, counter M index k :: locals⟩) := by
  rw [Stmt.turn, run_bind (testHolds_counter hexact hframe), decide_eq_false (by omega)]
  rfl

/-- The turns that are left, from a value of the counter on. -/
theorem repeatUntil_turn (hexact : M.IsExact) (hframe : ctx.frame ≤ locals.length)
    (hbody : ∀ k < bound, body.Performs ctx (counter M index k :: locals) inv (step k))
    (remaining : Nat) {fuel : Nat} (hbound : k + remaining = bound) (hfuel : remaining < fuel)
    (hinv : inv memory) :
    ∃ memory', (List.range' k remaining).foldlM (fun memory k => step k memory) memory =
        some memory' ∧ inv memory' ∧
      repeatUntil fuel (Stmt.turn (some (.binary .lt (.var index) (Builtin.intLit bound)))
          (some (.count true true (.var index))) body ctx) ⟨memory, counter M index k :: locals⟩ =
        .ok (.next, ⟨memory', counter M index bound :: locals⟩) := by
  induction remaining generalizing k fuel memory with
  | zero =>
    obtain ⟨fuel, rfl⟩ := Nat.exists_eq_succ_of_ne_zero (Nat.ne_of_gt hfuel)
    refine ⟨memory, rfl, hinv, ?_⟩
    rw [repeatUntil, run_bind (turn_of_le hexact hframe (by omega)), show k = bound by omega]
    rfl
  | succ remaining ih =>
    obtain ⟨fuel, rfl⟩ := Nat.exists_eq_succ_of_ne_zero (Nat.ne_of_gt (Nat.zero_lt_of_lt hfuel))
    have hlt : k < bound := by omega
    have hnext : k + 1 + remaining = bound := by omega
    obtain ⟨middle, hstep, hmiddle, hturn⟩ := turn_of_lt hexact hframe hlt (hbody k hlt) hinv
    obtain ⟨memory', hrest, hinv', hrepeat⟩ := ih hnext (Nat.lt_of_succ_lt_succ hfuel) hmiddle
    refine ⟨memory', ?_, hinv', ?_⟩
    · rw [List.range'_succ, List.foldlM_cons, hstep]
      exact hrest
    · rw [repeatUntil, run_bind hturn]
      exact hrepeat

/-- A loop over a counter does the steps of its body in order. -/
theorem Stmt.Performs.countedLoop (hexact : M.IsExact) (hframe : ctx.frame ≤ locals.length)
    (hlimit : bound < ctx.limit)
    (hbody : ∀ k < bound, body.Performs ctx (counter M index k :: locals) inv (step k)) :
    (Builtin.Packing.countedLoop index bound body).Performs ctx locals inv fun memory =>
      (List.range bound).foldlM (fun memory k => step k memory) memory := by
  intro memory hinv
  obtain ⟨memory', hfold, hinv', hrepeat⟩ :=
    repeatUntil_turn hexact hframe hbody bound (Nat.zero_add bound) hlimit hinv
  refine ⟨memory', List.range_eq_range' ▸ hfold, hinv', ?_⟩
  rw [Builtin.Packing.countedLoop, Stmt.exec_for]
  refine inScope_of_ok ?_ (List.suffix_cons (counter M index bound) locals)
  rw [run_bind (exec_declare hexact)]
  exact hrepeat

end Counting

/-! ### Shared loops and blocks -/

/-- One statement as a list of statements. -/
theorem Stmt.Performs.execAll {statement : Stmt} {step : M.Memory → Option M.Memory}
    (h : statement.Performs ctx locals inv step) {memory : M.Memory} (hinv : inv memory) :
    ∃ memory', step memory = some memory' ∧ inv memory' ∧
      Stmt.execAll [statement] ctx ⟨memory, locals⟩ = .ok (.next, ⟨memory', locals⟩) := by
  obtain ⟨memory', hstep, hinv', hexec⟩ := h memory hinv
  refine ⟨memory', hstep, hinv', ?_⟩
  rw [Stmt.execAll, run_bind hexec]
  rfl

/-- A block of one statement. -/
theorem Stmt.Performs.block {statement : Stmt} {step : M.Memory → Option M.Memory}
    (h : statement.Performs ctx locals inv step) :
    (Stmt.block [statement]).Performs ctx locals inv step := by
  intro memory hinv
  obtain ⟨memory', hstep, hinv', hexec⟩ := h.execAll hinv
  refine ⟨memory', hstep, hinv', ?_⟩
  rw [Stmt.exec]
  exact inScope_of_ok hexec (List.suffix_refl _)

/-- One iteration of a shared loop, with its counter as a local variable. -/
def Stmt.iteration (ctx : Context M) (index : String) (body : Stmt) (i : Nat) : Run M Unit :=
  inScope do
    pushLocal ⟨index, .int .int, .int .int i⟩
    (← body.exec ctx).expectNext

/-- Iterations one after the other do the steps of the body. -/
theorem forM_iteration {index : String} {body : Stmt} {step : Nat → M.Memory → Option M.Memory}
    {is : List Nat}
    (hbody : ∀ i ∈ is, body.Performs ctx (counter M index i :: locals) inv (step i))
    {memory : M.Memory} (hinv : inv memory) :
    ∃ memory', is.foldlM (fun memory i => step i memory) memory = some memory' ∧ inv memory' ∧
      is.forM (body.iteration ctx index) ⟨memory, locals⟩ = .ok ((), ⟨memory', locals⟩) := by
  induction is generalizing memory with
  | nil => exact ⟨memory, rfl, hinv, rfl⟩
  | cons i rest ih =>
    obtain ⟨middle, hstep, hmiddle, hexec⟩ := hbody i List.mem_cons_self memory hinv
    obtain ⟨memory', hrest, hinv', hforM⟩ :=
      ih (fun j hj => hbody j (List.mem_cons_of_mem _ hj)) hmiddle
    have hpush : (pushLocal ⟨index, .int .int, .int .int i⟩ : Run M Unit) ⟨memory, locals⟩ =
        .ok ((), ⟨memory, counter M index i :: locals⟩) := rfl
    have hfirst : body.iteration ctx index i ⟨memory, locals⟩ = .ok ((), ⟨middle, locals⟩) := by
      refine inScope_of_ok ?_ (List.suffix_cons (counter M index i) locals)
      rw [run_bind hpush, run_bind hexec]
      rfl
    refine ⟨memory', ?_, hinv', (run_bind hfirst).trans hforM⟩
    rw [List.foldlM_cons, hstep]
    exact hrest

/-- A shared loop does the steps of its body in the order of the machine. -/
theorem Stmt.Performs.parallelFor {index : String} {bound : Expr} {body : Stmt} {n : Nat}
    {step : Nat → M.Memory → Option M.Memory}
    (hbound : ∀ memory, inv memory → bound.Counts ctx ⟨memory, locals⟩ n)
    (hbody : ∀ i ∈ M.order n, body.Performs ctx (counter M index i :: locals) inv (step i)) :
    (Stmt.parallelFor index bound body).Performs ctx locals inv fun memory =>
      (M.order n).foldlM (fun memory i => step i memory) memory := by
  intro memory hinv
  obtain ⟨kind, heval⟩ := hbound memory hinv
  obtain ⟨memory', hfold, hinv', hforM⟩ := forM_iteration hbody hinv
  refine ⟨memory', hfold, hinv', ?_⟩
  rw [Stmt.exec, run_bind heval]
  change ((M.order (n : Int).toNat).forM (body.iteration ctx index) >>= _ : Run M (Flow M)) _ = _
  rw [Int.toNat_natCast, run_bind hforM]
  rfl

end KernelForge.Code
