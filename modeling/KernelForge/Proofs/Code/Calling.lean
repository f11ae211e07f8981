import KernelForge.Proofs.Code.Moving

/-!
# Places, calls and teams

A pointer to a local variable reads and writes that variable, also in code that was called from
where the variable is. A call finds a function by its name, or by its address if it is called
through a pointer. A block that every thread of a team runs does the steps of the threads one after
the other.
-/

namespace KernelForge.Code

variable {M : Machine} {ctx : Context M} {memory : M.Memory} {locals above below : List (Local M)}
  {x : Local M}

/-! ### Local variables as places -/

/-- A local variable is found by its name if no newer one has the name. -/
theorem lookup_local (above : List (Local M)) (hframe : ctx.frame ≤ below.length)
    (habove : ∀ y ∈ above, y.name ≠ x.name) :
    lookup ctx x.name ⟨memory, above ++ x :: below⟩ =
      .ok ((x.type, .slot below.length), ⟨memory, above ++ x :: below⟩) := by
  have hlength : (above ++ x :: below).length = above.length + (below.length + 1) := by
    rw [List.length_append, List.length_cons]
  have hcount : above.length + (below.length + 1) - ctx.frame - above.length =
      below.length - ctx.frame + 1 := by omega
  have hvisible : RunState.visible ⟨memory, above ++ x :: below⟩ ctx =
      above ++ x :: below.take (below.length - ctx.frame) := by
    rw [RunState.visible, hlength, List.take_append, List.take_of_length_le (by omega), hcount,
      List.take_succ_cons]
  have hnone : above.findIdx? (·.name = x.name) = none := by
    rw [List.findIdx?_eq_none_iff]
    exact fun y hy => decide_eq_false (habove y hy)
  have hindex : (RunState.visible ⟨memory, above ++ x :: below⟩ ctx).findIdx? (·.name = x.name) =
      some above.length := by
    rw [hvisible, List.findIdx?_append, hnone, List.findIdx?_cons, if_pos (decide_eq_true rfl)]
    simp
  have hget : (above ++ x :: below)[above.length]? = some x := by simp
  have hslot : (above ++ x :: below).length - 1 - above.length = below.length := by
    rw [hlength]
    omega
  rw [lookup_slot hindex hget, hslot]

/-- What is at the place of a local variable is its value. -/
theorem readPlace_local (hscalar : x.type.isScalar = true) :
    readPlace (x.type, .slot below.length) ⟨memory, above ++ x :: below⟩ =
      .ok (x.value, ⟨memory, above ++ x :: below⟩) := by
  have hget : (above ++ x :: below)[above.length]? = some x := by simp
  have hslot : (above ++ x :: below).length - 1 - above.length = below.length := by
    rw [List.length_append, List.length_cons]
    omega
  have hread := readPlace_slot (s := ⟨memory, above ++ x :: below⟩) hget hscalar
  rwa [hslot] at hread

/-- What is put at the place of a local variable is its value from then on. -/
theorem writePlace_local {v w : Value M.Real} (hconvert : v.convert x.type = .ok w) :
    writePlace (x.type, .slot below.length) v ⟨memory, above ++ x :: below⟩ =
      .ok (w, ⟨memory, above ++ { x with value := w } :: below⟩) := by
  have hlt : below.length < (above ++ x :: below).length := by
    rw [List.length_append, List.length_cons]
    omega
  have hslot : (above ++ x :: below).length - 1 - below.length = above.length := by
    rw [List.length_append, List.length_cons]
    omega
  have hmodify : (above ++ x :: below).modify above.length (fun v => { v with value := w }) =
      above ++ { x with value := w } :: below := by
    have hinside : above.length < (above ++ x :: below).length := by simp
    rw [List.modify_eq_take_cons_drop hinside]
    simp
  simp only [writePlace, hconvert, if_pos hlt, hslot, hmodify]

/-! ### Integers -/

/-- A variable of type `int` begins with the value that it is given. -/
theorem declareVariable_int {n : Int} (hn : M.Holds n) {name : String} {isConst : Bool} {e : Expr}
    (h : e.Counts ctx ⟨memory, locals⟩ n) :
    declareVariable ctx ⟨name, .int .int, isConst, some e⟩ ⟨memory, locals⟩ =
      .ok ((), ⟨memory, ⟨name, .int .int, .int .int n⟩ :: locals⟩) := by
  obtain ⟨kind, heval⟩ := h
  change (e.eval ctx >>= fun v =>
    (liftM (v.convert (.int .int)) : Run M _) >>= fun value => _) _ = _
  rw [run_bind heval, run_bind (run_liftM (convert_int_of_holds hn kind))]
  rfl

namespace Expr.Counts

variable {s : RunState M} {a b test yes no pointer : Expr} {m n : Int}

/-- Which of two expressions is evaluated depends on a test. -/
theorem cond {p : Prop} [Decidable p] (htest : test.Counts ctx s (if p then 1 else 0))
    (hyes : p → yes.Counts ctx s m) (hno : ¬p → no.Counts ctx s m) :
    (Expr.cond test yes no).Counts ctx s m := by
  obtain ⟨kind, htest⟩ := htest
  by_cases hp : p
  · obtain ⟨kind', hyes⟩ := hyes hp
    refine ⟨kind', ?_⟩
    rw [Expr.eval, run_bind htest, if_pos hp]
    exact hyes
  · obtain ⟨kind', hno⟩ := hno hp
    refine ⟨kind', ?_⟩
    rw [Expr.eval, run_bind htest, if_neg hp]
    exact hno

/-- The lesser one of two integers. -/
theorem smaller (hm : M.Holds m) (hn : M.Holds n) (ha : a.Counts ctx s m) (hb : b.Counts ctx s n) :
    (Expr.cond (.binary .lt a b) a b).Counts ctx s (min m n) := by
  refine .cond (ha.lt_of_holds hm hn hb) (fun hlt => ?_) (fun hle => ?_)
  · rwa [Int.min_eq_left (Int.le_of_lt hlt)]
  · rwa [Int.min_eq_right (Int.not_lt.mp hle)]

end Expr.Counts

/-! ### Pointers to local variables -/

/-- What a pointer to a local variable of type `int` leads to. -/
theorem Expr.Counts.deref (above : List (Local M)) {pointer : Expr} {name : String} {n : Int}
    (hpointer : pointer.eval ctx ⟨memory, above ++ ⟨name, .int .int, .int .int n⟩ :: below⟩ =
      .ok (.pointer (.int .int) (.slot below.length),
        ⟨memory, above ++ ⟨name, .int .int, .int .int n⟩ :: below⟩)) :
    pointer.deref.Counts ctx ⟨memory, above ++ ⟨name, .int .int, .int .int n⟩ :: below⟩ n := by
  refine ⟨.int, ?_⟩
  rw [Expr.eval, run_bind hpointer]
  exact readPlace_local (x := ⟨name, .int .int, .int .int n⟩) rfl

/-- An integer is assigned to the local variable that a pointer leads to. -/
theorem eval_assign_deref {n : Int} (hn : M.Holds n) (above : List (Local M))
    {pointer value : Expr} {name : String} {old : Value M.Real}
    (hpointer : pointer.eval ctx ⟨memory, above ++ ⟨name, .int .int, old⟩ :: below⟩ =
      .ok (.pointer (.int .int) (.slot below.length),
        ⟨memory, above ++ ⟨name, .int .int, old⟩ :: below⟩))
    (hvalue : value.Counts ctx ⟨memory, above ++ ⟨name, .int .int, old⟩ :: below⟩ n) :
    (Expr.assign pointer.deref value).eval ctx ⟨memory, above ++ ⟨name, .int .int, old⟩ :: below⟩ =
      .ok (.int .int n, ⟨memory, above ++ ⟨name, .int .int, .int .int n⟩ :: below⟩) := by
  obtain ⟨kind, hvalue⟩ := hvalue
  have hplace : pointer.deref.place ctx ⟨memory, above ++ ⟨name, .int .int, old⟩ :: below⟩ =
      .ok ((.int .int, .slot below.length),
        ⟨memory, above ++ ⟨name, .int .int, old⟩ :: below⟩) := by
    rw [Expr.place, run_bind hpointer]
    rfl
  rw [Expr.eval, run_bind hplace, run_bind hvalue]
  exact writePlace_local (x := ⟨name, .int .int, old⟩) (convert_int_of_holds hn kind)

/-! ### Calls -/

/-- A name that no local variable has stands for what the source text has under it. -/
theorem eval_global {s : RunState M} {name : String} {result : CType}
    (hlocal : (s.visible ctx).findIdx? (·.name = name) = none)
    (hglobal : ctx.global name = some (.function result, .function name)) :
    (Expr.var name).eval ctx s = .ok (.pointer (.function result) (.function name), s) := by
  rw [Expr.eval, run_bind (lookup_global hlocal hglobal)]
  rfl

/-- A call of what a pointer leads to. -/
theorem eval_call {s : RunState M} {f : Expr} {args : List Expr} {callee : Callee}
    {target : Value M.Real} {values : List (Value M.Real)} (hf : f.eval ctx s = .ok (target, s))
    (hcallee : calleeOf target = .ok callee)
    (hargs : Expr.evalAll args ctx s = .ok (values, s)) :
    (Expr.call f args).eval ctx s = ctx.call callee ctx.team values s := by
  rw [Expr.eval, run_bind hf, run_bind (run_liftM hcallee), run_bind hargs]

/-- A call that does nothing but return an integer. -/
theorem Expr.Counts.call {s : RunState M} {name : String} {result : CType} {kind : IntKind}
    {n : Int} (hlocal : (s.visible ctx).findIdx? (·.name = name) = none)
    (hglobal : ctx.global name = some (.function result, .function name))
    (hcall : ctx.call (.named name) ctx.team [] s = .ok (.int kind n, s)) :
    (Expr.call (.var name) []).Counts ctx s n := by
  refine ⟨kind, ?_⟩
  have hargs : Expr.evalAll [] ctx s = .ok ([], s) := by
    rw [Expr.evalAll]
    rfl
  rw [eval_call (eval_global hlocal hglobal) rfl hargs]
  exact hcall

/-! ### Statements and teams -/

/-- Statements that end normally run one after the other. -/
theorem execAll_cons {statement : Stmt} {rest : List Stmt} {s s' : RunState M}
    (h : statement.exec ctx s = .ok (.next, s')) :
    Stmt.execAll (statement :: rest) ctx s = Stmt.execAll rest ctx s' := by
  rw [Stmt.execAll, run_bind h]

/-- No statements do nothing. -/
theorem execAll_nil {s : RunState M} : Stmt.execAll [] ctx s = .ok (.next, s) := by
  rw [Stmt.execAll]
  rfl

/-- Declaring no variables does nothing. -/
theorem exec_declare_nil {s : RunState M} : (Stmt.declare []).exec ctx s = .ok (.next, s) := by
  rw [Stmt.exec]
  rfl

/-- Variables are declared one after the other. -/
theorem exec_declare_cons {v : Variable} {vars : List Variable} {s s' : RunState M}
    (h : declareVariable ctx v s = .ok ((), s')) :
    (Stmt.declare (v :: vars)).exec ctx s = (Stmt.declare vars).exec ctx s' := by
  rw [Stmt.exec, Stmt.exec]
  change ((declareVariable ctx v >>= fun _ => vars.forM (declareVariable ctx)) >>= _) s = _
  rw [bind_assoc, run_bind h]

/-- Which of two statements is run depends on a test. -/
theorem exec_ifElse {p : Prop} [Decidable p] {test : Expr} {yes no : Stmt} {s : RunState M}
    (htest : test.Counts ctx s (if p then 1 else 0)) :
    (Stmt.ifElse test yes no).exec ctx s =
      if p then inScope (yes.exec ctx) s else inScope (no.exec ctx) s := by
  obtain ⟨kind, htest⟩ := htest
  rw [Stmt.exec, run_bind htest]
  by_cases hp : p
  · simp only [if_pos hp]
    rfl
  · simp only [if_neg hp]
    rfl

/-- A block that declares variables for a statement. -/
theorem Stmt.Performs.block_declare (added : List (Local M)) {vars : List Variable}
    {statement : Stmt} {inv : M.Memory → Prop} {step : M.Memory → Option M.Memory}
    (hdeclare : ∀ memory, (Stmt.declare vars).exec ctx ⟨memory, locals⟩ =
      .ok (.next, ⟨memory, added ++ locals⟩))
    (h : statement.Performs ctx (added ++ locals) inv step) :
    (Stmt.block [.declare vars, statement]).Performs ctx locals inv step := by
  intro memory hinv
  obtain ⟨memory', hstep, hinv', hexec⟩ := h.execAll hinv
  refine ⟨memory', hstep, hinv', ?_⟩
  rw [Stmt.exec]
  exact inScope_of_ok ((execAll_cons (hdeclare memory)).trans hexec) (List.suffix_append _ _)

/-- What one thread of a team does. -/
def Stmt.onThread (ctx : Context M) (body : Stmt) (rank : Nat) : Run M Unit := do
  (← inScope (body.exec { ctx with team := ⟨M.team, rank⟩ })).expectNext

/-- Threads one after the other do their steps. -/
theorem forM_onThread {body : Stmt} {inv : M.Memory → Prop}
    {step : Nat → M.Memory → Option M.Memory} {ranks : List Nat}
    (hbody : ∀ rank ∈ ranks,
      body.Performs { ctx with team := ⟨M.team, rank⟩ } locals inv (step rank))
    (hinv : inv memory) :
    ∃ memory', ranks.foldlM (fun memory rank => step rank memory) memory = some memory' ∧
      inv memory' ∧
      ranks.forM (body.onThread ctx) ⟨memory, locals⟩ = .ok ((), ⟨memory', locals⟩) := by
  induction ranks generalizing memory with
  | nil => exact ⟨memory, rfl, hinv, rfl⟩
  | cons rank rest ih =>
    obtain ⟨middle, hstep, hmiddle, hexec⟩ := hbody rank List.mem_cons_self memory hinv
    obtain ⟨memory', hrest, hinv', hforM⟩ :=
      ih (fun r hr => hbody r (List.mem_cons_of_mem _ hr)) hmiddle
    have hfirst : body.onThread ctx rank ⟨memory, locals⟩ = .ok ((), ⟨middle, locals⟩) :=
      (run_bind (inScope_of_ok hexec (List.suffix_refl _))).trans rfl
    refine ⟨memory', ?_, hinv', (run_bind hfirst).trans hforM⟩
    rw [List.foldlM_cons, hstep]
    exact hrest

/-- A block that every thread of a team runs does the steps of the threads in the order of the
machine. -/
theorem Stmt.Performs.parallel {body : Stmt} {inv : M.Memory → Prop}
    {step : Nat → M.Memory → Option M.Memory}
    (hbody : ∀ rank ∈ M.order M.team,
      body.Performs { ctx with team := ⟨M.team, rank⟩ } locals inv (step rank)) :
    (Stmt.parallel body).Performs ctx locals inv fun memory =>
      (M.order M.team).foldlM (fun memory rank => step rank memory) memory := by
  intro memory hinv
  obtain ⟨memory', hfold, hinv', hforM⟩ := forM_onThread hbody hinv
  refine ⟨memory', hfold, hinv', ?_⟩
  rw [Stmt.exec]
  exact (run_bind hforM).trans rfl

end KernelForge.Code
