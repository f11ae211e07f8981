import KernelForge.Proofs.Code.Calling

/-!
# Replacing code by code that does the same

On every machine, variables, entries of arrays and operations on them only read: they fail, or give a
value and leave the state as it is. A choice between two values can therefore be replaced by the value
that its test takes. If the code of every iteration of a shared loop can be replaced, then so can that
of the loop, and of a function that has it as its body.
-/

namespace KernelForge.Code

variable {M : Machine} {ctx : Context M} {s : RunState M}

/-- A run that fails does not go on. -/
theorem run_bind_error {α β : Type} {run : Run M α} {next : α → Run M β} {fault : Fault}
    (h : run s = .error fault) : (run >>= next) s = .error fault := by
  change Except.bind (run s) (fun result => next result.1 result.2) = _
  rw [h]
  rfl

/-- Runs that do the same go on in the same way. -/
theorem run_bind_congr {α β : Type} {run run' : Run M α} {next : α → Run M β} (h : run s = run' s) :
    (run >>= next) s = (run' >>= next) s := by
  change Except.bind (run s) _ = Except.bind (run' s) _
  rw [h]

/-! ### Reading -/

/-- A run only reads: it fails, or gives a value and leaves the state as it is. -/
def Run.OnlyReads {α : Type} (run : Run M α) : Prop :=
  ∀ s, (∃ a, run s = .ok (a, s)) ∨ ∃ fault, run s = .error fault

namespace Run.OnlyReads

/-- A value changes nothing. -/
theorem pure {α : Type} (a : α) : (Pure.pure a : Run M α).OnlyReads := fun _ => .inl ⟨a, rfl⟩

/-- Neither does a result that may be a fault. -/
theorem liftM {α : Type} (value : Except Fault α) : (MonadLiftT.monadLift value : Run M α).OnlyReads := by
  intro s
  cases value with
  | ok a => exact .inl ⟨a, rfl⟩
  | error fault => exact .inr ⟨fault, rfl⟩

/-- Reading and then reading more is reading. -/
theorem bind {α β : Type} {run : Run M α} {next : α → Run M β} (h : run.OnlyReads)
    (hnext : ∀ a, (next a).OnlyReads) : (run >>= next).OnlyReads := by
  intro s
  rcases h s with ⟨a, hrun⟩ | ⟨fault, hrun⟩
  · rw [run_bind hrun]
    exact hnext a s
  · exact .inr ⟨fault, run_bind_error hrun⟩

/-- Names are looked up without a change. -/
theorem lookup (name : String) : (lookup ctx name).OnlyReads := by
  intro s
  unfold Code.lookup
  simp only
  split
  · split
    · exact .inl ⟨_, rfl⟩
    · exact .inr ⟨_, rfl⟩
  · split
    · exact .inl ⟨_, rfl⟩
    · exact .inr ⟨_, rfl⟩

/-- Places are read without one. -/
theorem readPlace (place : CType × Location) : (readPlace place : Run M _).OnlyReads := by
  intro s
  unfold Code.readPlace
  split
  · exact .inl ⟨_, rfl⟩
  · exact .inl ⟨_, rfl⟩
  · simp only
    split
    · exact .inl ⟨_, rfl⟩
    · exact .inr ⟨_, rfl⟩
  · simp only
    split
    · split
      · exact .inl ⟨_, rfl⟩
      · exact .inr ⟨_, rfl⟩
    · exact .inr ⟨_, rfl⟩
  · exact .inr ⟨_, rfl⟩

end Run.OnlyReads

namespace Expr

variable {a b : Expr}

/-- Literals do not change anything. -/
theorem onlyReads_literal (n : Nat) (kind : IntKind) : ((Expr.intLit n kind).eval ctx).OnlyReads := by
  rw [Expr.eval]
  exact .pure _

/-- Variables do not either. -/
theorem onlyReads_var (name : String) : ((Expr.var name).eval ctx).OnlyReads := by
  rw [Expr.eval]
  exact .bind (.lookup name) .readPlace

/-- An operation only reads if its operands do. -/
theorem onlyReads_binary (op : BinaryOp) (ha : (a.eval ctx).OnlyReads) (hb : (b.eval ctx).OnlyReads) :
    ((Expr.binary op a b).eval ctx).OnlyReads := by
  rw [Expr.eval]
  exact ha.bind fun _ => hb.bind fun _ => .liftM _

/-- The place of an entry is found by reading. -/
theorem onlyReads_place_index (ha : (a.eval ctx).OnlyReads) (hb : (b.eval ctx).OnlyReads) :
    ((Expr.index a b).place ctx).OnlyReads := by
  rw [Expr.place]
  exact ha.bind fun _ => hb.bind fun _ => .bind (.liftM _) fun _ => .liftM _

/-- So does an access by index. -/
theorem onlyReads_index (ha : (a.eval ctx).OnlyReads) (hb : (b.eval ctx).OnlyReads) :
    ((Expr.index a b).eval ctx).OnlyReads := by
  rw [Expr.eval]
  exact ha.bind fun _ => hb.bind fun _ => .bind (.liftM _) fun _ => .bind (.liftM _) .readPlace

end Expr

/-! ### Replacing values -/

/-- A choice is the value that its test takes. -/
theorem eval_cond_of_truth {test yes no : Expr} {v : Value M.Real}
    (htest : test.eval ctx s = .ok (v, s)) (htruth : v.truth = .ok true) :
    (Expr.cond test yes no).eval ctx s = yes.eval ctx s := by
  rw [Expr.eval, run_bind htest, run_bind (run_liftM htruth), if_pos rfl]

/-- Values that are the same are assigned in the same way. -/
theorem eval_assign_congr {place value value' : Expr} (hplace : (place.place ctx).OnlyReads)
    (h : value.eval ctx s = value'.eval ctx s) :
    (Expr.assign place value).eval ctx s = (Expr.assign place value').eval ctx s := by
  rw [Expr.eval, Expr.eval]
  rcases hplace s with ⟨target, htarget⟩ | ⟨fault, htarget⟩
  · rw [run_bind htarget, run_bind htarget]
    exact run_bind_congr h
  · rw [run_bind_error htarget, run_bind_error htarget]

/-- Expressions that do the same are evaluated for the same. -/
theorem exec_expr_congr {e e' : Expr} (h : e.eval ctx s = e'.eval ctx s) :
    (Stmt.expr e).exec ctx s = (Stmt.expr e').exec ctx s := by
  rw [Stmt.exec, Stmt.exec]
  exact run_bind_congr h

/-- A statement fails as its expression does. -/
theorem exec_expr_error {e : Expr} {fault : Fault} (h : e.eval ctx s = .error fault) :
    (Stmt.expr e).exec ctx s = .error fault := by
  rw [Stmt.exec]
  exact run_bind_error h

/-- Statements may begin with another one that does the same. -/
theorem execAll_cons_congr {a b : Stmt} {rest : List Stmt} (h : a.exec ctx s = b.exec ctx s) :
    Stmt.execAll (a :: rest) ctx s = Stmt.execAll (b :: rest) ctx s := by
  rw [Stmt.execAll, Stmt.execAll]
  exact run_bind_congr h

/-- Nothing comes after a statement that fails. -/
theorem execAll_cons_error {a : Stmt} {rest : List Stmt} {fault : Fault}
    (h : a.exec ctx s = .error fault) : Stmt.execAll (a :: rest) ctx s = .error fault := by
  rw [Stmt.execAll]
  exact run_bind_error h

/-! ### Local variables that stay -/

/-- A run leaves the local variables as they are: it fails, or changes memory at most. -/
def Run.KeepsLocals {α : Type} (run : Run M α) (s : RunState M) : Prop :=
  (∃ a memory, run s = .ok (a, ⟨memory, s.locals⟩)) ∨ ∃ fault, run s = .error fault

/-- A run in a scope of its own leaves the local variables as they are if it fails or only adds
some. -/
theorem keepsLocals_inScope {α : Type} {run : Run M α}
    (h : (∃ a memory added, run s = .ok (a, ⟨memory, added ++ s.locals⟩)) ∨
      ∃ fault, run s = .error fault) : Run.KeepsLocals (inScope run) s := by
  have hget : (get : Run M (RunState M)) s = .ok (s, s) := rfl
  rcases h with ⟨a, memory, added, hrun⟩ | ⟨fault, hrun⟩
  · exact .inl ⟨a, memory, inScope_of_ok hrun (List.suffix_append added s.locals)⟩
  · refine .inr ⟨fault, ?_⟩
    rw [inScope, run_bind hget, run_bind_error hrun]

/-- A variable of a type with one cell begins with a value that is read. -/
theorem exec_declare_of_onlyReads {name : String} {type : CType} {isConst : Bool} {e : Expr}
    (hcells : type.cells = 1) (he : (e.eval ctx).OnlyReads) :
    (∃ v, (Stmt.declare [⟨name, type, isConst, some e⟩]).exec ctx s =
      .ok (.next, ⟨s.memory, ⟨name, type, v⟩ :: s.locals⟩)) ∨
    ∃ fault, (Stmt.declare [⟨name, type, isConst, some e⟩]).exec ctx s = .error fault := by
  let initial : Run M (Value M.Real) := e.eval ctx >>= fun v => liftM (Value.convert (M := M) type v)
  have hrun : declareVariable ctx ⟨name, type, isConst, some e⟩ = initial >>= fun v =>
      pushLocal ⟨name, type, v⟩ >>= fun _ =>
        (List.range (type.cells - 1)).forM fun _ => pushLocal ⟨"", .void, .zero M type⟩ :=
    (bind_assoc ..).symm
  have hinitial : initial.OnlyReads := he.bind fun _ => .liftM _
  rcases hinitial s with ⟨v, hv⟩ | ⟨fault, hfault⟩
  · have hdeclare : declareVariable ctx ⟨name, type, isConst, some e⟩ s =
        .ok ((), ⟨s.memory, ⟨name, type, v⟩ :: s.locals⟩) := by
      rw [hrun, run_bind hv, hcells]
      rfl
    exact .inl ⟨v, (exec_declare_cons hdeclare).trans exec_declare_nil⟩
  · have hdeclare : declareVariable ctx ⟨name, type, isConst, some e⟩ s = .error fault := by
      rw [hrun, run_bind_error hfault]
    rw [Stmt.exec]
    exact .inr ⟨fault, run_bind_error (run_bind_error hdeclare)⟩

/-- What is written to an address changes memory at most. -/
theorem keepsLocals_writePlace (type : CType) (a : Int) (v : Value M.Real) :
    (writePlace (type, .address a) v).KeepsLocals s := by
  cases hconvert : Value.convert (M := M) type v with
  | error fault =>
    refine .inr ⟨fault, ?_⟩
    simp only [writePlace, hconvert]
    rfl
  | ok w =>
    cases hstore : M.store s.memory a w with
    | none =>
      refine .inr ⟨.badAddress, ?_⟩
      simp only [writePlace, hconvert, hstore]
    | some memory => exact .inl ⟨w, memory, writePlace_address hconvert hstore⟩

/-- An assignment changes memory at most if its value is read and its place is an address. -/
theorem keepsLocals_assign {place value : Expr} (hplace : (place.place ctx).OnlyReads)
    (haddress : ∀ target, place.place ctx s = .ok (target, s) → ∃ a, target.2 = .address a)
    (hvalue : (value.eval ctx).OnlyReads) : ((Expr.assign place value).eval ctx).KeepsLocals s := by
  rw [Expr.eval]
  rcases hplace s with ⟨⟨type, location⟩, htarget⟩ | ⟨fault, hfault⟩
  · obtain ⟨a, rfl⟩ : ∃ a, location = .address a := haddress _ htarget
    rcases hvalue s with ⟨v, hv⟩ | ⟨fault, hfault⟩
    · rcases keepsLocals_writePlace (s := s) type a v with ⟨w, memory, hwrite⟩ | ⟨fault, hwrite⟩
      · exact .inl ⟨w, memory, (run_bind htarget).trans ((run_bind hv).trans hwrite)⟩
      · exact .inr ⟨fault, (run_bind htarget).trans ((run_bind hv).trans hwrite)⟩
    · exact .inr ⟨fault, (run_bind htarget).trans (run_bind_error hfault)⟩
  · exact .inr ⟨fault, run_bind_error hfault⟩

/-! ### Replacing loops -/

/-- A scope depends on nothing but what happens in it. -/
theorem inScope_congr {α : Type} {run run' : Run M α} (h : run s = run' s) :
    inScope run s = inScope run' s := by
  have hget : (get : Run M (RunState M)) s = .ok (s, s) := rfl
  rw [inScope, inScope, run_bind hget, run_bind hget]
  exact run_bind_congr h

section Loops

variable {index : String} {body body' : Stmt} {locals : List (Local M)}

/-- An iteration depends on nothing but its body. -/
theorem iteration_congr {i : Nat} {memory : M.Memory}
    (h : body.exec ctx ⟨memory, counter M index i :: locals⟩ =
      body'.exec ctx ⟨memory, counter M index i :: locals⟩) :
    body.iteration ctx index i ⟨memory, locals⟩ = body'.iteration ctx index i ⟨memory, locals⟩ := by
  have hpush : (pushLocal ⟨index, .int .int, .int .int i⟩ : Run M Unit) ⟨memory, locals⟩ =
      .ok ((), ⟨memory, counter M index i :: locals⟩) := rfl
  refine inScope_congr ?_
  rw [run_bind hpush, run_bind hpush]
  exact run_bind_congr h

/-- An iteration leaves the local variables as they are if its code does. -/
theorem keepsLocals_iteration {i : Nat} {memory : M.Memory}
    (h : (body.exec ctx).KeepsLocals ⟨memory, counter M index i :: locals⟩) :
    (body.iteration ctx index i).KeepsLocals ⟨memory, locals⟩ := by
  have hpush : (pushLocal ⟨index, .int .int, .int .int i⟩ : Run M Unit) ⟨memory, locals⟩ =
      .ok ((), ⟨memory, counter M index i :: locals⟩) := rfl
  refine keepsLocals_inScope ?_
  rw [run_bind hpush]
  rcases h with ⟨flow, memory', hexec⟩ | ⟨fault, hexec⟩
  · rw [run_bind hexec]
    cases flow with
    | next | «continue» => exact .inl ⟨(), memory', [counter M index i], rfl⟩
    | «break» | «return» => exact .inr ⟨.badExit, rfl⟩
  · exact .inr ⟨fault, run_bind_error hexec⟩

/-- Iterations can be replaced one by one, because none of them changes local variables of the
others. -/
theorem forM_iteration_congr
    (hkeeps : ∀ i memory, (body'.exec ctx).KeepsLocals ⟨memory, counter M index i :: locals⟩)
    (h : ∀ i memory, body.exec ctx ⟨memory, counter M index i :: locals⟩ =
      body'.exec ctx ⟨memory, counter M index i :: locals⟩) (is : List Nat) (memory : M.Memory) :
    is.forM (body.iteration ctx index) ⟨memory, locals⟩ =
      is.forM (body'.iteration ctx index) ⟨memory, locals⟩ := by
  induction is generalizing memory with
  | nil => rfl
  | cons i rest ih =>
    have hfirst := iteration_congr (h i memory)
    change (body.iteration ctx index i >>= fun _ => rest.forM (body.iteration ctx index)) _ =
      (body'.iteration ctx index i >>= fun _ => rest.forM (body'.iteration ctx index)) _
    rcases keepsLocals_iteration (hkeeps i memory) with ⟨⟨⟩, memory', hrun⟩ | ⟨fault, hrun⟩
    · rw [run_bind (hfirst.trans hrun), run_bind hrun]
      exact ih memory'
    · rw [run_bind_error (hfirst.trans hrun), run_bind_error hrun]

/-- The code of a shared loop can be replaced. -/
theorem exec_parallelFor_congr {bound : Expr} {memory : M.Memory} (hbound : (bound.eval ctx).OnlyReads)
    (hkeeps : ∀ i memory, (body'.exec ctx).KeepsLocals ⟨memory, counter M index i :: locals⟩)
    (h : ∀ i memory, body.exec ctx ⟨memory, counter M index i :: locals⟩ =
      body'.exec ctx ⟨memory, counter M index i :: locals⟩) :
    (Stmt.parallelFor index bound body).exec ctx ⟨memory, locals⟩ =
      (Stmt.parallelFor index bound body').exec ctx ⟨memory, locals⟩ := by
  rw [Stmt.exec, Stmt.exec]
  rcases hbound ⟨memory, locals⟩ with ⟨v, hv⟩ | ⟨fault, hfault⟩
  · rw [run_bind hv, run_bind hv]
    cases v with
    | int kind n => exact run_bind_congr (forM_iteration_congr hkeeps h _ memory)
    | float | pointer | void => rfl
  · rw [run_bind_error hfault, run_bind_error hfault]

end Loops

/-! ### Replacing functions -/

/-- The first argument is brought to the type of the first parameter and becomes a local variable. -/
theorem bindParams_cons_eq_ok {p : Parameter} {params : List Parameter} {v : Value M.Real}
    {values : List (Value M.Real)} {s' : RunState M}
    (h : Program.bindParams (p :: params) (v :: values) s = .ok ((), s')) :
    ∃ w, v.convert p.type = .ok w ∧
      Program.bindParams params values ⟨s.memory, ⟨p.name, p.type, w⟩ :: s.locals⟩ = .ok ((), s') := by
  rw [Program.bindParams] at h
  cases hconvert : Value.convert (M := M) p.type v with
  | error fault =>
    have hfault : (liftM (Value.convert (M := M) p.type v) : Run M _) s = .error fault := by
      rw [hconvert]
      rfl
    cases (run_bind_error hfault).symm.trans h
  | ok w =>
    rw [run_bind (run_liftM hconvert)] at h
    exact ⟨w, rfl, h⟩

/-- Arguments become local variables with the names of the parameters. -/
theorem exists_of_bindParams {params : List Parameter} {values : List (Value M.Real)}
    {s' : RunState M} (h : Program.bindParams params values s = .ok ((), s')) :
    ∃ added, s' = ⟨s.memory, added ++ s.locals⟩ ∧ ∀ x ∈ added, ∃ p ∈ params, x.name = p.name := by
  induction params generalizing values s with
  | nil =>
    cases h
    exact ⟨[], rfl, fun _ hx => absurd hx List.not_mem_nil⟩
  | cons p params ih =>
    cases values with
    | nil => cases h
    | cons v values =>
      obtain ⟨w, -, hrest⟩ := bindParams_cons_eq_ok h
      obtain ⟨added, rfl, hadded⟩ := ih hrest
      refine ⟨added ++ [⟨p.name, p.type, w⟩], ?_, fun x hx => ?_⟩
      · rw [List.append_assoc, List.singleton_append]
      · rcases List.mem_append.mp hx with hx | hx
        · obtain ⟨q, hq, hname⟩ := hadded x hx
          exact ⟨q, List.mem_cons_of_mem _ hq, hname⟩
        · cases List.mem_singleton.mp hx
          exact ⟨p, List.mem_cons_self, rfl⟩

/-- The body of a function can be replaced. -/
theorem enter_congr {f : Function} {body : List Stmt} {values : List (Value M.Real)}
    (h : ∀ s', Program.bindParams f.params values s = .ok ((), s') →
      Stmt.execAll f.body { ctx with frame := s.locals.length } s' =
        Stmt.execAll body { ctx with frame := s.locals.length } s') :
    Program.enter f ctx values s = Program.enter { f with body := body } ctx values s := by
  have hget : (get : Run M (RunState M)) s = .ok (s, s) := rfl
  refine inScope_congr ?_
  rw [run_bind hget, run_bind hget]
  cases hbind : Program.bindParams f.params values s with
  | error fault => rw [run_bind_error hbind, run_bind_error hbind]
  | ok result =>
    obtain ⟨⟨⟩, s'⟩ := result
    rw [run_bind hbind, run_bind hbind]
    exact run_bind_congr (h s' hbind)

end KernelForge.Code
