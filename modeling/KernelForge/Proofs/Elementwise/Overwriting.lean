import KernelForge.Proofs.Code.Replacing
import KernelForge.Proofs.Exact.Elementwise

/-!
# Combinations that overwrite their result

With a factor that is zero, the old result of a linear combination is not read. On every machine, a
call is then the call of a function whose code has no expression for an old element: it assigns the
sum of the weighted terms to it. The machine may round, and zero times an old element need not be
zero on it.
-/

namespace KernelForge

open Code Builtin

namespace Elementwise

variable {M : Machine} {ctx : Context M} {type : ElementType} {kind : FloatKind}
  {own outer : List (Local M)}

/-- The body of a combination that overwrites the result. -/
def overwriting (type : ElementType) (n : Nat) : List Stmt :=
  [.declare [⟨"axn", type.cType, false, some (Combination.sum n)⟩],
    .expr (.assign (elementOf "y") (.var "axn"))]

/-- The sum of the weighted terms only reads. -/
theorem onlyReads_sum (n : Nat) : ((Combination.sum n).eval ctx).OnlyReads := by
  -- The sum is built up term by term.
  have hfold : ∀ (is : List Nat) (e : Expr), (e.eval ctx).OnlyReads →
      ((is.foldl (fun e i => .binary .add e
        (.binary .mul (.var (numbered "a" i)) (elementOf (numbered "x" i)))) e).eval ctx).OnlyReads := by
    intro is
    induction is with
    | nil => exact fun _ he => he
    | cons i rest ih =>
      intro e he
      refine ih _ (Expr.onlyReads_binary .add he (Expr.onlyReads_binary .mul ?_ ?_))
      · exact Expr.onlyReads_var _
      · exact Expr.onlyReads_index (Expr.onlyReads_var _) (Expr.onlyReads_var _)
  exact hfold (List.range n) (intLit 0) (Expr.onlyReads_literal 0 .int)

/-- The place of an element is found by reading. -/
theorem onlyReads_place_elementOf (name : String) : ((elementOf name).place ctx).OnlyReads :=
  Expr.onlyReads_place_index (Expr.onlyReads_var name) (Expr.onlyReads_var "_x")

/-- The sum becomes a local variable, or its evaluation fails. -/
theorem exec_declare_sum (ctx : Context M) (type : ElementType) (n : Nat) (s : RunState M) :
    (∃ v, (Stmt.declare [⟨"axn", type.cType, false, some (Combination.sum n)⟩]).exec ctx s =
      .ok (.next, ⟨s.memory, ⟨"axn", type.cType, v⟩ :: s.locals⟩)) ∨
    ∃ fault, (Stmt.declare [⟨"axn", type.cType, false, some (Combination.sum n)⟩]).exec ctx s =
      .error fault := by
  have hcells : type.cType.cells = 1 := by cases type <;> rfl
  exact exec_declare_of_onlyReads hcells (onlyReads_sum n)

/-! ### Local variables of an overwriting run -/

/-- Local variables with which the result is overwritten: its factor is zero, and it is in memory. -/
structure Overwrites (kind : FloatKind) (own : List (Local M)) : Prop where
  factor : ∃ (type : CType) (x : M.Real kind), type.isScalar = true ∧
    own.find? (·.name = "beta") = some ⟨"beta", type, .float kind x⟩ ∧
    M.eq x (M.ofInt kind 0) = true
  result : ∃ (type target : CType) (a : Int), type.isScalar = true ∧
    own.find? (·.name = "y") = some ⟨"y", type, .pointer target (.address a)⟩

/-- Newer local variables with other names change nothing. -/
theorem Overwrites.append (h : Overwrites kind own) (above : List (Local M))
    (habove : ∀ v ∈ above, v.name ≠ "beta" ∧ v.name ≠ "y") : Overwrites kind (above ++ own) := by
  obtain ⟨⟨type, x, hscalar, hfactor, hzero⟩, type', target, a, hscalar', hresult⟩ := h
  refine ⟨⟨type, x, hscalar, ?_, hzero⟩, type', target, a, hscalar', ?_⟩
  · rwa [find?_append_of_ne fun v hv => (habove v hv).1]
  · rwa [find?_append_of_ne fun v hv => (habove v hv).2]

/-- Variables of other names may be added. -/
theorem Overwrites.cons (h : Overwrites kind own) {v : Local M}
    (hv : v.name ≠ "beta" ∧ v.name ≠ "y") : Overwrites kind (v :: own) :=
  h.append [v] fun w hw => by
    cases List.mem_singleton.mp hw
    exact hv

variable (hframe : ctx.frame = outer.length)

include hframe

/-- The factor of the result is found to be zero. -/
theorem Overwrites.eval_isZero (h : Overwrites kind own) (memory : M.Memory) :
    (Expr.paren (.binary .eq (.var "beta") (intLit 0))).eval ctx ⟨memory, own ++ outer⟩ =
      .ok (.ofBool true, ⟨memory, own ++ outer⟩) := by
  obtain ⟨type, x, hscalar, hfactor, hzero⟩ := h.factor
  have hbeta : (Expr.var "beta").eval ctx ⟨memory, own ++ outer⟩ =
      .ok (.float kind x, ⟨memory, own ++ outer⟩) := by
    refine eval_var (x := ⟨"beta", type, .float kind x⟩) ?_ hscalar
    rwa [visible_append hframe]
  rw [intLit, Code.eval_isZero hbeta, hzero]

/-- The place of an element of the result is in memory, if there is one. -/
theorem Overwrites.place_result (h : Overwrites kind own) {memory : M.Memory}
    {target : CType × Location} (hplace : (elementOf "y").place ctx ⟨memory, own ++ outer⟩ =
      .ok (target, ⟨memory, own ++ outer⟩)) : ∃ a, target.2 = .address a := by
  obtain ⟨type, pointed, a, hscalar, hresult⟩ := h.result
  have hy : (Expr.var "y").eval ctx ⟨memory, own ++ outer⟩ =
      .ok (.pointer pointed (.address a), ⟨memory, own ++ outer⟩) := by
    refine eval_var (x := ⟨"y", type, .pointer pointed (.address a)⟩) ?_ hscalar
    rwa [visible_append hframe]
  rw [elementOf, elementIndex, Expr.place, run_bind hy] at hplace
  have hindex : ((Expr.var "_x").eval ctx).OnlyReads := Expr.onlyReads_var "_x"
  rcases hindex ⟨memory, own ++ outer⟩ with ⟨v, hv⟩ | ⟨fault, hfault⟩
  · rw [run_bind hv] at hplace
    cases v with
    | int kind n =>
      cases hplace
      exact ⟨_, rfl⟩
    | pointer other location => cases location <;> cases hplace
    | float | void => cases hplace
  · cases (run_bind_error hfault).symm.trans hplace

/-! ### Overwriting -/

/-- With a factor that is zero, an iteration overwrites the element. -/
theorem Overwrites.exec_body (h : Overwrites kind own) (n : Nat) (memory : M.Memory) :
    (Stmt.block (Combination.body type n)).exec ctx ⟨memory, own ++ outer⟩ =
      (Stmt.block (overwriting type n)).exec ctx ⟨memory, own ++ outer⟩ := by
  rw [Stmt.exec, Stmt.exec, Combination.body, overwriting]
  refine inScope_congr ?_
  rcases exec_declare_sum ctx type n ⟨memory, own ++ outer⟩ with
    ⟨v, hdeclare⟩ | ⟨fault, hdeclare⟩
  · have hsum : Overwrites kind (⟨"axn", type.cType, v⟩ :: own) := h.cons (by simp)
    rw [execAll_cons hdeclare, execAll_cons hdeclare]
    refine execAll_cons_congr (exec_expr_congr (eval_assign_congr ?_ ?_))
    · exact onlyReads_place_elementOf "y"
    · exact eval_cond_of_truth (hsum.eval_isZero hframe memory) rfl
  · rw [execAll_cons_error hdeclare, execAll_cons_error hdeclare]

/-- An overwriting iteration leaves the local variables as they are. -/
theorem Overwrites.keepsLocals (h : Overwrites kind own) (n : Nat) (memory : M.Memory) :
    ((Stmt.block (overwriting type n)).exec ctx).KeepsLocals ⟨memory, own ++ outer⟩ := by
  rw [Stmt.exec, overwriting]
  refine keepsLocals_inScope ?_
  rcases exec_declare_sum ctx type n ⟨memory, own ++ outer⟩ with
    ⟨v, hdeclare⟩ | ⟨fault, hdeclare⟩
  · let s : RunState M := ⟨memory, ⟨"axn", type.cType, v⟩ :: own ++ outer⟩
    have hsum : Overwrites kind (⟨"axn", type.cType, v⟩ :: own) := h.cons (by simp)
    have hassign : ((Expr.assign (elementOf "y") (.var "axn")).eval ctx).KeepsLocals s :=
      keepsLocals_assign (onlyReads_place_elementOf "y") (fun _ => hsum.place_result hframe)
        (Expr.onlyReads_var "axn")
    rcases hassign with ⟨w, memory', hassign⟩ | ⟨fault, hassign⟩
    · exact .inl ⟨.next, memory', [⟨"axn", type.cType, v⟩],
        (execAll_cons hdeclare).trans ((execAll_cons (exec_expr hassign)).trans execAll_nil)⟩
    · exact .inr ⟨fault,
        (execAll_cons hdeclare).trans (execAll_cons_error (exec_expr_error hassign))⟩
  · exact .inr ⟨fault, execAll_cons_error hdeclare⟩

omit hframe

/-! ### Calls -/

section Calls

variable {count : Value M.Real} {target : CType} {a : Int} {given : FloatKind}
  {weight : M.Real given} {rest : List (Value M.Real)}

/-- A call with a factor that is zero begins with local variables with which the result is
overwritten. -/
theorem exists_overwrites (hkind : type.cType = .float kind)
    (hzero : M.eq (M.convert kind weight) (M.ofInt kind 0) = true) {n : Nat} {body : List Stmt}
    {s s' : RunState M}
    (hbind : Program.bindParams (Host.loopFunction Combination.kernelName
      (Combination.arguments type n) body).params
        (count :: .pointer target (.address a) :: .float given weight :: rest) s = .ok ((), s')) :
    ∃ own, s' = ⟨s.memory, own ++ s.locals⟩ ∧ Overwrites kind own := by
  rw [params_combination] at hbind
  obtain ⟨count', -, hbind⟩ := bindParams_cons_eq_ok hbind
  obtain ⟨result, hresult, hbind⟩ := bindParams_cons_eq_ok hbind
  obtain ⟨factor, hfactor, hbind⟩ := bindParams_cons_eq_ok hbind
  obtain ⟨added, rfl, hadded⟩ := exists_of_bindParams hbind
  obtain rfl : Value.pointer type.cType (.address a) = result := Except.ok.inj hresult
  rw [hkind] at hfactor
  obtain rfl : Value.float kind (M.convert kind weight) = factor := Except.ok.inj hfactor
  let first : List (Local M) := [⟨"beta", type.cType, .float kind (M.convert kind weight)⟩,
    ⟨"y", elementPointer type .inOut, .pointer type.cType (.address a)⟩, ⟨"_nx", .int .int, count'⟩]
  have hscalar : type.cType.isScalar = true := by cases type <;> rfl
  have hfirst : Overwrites kind first :=
    ⟨⟨type.cType, _, hscalar, rfl, hzero⟩, _, _, a, rfl, rfl⟩
  have hnames : ∀ v ∈ added, v.name ≠ "beta" ∧ v.name ≠ "y" := by
    intro v hv
    obtain ⟨p, hp, hname⟩ := hadded v hv
    obtain ⟨i, -, hp⟩ := List.mem_flatMap.mp hp
    rw [hname]
    simp only [List.mem_cons, List.not_mem_nil, or_false] at hp
    rcases hp with rfl | rfl
    all_goals exact ⟨(ne_numbered (by decide) (by decide) i).symm,
      (ne_numbered (by decide) (by decide) i).symm⟩
  refine ⟨added ++ first, ?_, hfirst.append added hnames⟩
  rw [List.append_assoc]
  rfl

/-- On every machine, a call of a combination whose result has a factor that is zero is the call of
the function that overwrites the result. -/
theorem enter_combination_of_zero (hkind : type.cType = .float kind)
    (hzero : M.eq (M.convert kind weight) (M.ofInt kind 0) = true) (n : Nat) (s : RunState M) :
    Program.enter (Host.loopFunction Combination.kernelName (Combination.arguments type n)
        (Combination.body type n)) ctx
        (count :: .pointer target (.address a) :: .float given weight :: rest) s =
      Program.enter (Host.loopFunction Combination.kernelName (Combination.arguments type n)
        (overwriting type n)) ctx
        (count :: .pointer target (.address a) :: .float given weight :: rest) s := by
  refine enter_congr fun s' hbind => ?_
  obtain ⟨own, rfl, hown⟩ := exists_overwrites hkind hzero hbind
  have hcounter (i : Nat) : Overwrites kind (counter M "_x" i :: own) := hown.cons (by simp [counter])
  exact execAll_cons_congr (exec_parallelFor_congr (Expr.onlyReads_var "_nx")
    (fun i memory => (hcounter i).keepsLocals rfl n memory)
    fun i memory => (hcounter i).exec_body rfl n memory)

end Calls

end Elementwise

end KernelForge
