import KernelForge.Proofs.Code.Printing
import KernelForge.Template.Builtin

/-!
# The bodies of the built-in kernels are read back

The bodies of the built-in kernels are readable for all their parameters. What a built-in template
writes as a body is therefore the text of a tree that is read back from it, at every level of
indentation: the text and the tree say the same.
-/

namespace KernelForge.Builtin

open Code Compiler

variable {names : TypeNames}

/-- How tightly an expression binds is computed. -/
theorem tight {e : Expr} {n : Nat} (h : Nat.ble n e.level = true) : n ≤ e.level :=
  Nat.le_of_ble_eq_true h

/-! ### Words -/

/-- The words for keywords and types in the modules of the built-in kernels. -/
def reservedWords : List String := keywords ++ basicTypes.map (·.1) ++ [floatTypeAlias, "gemm_t"]

/-- A module names its types as the built-in ones do. -/
def Usual (names : TypeNames) : Prop := ∀ p ∈ names, p.2 ∈ [floatTypeAlias, "gemm_t"]

/-- The modules of linear combinations do. -/
theorem usual_module (floatType : ElementType) : Usual (moduleTypeNames floatType) := by
  simp [Usual, moduleTypeNames]

/-- So does one that names no types. -/
theorem usual_nil : Usual [] := by simp [Usual]

/-- And so does the module of the product. -/
theorem usual_product : Usual Product.typeNames := by simp [Usual, Product.typeNames]

/-- The words of numbered operands are plain and not reserved. -/
theorem numbered_plain {letter : String} (hletter : letter ∈ ["x", "a"]) {i : Nat}
    (hi : i < twoPow 64) :
    isPlainName (numbered letter i) ∧ numbered letter i ∉ reservedWords := by
  obtain ⟨c, digits, hlist, hdigits⟩ := toList_toString i
  have hlength : (toString i).toList.length ≤ 20 := by
    rw [String.length_toList]
    exact (Nat.length_repr_le_iff (by decide)).mpr (hi.trans (by decide))
  obtain ⟨l, hl, halpha⟩ : ∃ l, letter.toList = [l] ∧ l.isAlpha := by
    simp only [List.mem_cons, List.not_mem_nil, or_false] at hletter
    rcases hletter with rfl | rfl <;> exact ⟨_, rfl, by decide⟩
  have hnumbered : (numbered letter i).toList = l :: c :: digits := by
    rw [numbered, String.toList_append, hl, hlist]
    rfl
  constructor
  · refine isPlainName_iff.mpr ⟨l, c :: digits, hnumbered, .inl halpha, ?_, ?_⟩
    · exact fun d hd => isPlain_of_isDigit (hdigits d hd)
    · rw [← hlist]
      exact hlength.trans (by decide)
  · -- No reserved word ends with a digit.
    have hno : ∀ word ∈ reservedWords, word.toList.getLast?.any Char.isDigit = false := by decide
    intro hmem
    have hlast := hno _ hmem
    rw [hnumbered, List.getLast?_cons_cons, List.getLast?_eq_some_getLast (by simp), Option.any_some,
      hdigits _ (List.getLast_mem _)] at hlast
    cases hlast

namespace Usual

/-- Other plain words are left for variables and functions. -/
theorem free (h : Usual names) (text : String) (htext : isPlainName text ∧ text ∉ reservedWords) :
    names.IsFree text := by
  obtain ⟨hplain, hreserved⟩ := htext
  simp only [reservedWords, List.mem_append, not_or] at hreserved
  refine .of_ne hplain hreserved.1.1 hreserved.1.2 fun hmem => ?_
  obtain ⟨p, hp, rfl⟩ := List.mem_map.mp hmem
  exact hreserved.2 (h p hp)

/-- A variable of such a word can be read back. -/
theorem var (h : Usual names) (text : String) (htext : isPlainName text ∧ text ∉ reservedWords) :
    (Expr.var text).Readable names :=
  .var (h.free text htext)

/-- So can an element of a matrix of such a name. -/
theorem element (h : Usual names) (text : String) (htext : isPlainName text ∧ text ∉ reservedWords) :
    (elementOf text).Readable names :=
  .index (h.var text htext) (h.var "_x" (by decide)) (tight rfl)

/-- A module that has no name of its own for integers writes them by theirs. -/
theorem spells_int (h : Usual names) (hlookup : names.lookup (.int .int) = none) :
    names.Spells (.int .int) := by
  have hspelling : (CType.int .int).spelling names = "int" := by
    rw [CType.spelling, hlookup]
    rfl
  have hfind : names.find? (·.2 = "int") = none := by
    rw [List.find?_eq_none]
    intro p hp heq
    have hp' := h p hp
    rw [of_decide_eq_true heq] at hp'
    exact absurd hp' (by decide)
  refine ⟨⟨by rw [hspelling]; decide, by rw [hspelling]; decide⟩, ?_⟩
  rw [hspelling, TypeNames.type?, hfind]
  rfl

end Usual

/-! ### Bodies -/

namespace Combination

/-- A sum of scaled operands can be read back, and binds like an addition: the next operand adds to
all of it. -/
theorem sum_readable (h : Usual names) {n : Nat} (hn : n ≤ twoPow 64) :
    (sum n).Readable names ∧ 11 ≤ (sum n).level := by
  induction n with
  | zero => exact ⟨.intLit 0, by decide⟩
  | succ n ih =>
    obtain ⟨hsum, hlevel⟩ := ih (Nat.le_of_succ_le hn)
    have hstep : sum (n + 1) = .binary .add (sum n)
        (.binary .mul (.var (numbered "a" n)) (elementOf (numbered "x" n))) := by
      simp [sum, List.range_succ]
    have hproduct :
        (Expr.binary .mul (.var (numbered "a" n)) (elementOf (numbered "x" n))).Readable names :=
      .binary (h.var _ (numbered_plain (by decide) hn)) (h.element _ (numbered_plain (by decide) hn))
        (tight rfl) (tight rfl)
    rw [hstep]
    exact ⟨.binary hsum hproduct hlevel (tight rfl), Nat.le_refl 11⟩

/-- The body of a linear combination, for every number of operands. -/
theorem body_readable (floatType : ElementType) {n : Nat} (hn : n ≤ twoPow 64) :
    ∀ s ∈ body floatType n, s.Readable (moduleTypeNames floatType) := by
  have h := usual_module floatType
  have htype : (moduleTypeNames floatType).Spells floatType.cType := by
    have hspelling : floatType.cType.spelling (moduleTypeNames floatType) = floatTypeAlias := by
      rw [CType.spelling.eq_def, moduleTypeNames, List.lookup_cons_self]
    refine ⟨⟨by rw [hspelling]; decide, by rw [hspelling]; decide⟩, ?_⟩
    rw [hspelling]
    simp [TypeNames.type?, moduleTypeNames]
  have haxn := h.var "axn" (by decide)
  have hbeta := h.var "beta" (by decide)
  have hy := h.element "y" (by decide)
  have hold : (Expr.binary .mul (.var "beta") (elementOf "y")).Readable _ :=
    .binary hbeta hy (tight rfl) (tight rfl)
  have htest : (Expr.paren (.binary .eq (.var "beta") (intLit 0))).Readable _ :=
    .paren (.binary hbeta (.intLit 0) (tight rfl) (tight rfl))
  have hnew : (Expr.binary .add (.binary .mul (.var "beta") (elementOf "y")) (.var "axn")).Readable _ :=
    .binary hold haxn (tight rfl) (tight rfl)
  refine List.forall_mem_cons.mpr ⟨.declare htype ?_, List.forall_mem_cons.mpr ⟨.expr ?_, by simp⟩⟩
  · exact List.forall_mem_singleton.mpr ⟨h.free "axn" (by decide), rfl, rfl,
      fun e he => Option.some.inj he ▸ (sum_readable h hn).1⟩
  · exact .assign hy (.cond htest haxn hnew (tight rfl) (tight rfl))
      (tight rfl)

end Combination

/-- The body of a copy. -/
theorem Copy.body_readable : ∀ s ∈ Copy.body, s.Readable [] :=
  List.forall_mem_singleton.mpr (.expr (.assign (usual_nil.element "dst" (by decide))
    (usual_nil.element "src" (by decide)) (tight rfl)))

namespace Packing

/-- A counted loop can be read back with its statement. -/
theorem countedLoop_readable {index : String} (hindex : isPlainName index ∧ index ∉ reservedWords)
    (bound : Nat) {statement : Stmt} (h : statement.Readable []) :
    (countedLoop index bound statement).Readable [] := by
  have hvar := usual_nil.var index hindex
  have hinit : (Stmt.declare [⟨index, .int .int, false, some (intLit 0)⟩]).Readable [] :=
    .declare (usual_nil.spells_int rfl) (List.forall_mem_singleton.mpr
      ⟨usual_nil.free index hindex, rfl, rfl, fun e he => Option.some.inj he ▸ .intLit 0⟩)
  exact .for hinit (.binary hvar (.intLit bound) (tight rfl) (tight rfl))
    (.count hvar (tight rfl)) h

/-- Both sides of a copy between a block and its column can be read back. -/
theorem elements_readable (columns : Nat) :
    viewElement.Readable [] ∧ (exchangeElement columns).Readable [] := by
  have hr := usual_nil.var "r" (by decide)
  have hc := usual_nil.var "c" (by decide)
  have hx := usual_nil.var "_x" (by decide)
  have hm := usual_nil.var "m" (by decide)
  have hldm := usual_nil.var "ldm" (by decide)
  have hrow : (Expr.binary .mul (.var "r") (elementOf "v_vstri")).Readable [] :=
    .binary hr (usual_nil.element _ (by decide)) (tight rfl) (tight rfl)
  have hflat : (Expr.binary .add (.binary .mul (.var "r") (intLit columns)) (.var "c")).Readable [] :=
    .binary (.binary hr (.intLit columns) (tight rfl) (tight rfl)) hc
      (tight rfl) (tight rfl)
  constructor
  · exact .index (usual_nil.element _ (by decide))
      (.binary hrow hc (tight rfl) (tight rfl)) (tight rfl)
  · exact .index hm (.binary (.binary (.paren hflat) hldm (tight rfl)
      (tight rfl)) hx (tight rfl) (tight rfl))
      (tight rfl)

/-- The bodies of packing and unpacking, for every number of rows and columns. -/
theorem bodies_readable (rows columns : Nat) :
    (∀ s ∈ packBody rows columns, s.Readable []) ∧ ∀ s ∈ unpackBody rows columns, s.Readable [] := by
  have hloops {statement : Stmt} (h : statement.Readable []) :
      ∀ s ∈ blockLoop rows columns statement, s.Readable [] :=
    List.forall_mem_singleton.mpr
      (countedLoop_readable (by decide) rows (countedLoop_readable (by decide) columns h))
  obtain ⟨hview, hexchange⟩ := elements_readable columns
  exact ⟨hloops (.expr (.assign hexchange hview (tight rfl))),
    hloops (.expr (.assign hview hexchange (tight rfl)))⟩

end Packing

namespace Product

/-- The body of the function that shares out the columns. -/
theorem partitionBody_readable : ∀ s ∈ partitionBody, s.Readable [] := by
  have hint := usual_nil.spells_int rfl
  have hn := usual_nil.var "n" (by decide)
  have hnth := usual_nil.var "nth" (by decide)
  have htid := usual_nil.var "tid" (by decide)
  have hchunk := usual_nil.var "chunk" (by decide)
  have hbegin := Expr.Readable.deref (usual_nil.var "begin" (by decide)) (tight rfl)
  have hend := Expr.Readable.deref (usual_nil.var "end" (by decide)) (tight rfl)
  have hcall {name : String} (hname : isPlainName name ∧ name ∉ reservedWords) :
      (Expr.call (.var name) []).Readable [] :=
    .call (usual_nil.var _ hname) (by simp) (tight rfl)
  have hsum : (Expr.binary .sub (.binary .add (.var "n") (.var "nth")) (intLit 1)).Readable [] :=
    .binary (.binary hn hnth (tight rfl) (tight rfl)) (.intLit 1) (tight rfl) (tight rfl)
  have hquotient : (Expr.binary .div (.paren (.binary .sub (.binary .add (.var "n") (.var "nth"))
      (intLit 1))) (.var "nth")).Readable [] := .binary (.paren hsum) hnth (tight rfl) (tight rfl)
  have hstart : (Expr.binary .mul (.var "tid") (.var "chunk")).Readable [] :=
    .binary htid hchunk (tight rfl) (tight rfl)
  have hstop : (Expr.binary .add (.deref (.var "begin")) (.var "chunk")).Readable [] :=
    .binary hbegin hchunk (tight rfl) (tight rfl)
  have hvariable {name : String} (hname : isPlainName name ∧ name ∉ reservedWords) {e : Expr}
      (he : e.Readable []) : (⟨name, .int .int, false, some e⟩ : Code.Variable).Readable [] (.int .int) :=
    ⟨usual_nil.free _ hname, rfl, rfl, fun _ h => Option.some.inj h ▸ he⟩
  simp only [partitionBody, List.forall_mem_cons, List.not_mem_nil, false_implies, implies_true, and_true]
  refine ⟨.declare hint ?_, .declare hint ?_, .expr ?_, .expr ?_⟩
  · exact List.forall_mem_cons.mpr ⟨hvariable (by decide) (hcall (by decide)),
      List.forall_mem_singleton.mpr (hvariable (by decide) (hcall (by decide)))⟩
  · exact List.forall_mem_singleton.mpr (hvariable (by decide) hquotient)
  · have htest : (Expr.binary .lt (.binary .mul (.var "tid") (.var "chunk")) (.var "n")).Readable [] :=
      .binary hstart hn (tight rfl) (tight rfl)
    exact .assign hbegin (.cond htest hstart hn (tight rfl) (tight rfl)) (tight rfl)
  · have htest : (Expr.binary .lt (.binary .add (.deref (.var "begin")) (.var "chunk"))
        (.var "n")).Readable [] := .binary hstop hn (tight rfl) (tight rfl)
    exact .assign hend (.cond htest hstop hn (tight rfl) (tight rfl)) (tight rfl)

/-- The call of the routine with the operands of one thread. -/
theorem blockCall_readable : blockCall.Readable typeNames := by
  have h (name : String) (hname : isPlainName name ∧ name ∉ reservedWords) :
      (Expr.var name).Readable typeNames := usual_product.var name hname
  refine .call (h _ (by decide)) ?_ (tight rfl)
  have hoffset (name : String) (hname : isPlainName name ∧ name ∉ reservedWords) :
      (Expr.binary .add (.var name) (.var "begin")).Readable typeNames :=
    .binary (h name hname) (h "begin" (by decide)) (tight rfl) (tight rfl)
  simp only [List.forall_mem_cons, List.not_mem_nil, false_implies, implies_true, and_true]
  -- The operands `b` and `c` are moved to the first column of the thread.
  exact ⟨.intLit _, .intLit _, .intLit _, h _ (by decide),
    .binary (h _ (by decide)) (h _ (by decide)) (tight rfl) (tight rfl), h _ (by decide), h _ (by decide),
    h _ (by decide), h _ (by decide), hoffset _ (by decide), h _ (by decide), h _ (by decide),
    hoffset _ (by decide), h _ (by decide)⟩

/-- The body of a product. -/
theorem body_readable : ∀ s ∈ body, s.Readable typeNames := by
  have hint := usual_product.spells_int rfl
  have hroutine : typeNames.Spells routine := ⟨⟨by decide, by decide⟩, by decide⟩
  have hbegin := usual_product.var "begin" (by decide)
  have hend := usual_product.var "end" (by decide)
  have hbounds : (Expr.call (.var partitionName)
      [.var "N", .addressOf (.var "begin"), .addressOf (.var "end")]).Readable typeNames := by
    refine .call (usual_product.var _ (by decide)) ?_ (tight rfl)
    simp only [List.forall_mem_cons, List.not_mem_nil, false_implies, implies_true, and_true]
    exact ⟨usual_product.var _ (by decide), .addressOf hbegin (tight rfl), .addressOf hend (tight rfl)⟩
  have hthread : ∀ s ∈ threadBody, s.Readable typeNames := by
    simp only [threadBody, List.forall_mem_cons, List.not_mem_nil, false_implies, implies_true, and_true]
    refine ⟨.declare hint ?_, .expr hbounds, .ifElse ?_ (.expr blockCall_readable)⟩
    · simp only [List.forall_mem_cons, List.not_mem_nil, false_implies, implies_true, and_true]
      exact ⟨⟨usual_product.free _ (by decide), rfl, rfl, by simp⟩,
        ⟨usual_product.free _ (by decide), rfl, rfl, by simp⟩⟩
    · exact .binary hbegin hend (tight rfl) (tight rfl)
  have hfn : (Expr.cast routine (.var "gemm")).Readable typeNames :=
    .cast hroutine (usual_product.var _ (by decide)) (tight rfl)
  simp only [body, List.forall_mem_cons, List.not_mem_nil, false_implies, implies_true, and_true]
  exact ⟨.declare hroutine (List.forall_mem_singleton.mpr
    ⟨usual_product.free _ (by decide), rfl, rfl, fun _ h => Option.some.inj h ▸ hfn⟩),
    .parallel (.block hthread)⟩

end Product

/-! ### Texts -/

/-- A text is printed from a tree that is read back from it, at every level of indentation. -/
def IsBodyText (text : String) : Prop :=
  ∃ names body, text = bodyText names body ∧ ∀ depth rules trigraphs,
    readBody names rules trigraphs (Text.indent depth text) = some body

/-- The text of a readable body. -/
theorem isBodyText {body : List Stmt} (h : ∀ s ∈ body, s.Readable names) :
    IsBodyText (bodyText names body) :=
  ⟨names, body, rfl, readBody_indent h⟩

/-- A number of operands or rows has a place in 64 bits. -/
theorem count_le {params : Params} {name : String} {n : Nat} (h : params.count name = .ok n) :
    n ≤ twoPow 64 := by
  unfold Params.count at h
  cases hvalue : params.int name with
  | error error =>
    rw [hvalue] at h
    cases h
  | ok value =>
    rw [hvalue] at h
    simp only [bind, Except.bind] at h
    split at h
    · have hbound := value.toInt_lt
      obtain rfl := Except.ok.inj h
      have hpow : twoPow 64 = 18446744073709551616 := by decide
      omega
    · cases h

end KernelForge.Builtin

namespace KernelForge.Script

open Builtin

/-- A property of all bodies of functions and kernels in a script. -/
def Bodies (P : String → Prop) : Script → Prop
  | done => True
  | fail _ => True
  | emit _ next => next.Bodies P
  | function _ _ _ body next => P body ∧ next.Bodies P
  | kernel _ _ _ body next => P body ∧ ∀ refusal, (next refusal).Bodies P

/-- A kernel on its own has one body, whether it is refused or not. -/
theorem Bodies.declare {P : String → Prop} {name body : String} {ndim : UInt64} {args : List Argument}
    (h : P body) : (Script.declare name ndim args body).Bodies P := by
  refine ⟨h, fun refusal => ?_⟩
  cases refusal <;> trivial

/-- A value that cannot be had ends the script with no body. -/
theorem Bodies.withValue {P : String → Prop} {α : Type} {value : Except TemplateError α}
    {next : α → Script} (h : ∀ a, value = .ok a → (next a).Bodies P) :
    (Script.withValue value next).Bodies P := by
  cases value with
  | ok a => exact h a rfl
  | error error => trivial

end KernelForge.Script

namespace KernelForge.Builtin

/-- Every body that a built-in template writes is read back from its text, whatever the module, the
target and the parameters are. -/
theorem templates_write_bodies : ∀ entry ∈ templates, ∀ (setting : Setting) (params : Params),
    (entry.2.script setting params).Bodies IsBodyText := by
  intro entry hentry setting params
  simp only [templates, List.mem_cons, List.not_mem_nil, or_false] at hentry
  rcases hentry with rfl | rfl | rfl | rfl | rfl
  · exact .withValue fun n hn => .declare (isBodyText (Combination.body_readable _ (count_le hn)))
  · exact .declare (isBodyText Copy.body_readable)
  · exact .withValue fun columns _ => .withValue fun rows _ =>
      .declare (isBodyText (Packing.bodies_readable rows columns).1)
  · exact .withValue fun columns _ => .withValue fun rows _ =>
      .declare (isBodyText (Packing.bodies_readable rows columns).2)
  · simp only [Product.template]
    split
    · exact ⟨isBodyText Product.partitionBody_readable, .declare (isBodyText Product.body_readable)⟩
    · trivial

end KernelForge.Builtin
