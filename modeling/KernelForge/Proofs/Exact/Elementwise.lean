import KernelForge.Proofs.Code.Calling
import KernelForge.Proofs.Elementwise.Covering
import KernelForge.Proofs.Exact.Machine
import Mathlib.Data.List.Nodup

/-!
# Element-wise kernels on exact numbers

On exact numbers a copy puts every element of its source at the same place of its target, and a linear
combination puts the weighted sum of the elements of its terms, and of the old element unless its
factor is zero, there. Both go through all elements of their layout, padding included, in the order in
which the iterations run.
-/

namespace KernelForge

open Code Builtin

/-! ### Lists piece by piece -/

/-- Lists of pieces of equal lengths are put together piece by piece. -/
theorem zipWith_flatMap {α β γ δ ε : Type} {f : α → List γ} {g : β → List δ} (h : γ → δ → ε)
    {as : List α} {bs : List β}
    (hlength : ∀ entry ∈ as.zip bs, (f entry.1).length = (g entry.2).length) :
    List.zipWith h (as.flatMap f) (bs.flatMap g) =
      (as.zip bs).flatMap fun entry => List.zipWith h (f entry.1) (g entry.2) := by
  induction as generalizing bs with
  | nil => rfl
  | cons a as ih =>
    cases bs with
    | nil => rw [List.flatMap_nil, List.zipWith_nil_right, List.zip_nil_right, List.flatMap_nil]
    | cons b bs =>
      rw [List.flatMap_cons, List.flatMap_cons, List.zip_cons_cons, List.flatMap_cons,
        List.zipWith_append (hlength (a, b) List.mem_cons_self),
        ih fun entry hentry => hlength entry (List.mem_cons_of_mem _ hentry)]

/-- An entry of a list whose keys differ is found by its key. -/
theorem find?_of_nodup {α : Type} {key : α → String} {list : List α} {a : α}
    (hnodup : (list.map key).Nodup) (ha : a ∈ list) : list.find? (key · = key a) = some a := by
  induction list with
  | nil => cases ha
  | cons first rest ih =>
    obtain ⟨hnotMem, hrest⟩ := List.nodup_cons.mp hnodup
    rcases List.mem_cons.mp ha with rfl | ha
    · exact List.find?_cons_of_pos (decide_eq_true rfl)
    · have hne : key first ≠ key a := fun heq => hnotMem (heq ▸ List.mem_map_of_mem ha)
      rw [List.find?_cons_of_neg (by simpa using hne)]
      exact ih hrest ha

/-! ### Kernels over one dimension -/

variable {R : Type} [Ring R] {reading : Reading R}

/-- The count of a kernel is passed as it is. -/
theorem Host.exactArgument_count {n : UInt64} (hn : n.toNat < twoPow 31) :
    exactArgument reading (.int .int) (SlotValue.ofCount n) = .int .int n.toNat := by
  rw [SlotValue.ofCount, exactArgument_int32, Int32.toInt_ofNat_of_lt hn]

variable [DecidableEq R] {order : Nat → List Nat} {limit : Nat}

/-- A kernel over one dimension whose body puts a number for every index leaves all of them. -/
theorem Host.runExact_eq_putAll {name : String} {args : List Argument} {body : List Stmt}
    {slots : List SlotValue} {values : List (Value fun _ => R)}
    {locals : List (Local (exactMachine R order 1))} {n : Nat} {target : Nat → Nat}
    {value : Nat → ExactMemory R → R} {m : ExactMemory R}
    (hslots : List.zipWith (exactArgument reading) (paramTypes 1 args) slots = values)
    (hvalues : List.Forall₂ (fun p v => Value.convert (M := exactMachine R order 1) p.type v = .ok v)
      (loopFunction name args body).params values)
    (hlocals : boundLocals (loopFunction name args body).params values = locals)
    (hcount : locals.find? (·.name = "_nx") = some ⟨"_nx", .int .int, .int .int n⟩)
    (horder : (order n).Perm (List.range n))
    (hbody : ∀ i < n, ∀ now : ExactMemory R, now.memory = m.memory →
      (Stmt.block body).exec (exactContext R order limit)
          ⟨now, counter (exactMachine R order 1) "_x" i :: locals⟩ =
        .ok (.next, ⟨now.put (target i) (value i now), counter _ "_x" i :: locals⟩)) :
    runExact reading order limit name args body slots m =
      .ok (m.putAll target value (order n)) := by
  let step (i : Nat) (now : ExactMemory R) : Option (ExactMemory R) :=
    some (now.put (target i) (value i now))
  have hperforms : ∀ i ∈ order n, (Stmt.block body).Performs (exactContext R order limit)
      (counter _ "_x" i :: locals) (fun now : ExactMemory R => now.memory = m.memory) (step i) :=
    fun i hi now hnow => ⟨_, rfl, hnow, hbody i (List.mem_range.mp (horder.mem_iff.mp hi)) now hnow⟩
  have hbound : ∀ now : ExactMemory R, now.memory = m.memory →
      (Expr.var "_nx").Counts (exactContext R order limit) ⟨now, locals⟩ n := by
    intro now _
    refine .var (x := ⟨"_nx", .int .int, .int .int n⟩) ?_ rfl rfl
    rw [visible_all rfl]
    exact hcount
  obtain ⟨m', hsteps, -, henter⟩ := @enter_of_performs (exactMachine R order 1) m locals
    (loopFunction name args body) _ (exactContext R order limit) values _ _ rfl hvalues hlocals
    (.parallelFor hbound hperforms) rfl
  have hfold : (order n).foldlM (fun now i => step i now) m =
      some (m.putAll target value (order n)) := List.foldlM_pure ..
  cases hfold.symm.trans hsteps
  exact runExact_of_enter hslots henter

/-! ### Elements of operands -/

/-- The elements of a matrix that is covered by a count are there in memory. -/
theorem Matrix.CoveredBy.exists_peek {m : Matrix} {type : ElementType} {count : Nat}
    (h : m.CoveredBy type count) {memory : Memory} (hmemory : memory.WellFormed)
    (hheld : memory.Holds m.storage) {x : Nat} (hx : x < count) :
    ∃ bytes, memory.peek (m.address.toNat + x * type.bytes) type.bytes = some bytes :=
  ⟨_, hmemory.peek_of_covers hheld (h.inside x hx) type.bytes_pos⟩

/-- The element of an operand with the number of the iteration. -/
theorem isElement_elementOf {ctx : Context (exactMachine R order 1)}
    {s : RunState (exactMachine R order 1)} {name : String} {kind : FloatKind} {base x : Nat}
    (hpointer : (Expr.var name).Points ctx s (.float kind) base)
    (hindex : (Expr.var "_x").Counts ctx s x) :
    (elementOf name).IsElement ctx s kind (base + x * kind.bytes) :=
  ⟨_, _, _, _, rfl, hpointer, hindex, by push_cast; rfl⟩

namespace Elementwise

variable {type : ElementType} {kind : FloatKind} {n : UInt64} {m : ExactMemory R}

/-! ### Copies -/

/-- The local variables of a copy in an iteration. -/
def copyLocals (kind : FloatKind) (type : ElementType) (n : Nat) (target source : Matrix) :
    List (Local (exactMachine R order 1)) :=
  [⟨"src", elementPointer type .input, .pointer (.float kind) (.address source.address.toNat)⟩,
    ⟨"dst", elementPointer type .output, .pointer (.float kind) (.address target.address.toNat)⟩,
    ⟨"_nx", .int .int, .int .int n⟩]

/-- A copy puts the elements of the source at the places of those of the target. -/
theorem runExact_copy {target source : Matrix} (hkind : type.cType = .float kind)
    (hbytes : type.bytes = kind.bytes) (hn : n.toNat < twoPow 31)
    (horder : (order n.toNat).Perm (List.range n.toNat)) (hmemory : m.memory.WellFormed)
    (htarget : target.CoveredBy type n.toNat) (hsource : source.CoveredBy type n.toNat)
    (hheld : m.memory.Holds target.storage ∧ m.memory.Holds source.storage) :
    Host.runExact reading order limit Copy.kernelName (Copy.arguments type) Copy.body
        (copyValues n target source) m =
      .ok (m.putAll (fun x => target.address.toNat + x * type.bytes)
        (fun x now => now.numbers (source.address.toNat + x * type.bytes)) (order n.toNat)) := by
  have hslots : List.zipWith (Host.exactArgument reading) (paramTypes 1 (Copy.arguments type))
      (copyValues n target source) =
        [.int .int n.toNat, .pointer (.float kind) (.address target.address.toNat),
          .pointer (.float kind) (.address source.address.toNat)] := by
    change [Host.exactArgument reading (.int .int) _, Host.exactArgument reading (.pointer _ _) _,
      Host.exactArgument reading (.pointer _ _) _] = _
    simp only [Host.exactArgument_count hn, Host.exactArgument_pointer, hkind]
  have hlocals : boundLocals (M := exactMachine R order 1)
      (Host.loopFunction Copy.kernelName (Copy.arguments type) Copy.body).params
      [.int .int n.toNat, .pointer (.float kind) (.address target.address.toNat),
        .pointer (.float kind) (.address source.address.toNat)] =
          copyLocals kind type n.toNat target source := rfl
  refine Host.runExact_eq_putAll hslots (.cons rfl (.cons ?_ (.cons ?_ .nil))) hlocals rfl horder
    fun x hx now hnow => ?_
  · exact congrArg (fun t => Except.ok (Value.pointer t _)) hkind
  · exact congrArg (fun t => Except.ok (Value.pointer t _)) hkind
  · let s : RunState (exactMachine R order 1) :=
      ⟨now, counter _ "_x" x :: copyLocals kind type n.toNat target source⟩
    have hvisible : s.visible (Host.exactContext R order limit) = s.locals := visible_all rfl
    have hindex : (Expr.var "_x").Counts (Host.exactContext R order limit) s x := by
      refine .var (x := counter _ "_x" x) ?_ rfl rfl
      rw [hvisible]
      rfl
    have hdst : (Expr.var "dst").Points (Host.exactContext R order limit) s (.float kind)
        target.address.toNat := by
      refine .var (x := ⟨"dst", elementPointer type .output, _⟩) ?_ rfl rfl
      rw [hvisible]
      rfl
    have hsrc : (Expr.var "src").Points (Host.exactContext R order limit) s (.float kind)
        source.address.toNat := by
      refine .var (x := ⟨"src", elementPointer type .input, _⟩) ?_ rfl rfl
      rw [hvisible]
      rfl
    obtain ⟨_, hto⟩ := htarget.exists_peek hmemory hheld.1 hx
    obtain ⟨_, hfrom⟩ := hsource.exists_peek hmemory hheld.2 hx
    rw [← hnow, hbytes] at hto hfrom
    have hvalue := Expr.Equals.element (isElement_elementOf hsrc hindex) hfrom
    have hassign := exec_assign_element (isElement_elementOf hdst hindex) hto hvalue
    rw [hbytes, Stmt.exec]
    exact inScope_of_ok ((execAll_cons hassign).trans execAll_nil) (List.suffix_refl _)

/-! ### Linear combinations -/

/-- The sum of the elements of matrices, each multiplied by its factor. -/
def total (width : Nat) (terms : List (Matrix × R)) (x : Nat) (m : ExactMemory R) : R :=
  terms.foldl (fun sum term => sum + term.2 * m.numbers (term.1.address.toNat + x * width)) 0

/-- The new element of the result: the old one only counts if its factor is not zero. -/
def combined (width : Nat) (y : Matrix) (weight : R) (terms : List (Matrix × R)) (x : Nat)
    (m : ExactMemory R) : R :=
  if weight = 0 then total width terms x m
  else weight * m.numbers (y.address.toNat + x * width) + total width terms x m

/-- The parameters of a combination get these values. -/
def combinationArguments (kind : FloatKind) (n : Nat) (y : Matrix) (weight : R)
    (terms : List (Matrix × R)) : List (Value fun _ => R) :=
  .int .int n :: .pointer (.float kind) (.address y.address.toNat) :: .float kind weight ::
    terms.flatMap fun term =>
      [.pointer (.float kind) (.address term.1.address.toNat), .float kind term.2]

/-- The local variables of a combination, the first one first. -/
def combinationLocals (type : ElementType) (kind : FloatKind) (n : Nat) (y : Matrix) (weight : R)
    (terms : List (Matrix × R)) : List (Local (exactMachine R order 1)) :=
  ⟨"_nx", .int .int, .int .int n⟩ ::
    ⟨"y", elementPointer type .inOut, .pointer (.float kind) (.address y.address.toNat)⟩ ::
    ⟨"beta", type.cType, .float kind weight⟩ ::
    ((List.range terms.length).zip terms).flatMap fun entry =>
      [⟨numbered "x" entry.1, elementPointer type .input,
          .pointer (.float kind) (.address entry.2.1.address.toNat)⟩,
        ⟨numbered "a" entry.1, type.cType, .float kind entry.2.2⟩]

/-- The parameters of a kernel over one dimension, argument by argument. -/
theorem params_loopFunction (name : String) (args : List Argument) (body : List Stmt) :
    (Host.loopFunction name args body).params =
      ⟨"_nx", .int .int, false⟩ :: args.flatMap fun arg =>
        List.zipWith (fun p type => ⟨p.name, type, false⟩) (SourceParameter.ofArgument arg)
          arg.paramTypes := by
  refine congrArg (List.cons _) ?_
  change List.zipWith _ (args.flatMap SourceParameter.ofArgument)
    (args.flatMap Argument.paramTypes) = _
  induction args with
  | nil => rfl
  | cons arg args ih =>
    rw [List.flatMap_cons, List.flatMap_cons, List.flatMap_cons, ← ih,
      List.zipWith_append (SourceParameter.ofArgument_hasType arg).length_eq]

section Combination

variable (order) (kind) (n) (y : Matrix) (weight : R) (terms : List (Matrix × R))

/-- The parameters of a combination. -/
theorem params_combination (count : Nat) (body : List Stmt) :
    (Host.loopFunction Combination.kernelName (Combination.arguments type count) body).params =
      ⟨"_nx", .int .int, false⟩ :: ⟨"y", elementPointer type .inOut, false⟩ ::
        ⟨"beta", type.cType, false⟩ :: (List.range count).flatMap fun i =>
          [⟨numbered "x" i, elementPointer type .input, false⟩,
            ⟨numbered "a" i, type.cType, false⟩] := by
  rw [params_loopFunction, Combination.arguments, List.flatMap_cons, List.flatMap_cons,
    List.flatMap_assoc]
  rfl

omit [DecidableEq R] in
/-- A combination gets its arguments from the values of its slots. -/
theorem exactArguments_combination (hkind : type.cType = .float kind) (hn : n.toNat < twoPow 31)
    (s : Scalar) (xs : List (Matrix × Scalar)) :
    List.zipWith (Host.exactArgument reading)
        (paramTypes 1 (Combination.arguments type xs.length)) (combinationValues type n y s xs) =
      combinationArguments kind n.toNat y (reading.factor kind (s.cast type))
        (xs.map fun x => (x.1, reading.factor kind (x.2.cast type))) := by
  have htypes : paramTypes 1 (Combination.arguments type xs.length) =
      .int .int :: elementPointer type .inOut :: type.cType ::
        (List.range xs.length).flatMap fun _ => [elementPointer type .input, type.cType] := by
    change .int .int :: elementPointer type .inOut :: type.cType ::
      ((List.range xs.length).flatMap _).flatMap Argument.paramTypes = _
    rw [List.flatMap_assoc]
    rfl
  have hterms : (List.zipWith (Host.exactArgument reading)
      ((List.range xs.length).flatMap fun _ => [elementPointer type .input, type.cType])
      (xs.flatMap fun x => [.pointer x.1.address, .scalar (x.2.cast type)])) =
        xs.flatMap fun x => [.pointer (.float kind) (.address x.1.address.toNat),
          .float kind (reading.factor kind (x.2.cast type))] := by
    rw [zipWith_flatMap _ fun _ _ => rfl]
    have hsnd : ((List.range xs.length).zip xs).map Prod.snd = xs :=
      List.map_snd_zip (Nat.le_of_eq List.length_range.symm)
    conv_rhs => rw [← hsnd, List.flatMap_map]
    refine List.flatMap_congr fun entry _ => ?_
    change [Host.exactArgument reading (.pointer type.cType _) _,
      Host.exactArgument reading type.cType _] = _
    rw [Host.exactArgument_pointer, Host.exactArgument_float reading hkind, hkind]
  rw [htypes, combinationValues, List.zipWith_cons_cons, List.zipWith_cons_cons,
    List.zipWith_cons_cons, hterms, combinationArguments, List.flatMap_map,
    Host.exactArgument_count hn, elementPointer, Host.exactArgument_pointer,
    Host.exactArgument_float reading hkind, hkind]

/-- The arguments of a combination are its local variables. -/
theorem boundLocals_combination (hkind : type.cType = .float kind) (count : Nat) (body : List Stmt) :
    List.Forall₂ (fun p v => Value.convert (M := exactMachine R order 1) p.type v = .ok v)
        (Host.loopFunction Combination.kernelName (Combination.arguments type terms.length)
          body).params (combinationArguments kind count y weight terms) ∧
      boundLocals (M := exactMachine R order 1) (Host.loopFunction Combination.kernelName
          (Combination.arguments type terms.length) body).params
        (combinationArguments kind count y weight terms) =
          (combinationLocals type kind count y weight terms).reverse := by
  have hpointer (intent : Intent) (a : Nat) : Value.convert (M := exactMachine R order 1)
      (elementPointer type intent) (.pointer (.float kind) (.address a)) =
        .ok (.pointer (.float kind) (.address a)) :=
    congrArg (fun t => Except.ok (Value.pointer t _)) hkind
  have hnumber (x : R) : Value.convert (M := exactMachine R order 1) type.cType (.float kind x) =
      .ok (.float kind x) := by
    rw [hkind]
    rfl
  rw [params_combination]
  constructor
  · refine .cons rfl (.cons (hpointer _ _) (.cons (hnumber _) ?_))
    exact List.rel_flatMap (forall₂_range terms) fun i term _ =>
      .cons (hpointer _ _) (.cons (hnumber _) .nil)
  · change (List.zipWith (fun (p : Parameter) (v : Value fun _ => R) =>
      (⟨p.name, p.type, v⟩ : Local (exactMachine R order 1))) _ _).reverse = _
    rw [combinationArguments, combinationLocals, List.zipWith_cons_cons, List.zipWith_cons_cons,
      List.zipWith_cons_cons, zipWith_flatMap _ fun _ _ => rfl]
    rfl

/-- The local variables of a combination have different names. -/
theorem nodup_combinationLocals (count : Nat) :
    ((combinationLocals type kind count y weight terms).map
      (Local.name (M := exactMachine R order 1))).Nodup := by
  have hfst : ((List.range terms.length).zip terms).map Prod.fst = List.range terms.length :=
    List.map_fst_zip (Nat.le_of_eq List.length_range)
  have hterms : (((List.range terms.length).zip terms).flatMap fun entry =>
      [⟨numbered "x" entry.1, elementPointer type .input,
          .pointer (.float kind) (.address entry.2.1.address.toNat)⟩,
        ⟨numbered "a" entry.1, type.cType, .float kind entry.2.2⟩]).map
          (Local.name (M := exactMachine R order 1)) =
      (List.range terms.length).flatMap fun i => [numbered "x" i, numbered "a" i] := by
    conv_rhs => rw [← hfst, List.flatMap_map]
    rw [List.map_flatMap]
    rfl
  have hletter (name : String) (hx : name.toList.head? ≠ some 'x') (ha : name.toList.head? ≠ some 'a') :
      name ∉ (List.range terms.length).flatMap fun i => [numbered "x" i, numbered "a" i] := by
    intro hmem
    obtain ⟨i, -, hi⟩ := List.mem_flatMap.mp hmem
    simp only [List.mem_cons, List.not_mem_nil, or_false] at hi
    exact hi.elim (ne_numbered (by decide) hx i) (ne_numbered (by decide) ha i)
  rw [combinationLocals, List.map_cons, List.map_cons, List.map_cons, hterms]
  change ("_nx" :: "y" :: "beta" :: _).Nodup
  refine List.nodup_cons.mpr ⟨?_, List.nodup_cons.mpr ⟨?_, List.nodup_cons.mpr ⟨?_, ?_⟩⟩⟩
  · simp only [List.mem_cons, not_or]
    exact ⟨by decide, by decide, hletter _ (by decide) (by decide)⟩
  · simp only [List.mem_cons, not_or]
    exact ⟨by decide, hletter _ (by decide) (by decide)⟩
  · exact hletter _ (by decide) (by decide)
  · refine List.nodup_flatMap.mpr ⟨fun i _ => ?_, ?_⟩
    · simp [numbered_ne i i]
    · refine List.nodup_range.imp fun {i j} hne => ?_
      have hx : numbered "x" i ≠ numbered "x" j := fun heq => hne (numbered_inj heq)
      have ha : numbered "a" i ≠ numbered "a" j := fun heq => hne (numbered_inj heq)
      have hxa := numbered_ne j i
      have hax := (numbered_ne i j).symm
      simp [Function.onFun, hx.symm, ha.symm, hxa, hax]

/-- A local variable of a combination is found by its name. -/
theorem find?_reverse_combinationLocals {count : Nat} {v : Local (exactMachine R order 1)}
    (hv : v ∈ combinationLocals type kind count y weight terms) :
    (combinationLocals type kind count y weight terms).reverse.find? (·.name = v.name) = some v := by
  refine find?_of_nodup ?_ (List.mem_reverse.mpr hv)
  rw [List.map_reverse, List.nodup_reverse]
  exact nodup_combinationLocals order kind y weight terms count

/-- A local variable of a combination is seen under its name, if no newer one has the name. -/
theorem find?_visible {count : Nat} {v : Local (exactMachine R order 1)}
    (above : List (Local (exactMachine R order 1)))
    (hv : v ∈ combinationLocals type kind count y weight terms)
    (habove : ∀ newer ∈ above, newer.name ≠ v.name) (now : ExactMemory R) :
    (RunState.visible (M := exactMachine R order 1)
        ⟨now, above ++ (combinationLocals type kind count y weight terms).reverse⟩
        (Host.exactContext R order limit)).find? (·.name = v.name) = some v := by
  rw [visible_all rfl]
  change (above ++ _).find? _ = _
  rw [find?_append_of_ne habove]
  exact find?_reverse_combinationLocals order kind y weight terms hv

/-- The weighted sum of the terms is what the kernel evaluates. -/
theorem amounts_sum {count x : Nat} {now : ExactMemory R} (hkind : type.cType = .float kind)
    (hterms : ∀ term ∈ terms, ∃ bytes,
      now.memory.peek (term.1.address.toNat + x * kind.bytes) kind.bytes = some bytes) :
    (Combination.sum terms.length).Amounts (Host.exactContext R order limit)
      ⟨now, counter (exactMachine R order 1) "_x" x ::
        (combinationLocals type kind count y weight terms).reverse⟩ kind
      (total kind.bytes terms x now) := by
  let s : RunState (exactMachine R order 1) := ⟨now, counter (exactMachine R order 1) "_x" x ::
    (combinationLocals type kind count y weight terms).reverse⟩
  have hindex : (Expr.var "_x").Counts (Host.exactContext R order limit) s x := by
    refine .var (x := counter _ "_x" x) ?_ rfl rfl
    rw [visible_all rfl]
    rfl
  have hterm : ∀ entry ∈ (List.range terms.length).zip terms,
      (Expr.binary .mul (.var (numbered "a" entry.1)) (elementOf (numbered "x" entry.1))).Equals
        (Host.exactContext R order limit) s kind
        (entry.2.2 * now.numbers (entry.2.1.address.toNat + x * kind.bytes)) := by
    intro entry hentry
    have hmem (v : Local (exactMachine R order 1))
        (hv : v ∈ [⟨numbered "x" entry.1, elementPointer type .input,
            .pointer (.float kind) (.address entry.2.1.address.toNat)⟩,
          ⟨numbered "a" entry.1, type.cType, .float kind entry.2.2⟩]) :
        v ∈ combinationLocals type kind count y weight terms :=
      List.mem_cons_of_mem _ (List.mem_cons_of_mem _ (List.mem_cons_of_mem _
        (List.mem_flatMap.mpr ⟨entry, hentry, hv⟩)))
    have hnewer (letter : String) (hletter : letter ≠ "")
        (hhead : "_x".toList.head? ≠ letter.toList.head?) :
        ∀ newer ∈ [counter (exactMachine R order 1) "_x" x], newer.name ≠ numbered letter entry.1 := by
      intro newer hmem
      cases List.mem_singleton.mp hmem
      exact ne_numbered hletter hhead _
    have hfactor : (Expr.var (numbered "a" entry.1)).Equals (Host.exactContext R order limit) s kind
        entry.2.2 :=
      .var (find?_visible order kind y weight terms [counter _ "_x" x]
        (hmem _ (List.mem_cons_of_mem _ List.mem_cons_self)) (hnewer "a" (by decide) (by decide)) now)
        (by rw [hkind]; rfl) rfl
    have hpointer : (Expr.var (numbered "x" entry.1)).Points (Host.exactContext R order limit) s
        (.float kind) entry.2.1.address.toNat :=
      .var (find?_visible order kind y weight terms [counter _ "_x" x]
        (hmem _ List.mem_cons_self) (hnewer "x" (by decide) (by decide)) now) rfl rfl
    obtain ⟨_, hpeek⟩ := hterms _ (List.of_mem_zip hentry).2
    exact hfactor.mul (.element (isElement_elementOf hpointer hindex) hpeek)
  -- The sum is built up term by term, and so is its value.
  have hfold : ∀ (entries : List (Nat × Matrix × R)) (e : Expr) (sum : R),
      (∀ entry ∈ entries, entry ∈ (List.range terms.length).zip terms) →
      e.Amounts (Host.exactContext R order limit) s kind sum →
      (entries.foldl (fun e entry => .binary .add e
          (.binary .mul (.var (numbered "a" entry.1)) (elementOf (numbered "x" entry.1)))) e).Amounts
        (Host.exactContext R order limit) s kind
        (entries.foldl (fun sum entry =>
          sum + entry.2.2 * now.numbers (entry.2.1.address.toNat + x * kind.bytes)) sum) := by
    intro entries
    induction entries with
    | nil => exact fun _ _ _ h => h
    | cons entry rest ih =>
      intro e sum hmem h
      exact ih _ _ (fun other hother => hmem other (List.mem_cons_of_mem _ hother))
        (.inl (h.add (hterm entry (hmem entry List.mem_cons_self))))
  have hfst : ((List.range terms.length).zip terms).map Prod.fst = List.range terms.length :=
    List.map_fst_zip (Nat.le_of_eq List.length_range)
  have hsnd : ((List.range terms.length).zip terms).map Prod.snd = terms :=
    List.map_snd_zip (Nat.le_of_eq List.length_range.symm)
  have hzero : (intLit 0).Amounts (Host.exactContext R order limit) s kind 0 :=
    .inr ⟨0, .literal 0 .int, Int.cast_zero⟩
  have hsum := hfold _ _ _ (fun _ h => h) hzero
  rw [← List.foldl_map (f := Prod.fst) (g := fun e i => Expr.binary .add e
    (.binary .mul (.var (numbered "a" i)) (elementOf (numbered "x" i)))), hfst,
    ← List.foldl_map (f := Prod.snd) (g := fun sum (term : Matrix × R) =>
      sum + term.2 * now.numbers (term.1.address.toNat + x * kind.bytes)), hsnd] at hsum
  exact hsum

/-- An iteration of a combination puts the weighted sum at the place of the element of the
result. -/
theorem exec_combination {count x : Nat} {now : ExactMemory R} (hkind : type.cType = .float kind)
    (hterms : ∀ term ∈ terms, ∃ bytes,
      now.memory.peek (term.1.address.toNat + x * kind.bytes) kind.bytes = some bytes)
    (hresult : ∃ bytes,
      now.memory.peek (y.address.toNat + x * kind.bytes) kind.bytes = some bytes) :
    (Stmt.block (Combination.body type terms.length)).exec (Host.exactContext R order limit)
        ⟨now, counter (exactMachine R order 1) "_x" x ::
          (combinationLocals type kind count y weight terms).reverse⟩ =
      .ok (.next, ⟨now.put (y.address.toNat + x * kind.bytes)
          (combined kind.bytes y weight terms x now), counter _ "_x" x ::
          (combinationLocals type kind count y weight terms).reverse⟩) := by
  let axn : Local (exactMachine R order 1) :=
    ⟨"axn", type.cType, number kind (total kind.bytes terms x now)⟩
  let above : List (Local (exactMachine R order 1)) := [axn, counter _ "_x" x]
  let s : RunState (exactMachine R order 1) :=
    ⟨now, above ++ (combinationLocals type kind count y weight terms).reverse⟩
  have hscalar : type.cType.isScalar = true := by
    rw [hkind]
    rfl
  have hdeclare : (Stmt.declare [⟨"axn", type.cType, false, some (Combination.sum terms.length)⟩]).exec
      (Host.exactContext R order limit) ⟨now, counter (exactMachine R order 1) "_x" x ::
        (combinationLocals type kind count y weight terms).reverse⟩ = .ok (.next, s) :=
    (exec_declare_cons ((amounts_sum order kind y weight terms hkind hterms).declare hkind)).trans
      exec_declare_nil
  have hindex : (Expr.var "_x").Counts (Host.exactContext R order limit) s x := by
    refine .var (x := counter _ "_x" x) ?_ rfl rfl
    rw [visible_all rfl]
    rfl
  have hsum : (Expr.var "axn").Equals (Host.exactContext R order limit) s kind
      (total kind.bytes terms x now) := by
    refine .var (v := axn) ?_ hscalar rfl
    rw [visible_all rfl]
    rfl
  have hbeta : (Expr.var "beta").Equals (Host.exactContext R order limit) s kind weight :=
    .var (v := ⟨"beta", type.cType, .float kind weight⟩) (find?_visible order kind y weight terms
      above (List.mem_cons_of_mem _ (List.mem_cons_of_mem _ List.mem_cons_self))
      (by simp [above, axn, counter]) now) hscalar rfl
  have hy : (Expr.var "y").Points (Host.exactContext R order limit) s (.float kind)
      y.address.toNat :=
    .var (find?_visible order kind y weight terms above
      (List.mem_cons_of_mem _ List.mem_cons_self) (by simp [above, axn, counter]) now) rfl rfl
  have helement := isElement_elementOf hy hindex
  obtain ⟨_, hpeek⟩ := hresult
  have hvalue := Expr.Equals.cond hbeta.counts_isZero hsum ((hbeta.mul (.element helement hpeek)).add hsum)
  have hassign := exec_assign_element helement hpeek hvalue
  rw [Stmt.exec]
  exact inScope_of_ok ((execAll_cons hdeclare).trans ((execAll_cons hassign).trans execAll_nil))
    (List.suffix_cons axn _)

/-- A combination puts the weighted sums at the places of the elements of the result. -/
theorem runExact_combination (hkind : type.cType = .float kind) (hbytes : type.bytes = kind.bytes)
    (hn : n.toNat < twoPow 31) (horder : (order n.toNat).Perm (List.range n.toNat))
    (hmemory : m.memory.WellFormed) (s : Scalar) (xs : List (Matrix × Scalar))
    (hresult : y.CoveredBy type n.toNat ∧ m.memory.Holds y.storage)
    (hterms : ∀ x ∈ xs, x.1.CoveredBy type n.toNat ∧ m.memory.Holds x.1.storage) :
    Host.runExact reading order limit Combination.kernelName (Combination.arguments type xs.length)
        (Combination.body type xs.length) (combinationValues type n y s xs) m =
      .ok (m.putAll (fun x => y.address.toNat + x * type.bytes)
        (combined type.bytes y (reading.factor kind (s.cast type))
          (xs.map fun x => (x.1, reading.factor kind (x.2.cast type)))) (order n.toNat)) := by
  have hslots : List.zipWith (Host.exactArgument reading) _ _ = _ :=
    exactArguments_combination kind n y hkind hn s xs
  generalize hterms' : (xs.map fun x => (x.1, reading.factor kind (x.2.cast type))) = terms at hslots ⊢
  have hlength : terms.length = xs.length := by rw [← hterms', List.length_map]
  obtain ⟨hvalues, hlocals⟩ := boundLocals_combination order kind y
    (reading.factor kind (s.cast type)) terms hkind n.toNat (Combination.body type xs.length)
  rw [hlength] at hvalues hlocals
  refine Host.runExact_eq_putAll hslots hvalues hlocals ?_ horder fun x hx now hnow => ?_
  · exact find?_reverse_combinationLocals order kind y _ terms List.mem_cons_self
  · have hthere {z : Matrix} (h : z.CoveredBy type n.toNat ∧ m.memory.Holds z.storage) : ∃ bytes,
        now.memory.peek (z.address.toNat + x * kind.bytes) kind.bytes = some bytes := by
      rw [hnow, ← hbytes]
      exact h.1.exists_peek hmemory h.2 hx
    rw [hbytes, ← hlength]
    refine exec_combination order kind y _ terms hkind (fun term hterm => ?_) (hthere hresult)
    obtain ⟨entry, hentry, rfl⟩ := List.mem_map.mp (hterms' ▸ hterm)
    exact hthere (hterms entry hentry)

end Combination

end Elementwise

end KernelForge
