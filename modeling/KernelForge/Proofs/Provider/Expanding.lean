import KernelForge.Proofs.Provider.Failures
import KernelForge.Proofs.Provider.Filling

/-!
# How operands expand

`Operand.Expands` is the table of what operands expand to. It says which slots an operand admits with
their types, while operands are expanded with the second slot of a matrix left open, and the types of
the whole list are compared afterwards. Every operand fills as many slots as are declared, so the
comparison of the whole comes to one for each argument, and the lists that are accepted are those
that the table describes.
-/

namespace KernelForge

/-- What operands expand to where an argument of the slots is declared. -/
inductive Operand.Expands : Operand → List SlotType → List BoundArgument → Prop where
  | matrix (m : Matrix) : Expands (.matrix m) [.pointer] [.address m.address]
  | stridedMatrix (m : Matrix) (h : m.layout.subLeading.toNat < twoPow 31) :
      Expands (.matrix m) [.pointer, .scalar .int32]
        [.address m.address, .value (.ofCount m.layout.subLeading)]
  | bank (b : Bank) : Expands (.bank b) [.pointer] [.bank b]
  | stridedBank (b : Bank) (h : b.layout.subLeading.toNat < twoPow 31) :
      Expands (.bank b) [.pointer, .scalar .int32] [.bank b, .value (.ofCount b.layout.subLeading)]
  | view (v : View) :
      Expands (.view v) [.pointer, .pointer] [.address v.mapping.address, .address v.strides.address]
  | exchangeView (v : ExchangeView) :
      Expands (.exchangeView v) [.pointer, .pointer]
        [.address v.view.mapping.address, .address v.view.strides.address]
  | scalar (s : Scalar) (type : ElementType) :
      Expands (.scalar s) [.scalar type] [.value (.scalar (s.cast type))]
  | pointer (a : UInt64) : Expands (.pointer a) [.pointer] [.address a]

/-- What the operand of a declared argument expands to. -/
def Operands.Expands (operands : Operands) (arg : Argument) (own : List BoundArgument) : Prop :=
  ∃ operand, operands.get? arg.name = some operand ∧ operand.Expands arg.slots own

namespace BoundArgument

/-! ### One argument -/

/-- What an operand fills follows the table as soon as its types are those of the slots. -/
theorem expands_of_ofOperand {name : String} {operand : Operand} {slots : List SlotType}
    {own : List BoundArgument} (h : ofOperand name operand slots = .ok own)
    (htypes : own.map slotType = slots) : operand.Expands slots own := by
  unfold ofOperand at h
  split at h
  case h_1 m =>
    cases h
    exact .matrix m
  case h_2 m type =>
    obtain ⟨sub, hsub, h⟩ := ok_of_bind h
    cases h
    obtain ⟨hlt, rfl⟩ := int32_eq_ok hsub
    obtain rfl : SlotType.scalar .int32 = type := (List.cons.inj (List.cons.inj htypes).2).1
    exact .stridedMatrix m hlt
  case h_3 b =>
    cases h
    exact .bank b
  case h_4 b type =>
    obtain ⟨sub, hsub, h⟩ := ok_of_bind h
    cases h
    obtain ⟨hlt, rfl⟩ := int32_eq_ok hsub
    obtain rfl : SlotType.scalar .int32 = type := (List.cons.inj (List.cons.inj htypes).2).1
    exact .stridedBank b hlt
  case h_5 v =>
    cases h
    exact .view v
  case h_6 v target =>
    cases h
    exact .exchangeView ⟨v, target⟩
  case h_7 s type =>
    cases h
    exact .scalar s type
  case h_8 a =>
    cases h
    exact .pointer a
  case h_9 => cases h

variable {operands : Operands} {operand : Operand} {slots : List SlotType} {own : List BoundArgument}

/-- What the table says is what the operand fills. -/
theorem ofOperand_of_expands (h : operand.Expands slots own) (name : String) :
    ofOperand name operand slots = .ok own := by
  cases h with
  | stridedMatrix m hlt =>
    change (int32 "leadsubdim" m.layout.subLeading >>= fun sub => .ok [address m.address, sub]) = _
    rw [int32_of_lt hlt]
    rfl
  | stridedBank b hlt =>
    change (int32 "leadsubdim" b.layout.subLeading >>= fun sub => .ok [bank b, sub]) = _
    rw [int32_of_lt hlt]
    rfl
  | _ => rfl

/-- The table keeps to the types of the slots. -/
theorem map_slotType_of_expands (h : operand.Expands slots own) : own.map slotType = slots := by
  cases h with
  | scalar s type => exact congrArg (fun t => [SlotType.scalar t]) (s.elementType_cast type)
  | _ => rfl

/-- The table has at most one row for an operand and slots. -/
theorem expands_unique {arg : Argument} {other : List BoundArgument} (h : operands.Expands arg own)
    (hother : operands.Expands arg other) : own = other := by
  obtain ⟨operand, hoperand, hown⟩ := h
  obtain ⟨operand', hoperand', hother⟩ := hother
  obtain rfl : operand = operand' := Option.some.inj (hoperand.symm.trans hoperand')
  have hfirst := ofOperand_of_expands hown arg.name
  have hsecond := ofOperand_of_expands hother arg.name
  exact Except.ok.inj (hfirst.symm.trans hsecond)

/-! ### All arguments -/

/-- The lists that fill declared arguments and have the types of their slots all together have them
one argument after the other. -/
theorem forall₂_expands_iff {args : List Argument} {pieces : List (List BoundArgument)} :
    List.Forall₂ operands.Expands args pieces ↔
      List.Forall₂ (Fills operands) (args.map fun arg => (arg.name, arg.slots)) pieces ∧
        pieces.flatten.map slotType = args.flatMap Argument.slots := by
  rw [List.forall₂_map_left_iff]
  constructor
  · intro h
    induction h with
    | nil => exact ⟨.nil, rfl⟩
    | cons hown _ ih =>
      obtain ⟨operand, hoperand, hown⟩ := hown
      refine ⟨.cons ⟨operand, hoperand, ofOperand_of_expands hown _⟩ ih.1, ?_⟩
      rw [List.flatten_cons, List.map_append, List.flatMap_cons, map_slotType_of_expands hown, ih.2]
  · rintro ⟨h, htypes⟩
    induction h with
    | nil => exact .nil
    | cons hown _ ih =>
      obtain ⟨operand, hoperand, hown⟩ := hown
      rw [List.flatten_cons, List.map_append, List.flatMap_cons] at htypes
      -- Both sides are split at the same place, as many slots are filled as are declared.
      obtain ⟨hfirst, hrest⟩ :=
        List.append_inj htypes ((List.length_map _).trans (length_ofOperand hown))
      exact .cons ⟨operand, hoperand, expands_of_ofOperand hown hfirst⟩ (ih hrest)

/-- The lists that are accepted are the dimensions and the expansions of the table, one declared
argument after the other. -/
theorem list_ofArguments_eq_ok_iff {ndim : UInt64} (hndim : ndim ≤ 2) {args : List Argument}
    {dims : List UInt64} {bound : List BoundArgument} :
    list dims (.ofArguments ndim args) operands = .ok bound ↔
      dims.length = ndim.toNat ∧ (∀ n ∈ dims, n.toNat < twoPow 31) ∧
        ∃ pieces, List.Forall₂ operands.Expands args pieces ∧
          bound = (dims.map fun n => .value (.ofCount n)) ++ pieces.flatten := by
  rw [list_eq_ok_iff, Contract.declared_ofArguments hndim, Contract.slotTypes_ofArguments]
  refine and_congr_right fun hlength => and_congr_right fun _ => ?_
  have hdims : (dims.map fun n => BoundArgument.value (.ofCount n)).map slotType =
      (dimNames ndim).map fun _ => .scalar .int32 := by
    have htypes : (dims.map fun n => BoundArgument.value (.ofCount n)).map slotType =
        dims.map fun _ => .scalar .int32 := List.map_map
    rw [htypes, List.map_const', List.map_const', length_dimNames hndim, hlength]
    rfl
  constructor
  · rintro ⟨filled, hfilled, rfl, htypes⟩
    obtain ⟨pieces, hpieces, rfl⟩ := ofDeclared_eq_ok_iff.mp hfilled
    rw [List.map_append, hdims] at htypes
    exact ⟨pieces, forall₂_expands_iff.mpr ⟨hpieces, List.append_cancel_left htypes⟩, rfl⟩
  · rintro ⟨pieces, hpieces, rfl⟩
    obtain ⟨hfills, htypes⟩ := forall₂_expands_iff.mp hpieces
    refine ⟨_, ofDeclared_eq_ok_iff.mpr ⟨pieces, hfills, rfl⟩, rfl, ?_⟩
    rw [List.map_append, hdims, htypes]

/-- Other operands with the names of the declared arguments fill the same. -/
theorem ofDeclared_congr {others : Operands} {declared : List (String × List SlotType)}
    (h : ∀ entry ∈ declared, others.get? entry.1 = operands.get? entry.1) :
    ofDeclared others declared = ofDeclared operands declared := by
  induction declared with
  | nil => rfl
  | cons first rest ih =>
    obtain ⟨hfirst, hrest⟩ := List.forall_mem_cons.mp h
    unfold ofDeclared
    rw [hfirst, ih hrest]

/-! ### Refusals -/

/-- A size that is too wide is the fault of the argument list. -/
theorem refuses_int32 (what : String) (n : UInt64) :
    Refuses KernelError.OfArguments (int32 what n) := by
  unfold int32
  split
  · exact .ok _
  · exact .error ⟨_, rfl⟩

/-- So is an operand that does not fill the slots of its parameter. -/
theorem refuses_ofOperand (name : String) (operand : Operand) (slots : List SlotType) :
    Refuses KernelError.OfArguments (ofOperand name operand slots) := by
  unfold ofOperand
  split
  case h_2 | h_4 => exact .bind (refuses_int32 _ _) fun _ => .ok _
  case h_9 => exact .error ⟨_, rfl⟩
  all_goals exact .ok _

/-- So is an operand that is missing. -/
theorem refuses_ofDeclared (operands : Operands) (declared : List (String × List SlotType)) :
    Refuses KernelError.OfArguments (ofDeclared operands declared) := by
  induction declared with
  | nil => exact .ok _
  | cons arg rest ih =>
    unfold ofDeclared
    split
    · exact .error ⟨_, rfl⟩
    · exact .bind (refuses_ofOperand _ _ _) fun _ => .bind ih fun _ => .ok _

/-- Whatever goes wrong with an argument list is its fault. -/
theorem refuses_list (dims : List UInt64) (contract : Contract) (operands : Operands) :
    Refuses KernelError.OfArguments (list dims contract operands) := by
  unfold list
  split
  · exact .error ⟨_, rfl⟩
  · refine .bind (.mapM fun n => refuses_int32 _ n) fun dimArgs => ?_
    refine .bind (refuses_ofDeclared _ _) fun args => ?_
    simp only []
    split
    · exact .ok _
    · exact .error ⟨_, rfl⟩

/-! ### The argument list -/

/-- A kernel over at most two dimensions gets an argument list exactly when a size is given for each
of its dimensions, an `int` holds every size, and every declared argument has an operand that the table
expands for its slots. The list is the sizes and after them the expansions, in the order of the
declarations. Any other input is an argument mismatch; operands that no argument names make no
difference; and even where a contract is not that of any kernel, a list that is accepted has exactly
the types that the contract lists. -/
theorem list_ofArguments {ndim : UInt64} (hndim : ndim ≤ 2) (args : List Argument)
    (dims : List UInt64) (operands : Operands) :
    ((∃ bound, list dims (.ofArguments ndim args) operands = .ok bound) ↔
      dims.length = ndim.toNat ∧ (∀ n ∈ dims, n.toNat < twoPow 31) ∧
        ∀ arg ∈ args, ∃ own, operands.Expands arg own) ∧
    (∀ bound, list dims (.ofArguments ndim args) operands = .ok bound →
      ∃ pieces, List.Forall₂ operands.Expands args pieces ∧
        bound = (dims.map fun n => .value (.ofCount n)) ++ pieces.flatten) ∧
    (∀ error, list dims (.ofArguments ndim args) operands = .error error →
      ∃ fault, error = .argumentMismatch fault) ∧
    (∀ others : Operands, (∀ arg ∈ args, others.get? arg.name = operands.get? arg.name) →
      list dims (.ofArguments ndim args) others = list dims (.ofArguments ndim args) operands) ∧
    ∀ contract bound, list dims contract operands = .ok bound →
      bound.map slotType = contract.slotTypes := by
  refine ⟨⟨?accepted, ?complete⟩, ?pieces, refuses_list dims _ operands, ?named,
    fun contract bound h => slotTypes_of_list h⟩
  case accepted =>
    rintro ⟨bound, hbound⟩
    obtain ⟨hlength, hlt, pieces, hpieces, -⟩ := (list_ofArguments_eq_ok_iff hndim).mp hbound
    exact ⟨hlength, hlt, exists_of_forall₂ hpieces⟩
  case complete =>
    rintro ⟨hlength, hlt, hargs⟩
    obtain ⟨pieces, hpieces, -⟩ := exists_forall₂ (p := fun _ => True) fun arg harg =>
      (hargs arg harg).imp fun own hown => ⟨hown, trivial⟩
    exact ⟨_, (list_ofArguments_eq_ok_iff hndim).mpr ⟨hlength, hlt, pieces, hpieces, rfl⟩⟩
  case pieces =>
    intro bound hbound
    exact ((list_ofArguments_eq_ok_iff hndim).mp hbound).2.2
  case named =>
    intro others h
    have hfilled : ofDeclared others (Contract.ofArguments ndim args).declared =
        ofDeclared operands (Contract.ofArguments ndim args).declared := by
      rw [Contract.declared_ofArguments hndim]
      refine ofDeclared_congr fun entry hentry => ?_
      obtain ⟨arg, harg, rfl⟩ := List.mem_map.mp hentry
      exact h arg harg
    unfold list
    rw [hfilled]

/-! A matrix whose rows are seen with half their stride, and a number that is wider than what the
kernel declares. -/

/-- The arguments of a kernel that reads a strided matrix and an `int`. -/
def stridedArguments : List Argument :=
  [⟨"m", .input, .matrix .float64 true⟩, ⟨"n", .input, .scalar .int32⟩]

/-- Two rows of three elements, eight apart. -/
def stridedMatrix : Matrix :=
  ⟨⟨0, 0x55813e400000, 128⟩, ⟨.float64, 2, 3, 8, 4, .dense, by decide, by decide⟩⟩

/-- Operands for both arguments. -/
def stridedOperands : Operands :=
  (NameMap.empty.insert "m" (.matrix stridedMatrix)).insert "n" (.scalar (.int64 0x100000007))

/-- The matrix gives its address and its stride, and the number is cut to what is declared. -/
theorem stridedOperands_expand : (1 : UInt64) ≤ 2 ∧
    list [16] (.ofArguments 1 stridedArguments) stridedOperands =
      .ok [.value (.ofCount 16), .address 0x55813e400000, .value (.ofCount 4),
        .value (.scalar (.int32 7))] := by
  have hmatrix : stridedOperands.Expands ⟨"m", .input, .matrix .float64 true⟩
      [.address 0x55813e400000, .value (.ofCount 4)] :=
    ⟨_, rfl, .stridedMatrix stridedMatrix (by decide)⟩
  have hnumber : stridedOperands.Expands ⟨"n", .input, .scalar .int32⟩
      [.value (.scalar (.int32 7))] :=
    ⟨_, rfl, .scalar (.int64 0x100000007) .int32⟩
  have hargs : ∀ arg ∈ stridedArguments, ∃ own, stridedOperands.Expands arg own :=
    List.forall_mem_cons.mpr ⟨⟨_, hmatrix⟩, List.forall_mem_cons.mpr ⟨⟨_, hnumber⟩, nofun⟩⟩
  have hndim : (1 : UInt64) ≤ 2 := by decide
  obtain ⟨haccepted, hpieces, -⟩ := list_ofArguments hndim stridedArguments [16] stridedOperands
  have hsize : (16 : UInt64).toNat < twoPow 31 := by decide
  obtain ⟨bound, hbound⟩ := haccepted.mpr ⟨rfl, List.forall_mem_singleton.mpr hsize, hargs⟩
  obtain ⟨pieces, hpieces, rfl⟩ := hpieces bound hbound
  cases hpieces with
  | cons hfirst hrest =>
    cases hrest with
    | cons hsecond hrest =>
      cases hrest
      rw [expands_unique hfirst hmatrix, expands_unique hsecond hnumber] at hbound
      exact ⟨hndim, hbound⟩

end BoundArgument

end KernelForge
