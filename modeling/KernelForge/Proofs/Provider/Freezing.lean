import KernelForge.Proofs.Elementwise.Operands
import KernelForge.Proofs.Provider.Runs

/-!
# Operands at one moment

At a moment, a bank does what its active member would do in its place. Of a bank, an argument list
takes the address late and everything else early; but what it takes early only depends on the layout,
and this is the same for all members. So the values that an argument list is resolved to are those of
the list for the active members themselves.
-/

namespace KernelForge

/-- The same names with other values. -/
def NameMap.map {A B : Type} (f : A → B) (map : NameMap A) : NameMap B :=
  ⟨map.entries.map fun e => (e.1, f e.2), by
    rw [List.pairwise_map]
    exact map.sorted⟩

/-- What a name has in a map with changed values is what it had, changed. -/
theorem NameMap.get?_map {A B : Type} (f : A → B) (map : NameMap A) (name : String) :
    (map.map f).get? name = (map.get? name).map f := by
  obtain ⟨entries, _⟩ := map
  simp only [NameMap.map, get?]
  induction entries with
  | nil => rfl
  | cons first rest ih =>
    simp only [List.map_cons, lookupEntry]
    split
    · rfl
    · exact ih (List.Pairwise.of_cons ‹_›)

/-! ### Frozen operands -/

namespace Operand

/-- The active member in the place of a bank. -/
def frozen (store : Store) : Operand → Operand
  | bank b => matrix (b.active store)
  | matrix m => matrix m
  | view v => view v
  | exchangeView v => exchangeView v
  | scalar s => scalar s
  | pointer a => pointer a

/-- If it is a bank, its members have one layout. -/
def Uniform (operand : Operand) : Prop := ∀ b, operand = bank b → b.Uniform

end Operand

/-- The operands at a moment. -/
def Operands.FrozenTo (operands : Operands) (store : Store) (frozen : Operands) : Prop :=
  ∀ name, frozen.get? name = (operands.get? name).map (·.frozen store)

/-- All banks among the operands have members of one layout. -/
def Operands.Uniform (operands : Operands) : Prop :=
  ∀ name operand, operands.get? name = some operand → operand.Uniform

/-! ### Operands of combinations -/

namespace Operands.FrozenTo

variable {store : Store} {operands frozen : Operands}

/-- No operands are frozen to none. -/
theorem empty : FrozenTo .empty store .empty := fun _ => rfl

/-- An operand that is added is frozen on its own. -/
theorem insert (h : operands.FrozenTo store frozen) (name : String) (operand : Operand) :
    FrozenTo (operands.insert name operand) store (frozen.insert name (operand.frozen store)) := by
  intro other
  rw [NameMap.get?_insert, NameMap.get?_insert, h other]
  split <;> rfl

/-- The terms of a combination are frozen one by one. -/
theorem addTerms (h : operands.FrozenTo store frozen) (type : ElementType) (terms : List Operand)
    (weights : List Scalar) (first : Nat) :
    FrozenTo (((terms.zip weights).zipIdx first).foldl (CombinationKernel.addTerm type) operands)
      store ((((terms.map (·.frozen store)).zip weights).zipIdx first).foldl
        (CombinationKernel.addTerm type) frozen) := by
  induction terms generalizing weights first operands frozen with
  | nil => exact h
  | cons term terms ih =>
    cases weights with
    | nil => exact h
    | cons weight weights => exact ih ((h.insert _ term).insert _ (.scalar _)) weights (first + 1)

end Operands.FrozenTo

/-- The operands of a combination at a moment. -/
theorem CombinationKernel.frozenTo_operands {Fn : Type} (kernel : CombinationKernel Fn) (store : Store)
    (weight : Scalar) (weights : List Scalar) :
    (kernel.operands weight weights).FrozenTo store
      (operands { kernel with
        result := kernel.result.frozen store
        terms := kernel.terms.map (·.frozen store) } weight weights) :=
  (((Operands.FrozenTo.empty.insert "y" kernel.result).insert "beta" (.scalar _))).addTerms
    kernel.elementType kernel.terms weights 0

/-- What is found among the operands of a combination. -/
theorem CombinationKernel.mem_of_get?_operands {Fn : Type} {kernel : CombinationKernel Fn}
    {weight : Scalar} {weights : List Scalar} {name : String} {operand : Operand}
    (h : (kernel.operands weight weights).get? name = some operand) :
    operand ∈ kernel.result :: kernel.terms ∨ ∃ s, operand = .scalar s := by
  have hall (terms : List (Operand × Scalar)) (first : Nat) (map : Operands)
      (h : ((terms.zipIdx first).foldl (addTerm kernel.elementType) map).get? name = some operand) :
      map.get? name = some operand ∨ operand ∈ terms.map Prod.fst ∨ ∃ s, operand = .scalar s := by
    induction terms generalizing first map with
    | nil => exact .inl h
    | cons term terms ih =>
      rcases ih _ _ h with h | h | h
      · simp only [addTerm, NameMap.get?_insert] at h
        split at h
        · exact .inr (.inr ⟨_, (Option.some.inj h).symm⟩)
        · split at h
          · exact .inr (.inl (Option.some.inj h ▸ List.mem_cons_self))
          · exact .inl h
      · exact .inr (.inl (List.mem_cons_of_mem _ h))
      · exact .inr (.inr h)
  rw [operands_eq] at h
  rcases hall _ _ _ h with h | h | h
  · simp only [NameMap.get?_insert, NameMap.get?_empty] at h
    split at h
    · exact .inr ⟨_, (Option.some.inj h).symm⟩
    · split at h
      · exact .inl (Option.some.inj h ▸ List.mem_cons_self)
      · cases h
  · obtain ⟨term, hterm, rfl⟩ := List.mem_map.mp h
    exact .inl (List.mem_cons_of_mem _ (List.of_mem_zip hterm).1)
  · exact .inr h

/-! ### Layouts -/

/-- A bank has the layout of its members, so freezing it leaves its layout. -/
theorem Operand.requireLayout_frozen {operand : Operand} (h : operand.Uniform) (store : Store) :
    (operand.frozen store).requireLayout = operand.requireLayout := by
  cases operand with
  | bank b =>
    change Except.ok (b.active store).layout = Except.ok b.layout
    rw [(h b rfl).layout_active store]
  | _ => rfl

/-- Work for the numbered entries of a list does not see a change of the entries that it gives the
same. -/
theorem forM_zipIdx_map {ε A : Type} {f : A → A} {work : A × Nat → Except ε Unit} {list : List A}
    (h : ∀ a ∈ list, ∀ i, work (f a, i) = work (a, i)) (first : Nat) :
    ((list.map f).zipIdx first).forM work = (list.zipIdx first).forM work := by
  induction list generalizing first with
  | nil => rfl
  | cons a list ih =>
    change (work (f a, first) >>= fun _ => ((list.map f).zipIdx (first + 1)).forM work) =
      (work (a, first) >>= fun _ => (list.zipIdx (first + 1)).forM work)
    rw [h a List.mem_cons_self, ih fun b hb => h b (List.mem_cons_of_mem _ hb)]

namespace Backend

variable {store : Store}

/-- The check of a combination does not see which members are active. -/
theorem combinationLayout_frozen {result : Operand} {terms : List Operand} (hresult : result.Uniform)
    (hterms : ∀ term ∈ terms, term.Uniform) :
    combinationLayout (result.frozen store) (terms.map (·.frozen store)) =
      combinationLayout result terms := by
  unfold combinationLayout
  rw [Operand.requireLayout_frozen hresult]
  refine congrArg (result.requireLayout >>= ·) (funext fun layout => ?_)
  refine congrArg (· >>= _) (forM_zipIdx_map (fun term hterm i => ?_) 0)
  simp only [Operand.requireLayout_frozen (hterms term hterm)]

/-- Neither does that of a copy. -/
theorem copyLayout_frozen {target source : Operand} (htarget : target.Uniform)
    (hsource : source.Uniform) :
    copyLayout (target.frozen store) (source.frozen store) = copyLayout target source := by
  unfold copyLayout
  rw [Operand.requireLayout_frozen htarget, Operand.requireLayout_frozen hsource]

end Backend

/-! ### Argument lists -/

namespace BoundArgument

variable {store : Store}

/-- The values of an argument list at a moment, if there is one. -/
def values (store : Store) (args : Except KernelError (List BoundArgument)) :
    Option (List SlotValue) :=
  args.toOption.map fun args => args.map (·.resolve store)

/-- Arguments are resolved one by one. -/
theorem values_ok (args : List BoundArgument) :
    values store (.ok args) = some (args.map (·.resolve store)) := rfl

/-- Work that goes on with an argument list, if it has one. -/
theorem values_bind {A : Type} (first : Except KernelError A)
    (next : A → Except KernelError (List BoundArgument)) :
    values store (first >>= next) = first.toOption.bind fun a => values store (next a) := by
  cases first <;> rfl

/-- A frozen operand fills the same values. -/
theorem values_ofOperand {operand : Operand} (h : operand.Uniform) (name : String)
    (slots : List SlotType) :
    values store (ofOperand name (operand.frozen store) slots) =
      values store (ofOperand name operand slots) := by
  cases operand with
  | bank b =>
    have hlayout := (h b rfl).layout_active store
    match slots with
    | [.pointer] => rfl
    | [.pointer, type] =>
      change values store (int32 "leadsubdim" (b.active store).layout.subLeading >>= fun sub =>
        .ok [address (b.active store).address, sub]) =
          values store (int32 "leadsubdim" b.layout.subLeading >>= fun sub => .ok [bank b, sub])
      rw [hlayout, values_bind, values_bind]
      rfl
    | [] | [.scalar _] | .scalar _ :: _ :: _ | .pointer :: _ :: _ :: _ => rfl
  | _ => rfl

/-- Operands that are frozen fill the same values. -/
theorem values_ofDeclared {operands frozen : Operands} (h : operands.Uniform)
    (hfrozen : operands.FrozenTo store frozen) (declared : List (String × List SlotType)) :
    values store (ofDeclared frozen declared) = values store (ofDeclared operands declared) := by
  induction declared with
  | nil => rfl
  | cons first rest ih =>
    obtain ⟨name, slots⟩ := first
    unfold ofDeclared
    rw [hfrozen name]
    cases hoperand : operands.get? name with
    | none => rfl
    | some operand =>
      have hown : values store (ofOperand name (operand.frozen store) slots) =
          values store (ofOperand name operand slots) :=
        values_ofOperand (h name operand hoperand) name slots
      change values store (ofOperand name (operand.frozen store) slots >>= fun own =>
          ofDeclared frozen rest >>= fun others => .ok (own ++ others)) =
        values store (ofOperand name operand slots >>= fun own =>
          ofDeclared operands rest >>= fun others => .ok (own ++ others))
      have happend (own : Except KernelError (List BoundArgument))
          (others : Except KernelError (List BoundArgument)) :
          values store (own >>= fun own => others >>= fun others => .ok (own ++ others)) =
            (values store own).bind fun own => (values store others).map (own ++ ·) := by
        cases own <;> cases others <;> simp [values, bind, Except.bind, Except.toOption]
      rw [happend, happend, hown, ih]

/-- The values of the list of a kernel depend on the operands only through the values that they
fill. -/
theorem values_list_eq (dims : List UInt64) (contract : Contract) (operands : Operands) :
    values store (list dims contract operands) =
      if dims.length ≠ contract.ndim.toNat then none
      else (values store (dims.mapM (int32 "dimension"))).bind fun first =>
        (values store (ofDeclared operands contract.declared)).bind fun filled =>
          if (first ++ filled).map SlotValue.slotType = contract.slotTypes then
            some (first ++ filled)
          else none := by
  unfold list
  split
  · rfl
  · cases dims.mapM (int32 "dimension") with
    | error error => rfl
    | ok dimArgs =>
      cases ofDeclared operands contract.declared with
      | error error => rfl
      | ok filled =>
        simp only [values_ok, Option.bind_some, ← List.map_append, map_slotType_resolve]
        change values store (if (dimArgs ++ filled).map slotType = contract.slotTypes then _ else _) = _
        split
        · rfl
        · rfl

/-- The list of a kernel for frozen operands has the same values. -/
theorem values_list {operands frozen : Operands} (h : operands.Uniform)
    (hfrozen : operands.FrozenTo store frozen) (dims : List UInt64) (contract : Contract) :
    values store (list dims contract frozen) = values store (list dims contract operands) := by
  rw [values_list_eq, values_list_eq, values_ofDeclared h hfrozen]

end BoundArgument

/-! ### Slots of banks -/

/-- What is passed for a declared argument: as many values as it has slots, for a bank the address of
its active member first. -/
def Operands.Passes (operands : Operands) (store : Store) (declared : String × List SlotType)
    (piece : List SlotValue) : Prop :=
  piece.length = declared.2.length ∧ ∀ b, operands.get? declared.1 = some (.bank b) →
    piece.head? = some (.pointer (b.active store).address)

namespace BoundArgument

variable {operands : Operands} {own : List BoundArgument}

/-- A bank fills its first slot with itself. -/
theorem head?_ofOperand {name : String} {b : Bank} {slots : List SlotType}
    (h : ofOperand name (.bank b) slots = .ok own) : own.head? = some (bank b) := by
  unfold ofOperand at h
  split at h
  case h_3 heq =>
    cases heq
    cases h
    rfl
  case h_4 heq =>
    cases heq
    obtain ⟨sub, -, h⟩ := ok_of_bind h
    cases h
    rfl
  case h_9 => cases h
  all_goals
    next heq => cases heq

/-- The values of an argument list are the dimensions, and what is passed for one declared argument
after the other. -/
theorem values_pieces {dims : List UInt64} {contract : Contract} {args : List BoundArgument}
    (h : list dims contract operands = .ok args) (store : Store) :
    ∃ pieces, args.map (·.resolve store) = dims.map .ofCount ++ pieces.flatten ∧
      List.Forall₂ (operands.Passes store) contract.declared pieces := by
  obtain ⟨dimArgs, filled, hdims, hfilled, rfl, -⟩ := list_eq_ok h
  obtain ⟨owns, howns, rfl⟩ := ofDeclared_eq_ok_iff.mp hfilled
  refine ⟨owns.map fun own => own.map (·.resolve store), ?_, ?_⟩
  · rw [List.map_append, (mapM_int32_eq_ok_iff.mp hdims).2, List.map_map, List.map_flatten]
    rfl
  · rw [List.forall₂_map_right_iff]
    refine howns.imp fun declared own hown => ?_
    obtain ⟨operand, hoperand, hown⟩ := hown
    refine ⟨(List.length_map _).trans (length_ofOperand hown), fun b hb => ?_⟩
    rw [hb] at hoperand
    cases hoperand
    rw [List.head?_map, head?_ofOperand hown]
    rfl

end BoundArgument

end KernelForge
