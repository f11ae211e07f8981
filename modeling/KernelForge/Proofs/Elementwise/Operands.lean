import KernelForge.Kernel.Combination
import KernelForge.Proofs.Provider.Filling
import KernelForge.Proofs.Storage.Banks

/-!
# Operands of element-wise kernels

The operands of a linear combination are found under the names that its module declares: the result
and its factor, then every term with its factor. Each matrix or bank fills one slot with an address,
each factor one slot with a number of the common element type.
-/

namespace KernelForge

/-! ### Numbered names -/

namespace Builtin

/-- The number is read off the digits of a name. -/
theorem numbered_inj {letter : String} {i j : Nat} (h : numbered letter i = numbered letter j) :
    i = j := by
  have hdigits := (String.append_right_inj letter).mp h
  rw [Nat.toString_eq_ofList_toDigits, Nat.toString_eq_ofList_toDigits, String.ofList_inj] at hdigits
  have hvalue := congrArg (fun digits => Nat.ofDigitChars 10 digits 0) hdigits
  simpa only [Nat.ofDigitChars_ten_toDigits] using hvalue

/-- A numbered name begins as its letters do. -/
theorem head?_numbered {letter : String} (h : letter ≠ "") (i : Nat) :
    (numbered letter i).toList.head? = letter.toList.head? := by
  rw [numbered, String.toList_append, List.head?_append_of_ne_nil]
  exact fun hnil => h (String.toList_eq_nil_iff.mp hnil)

/-- Names with other letters are other names. -/
theorem ne_numbered {name letter : String} (h : letter ≠ "")
    (hhead : name.toList.head? ≠ letter.toList.head?) (i : Nat) : name ≠ numbered letter i := by
  rintro rfl
  exact hhead (head?_numbered h i)

/-- No operand has the name of a factor. -/
theorem numbered_ne (i j : Nat) : numbered "x" i ≠ numbered "a" j := by
  refine ne_numbered (by decide) ?_ j
  rw [head?_numbered (by decide)]
  decide

end Builtin

open Builtin

/-! ### Terms -/

namespace CombinationKernel

/-- Adds a term and its factor to operands. -/
def addTerm (type : ElementType) (map : Operands) (entry : (Operand × Scalar) × Nat) : Operands :=
  (map.insert (numbered "x" entry.2) entry.1.1).insert (numbered "a" entry.2)
    (.scalar (entry.1.2.cast type))

/-- Terms do not touch other names, and each of them is found under its number. -/
theorem get?_addTerms (type : ElementType) (terms : List (Operand × Scalar)) (first : Nat)
    (map : Operands) :
    (∀ name, (∀ i, first ≤ i → name ≠ numbered "x" i ∧ name ≠ numbered "a" i) →
      ((terms.zipIdx first).foldl (addTerm type) map).get? name = map.get? name) ∧
    ∀ (i : Nat) (term : Operand × Scalar), terms[i]? = some term →
      ((terms.zipIdx first).foldl (addTerm type) map).get? (numbered "x" (first + i)) =
          some term.1 ∧
        ((terms.zipIdx first).foldl (addTerm type) map).get? (numbered "a" (first + i)) =
          some (.scalar (term.2.cast type)) := by
  induction terms generalizing first map with
  | nil => exact ⟨fun _ _ => rfl, fun i term h => by cases h⟩
  | cons head rest ih =>
    obtain ⟨hother, hterms⟩ := ih (first + 1) (addTerm type map (head, first))
    have hnext (i : Nat) (hi : first + 1 ≤ i) (letter : String) :
        numbered letter first ≠ numbered letter i := fun h => by
      have heq := numbered_inj h
      omega
    rw [List.zipIdx_cons, List.foldl_cons]
    refine ⟨fun name hname => ?_, fun i term hterm => ?_⟩
    · obtain ⟨hx, ha⟩ := hname first (Nat.le_refl _)
      rw [hother name fun i hi => hname i (Nat.le_of_succ_le hi), addTerm, NameMap.get?_insert,
        if_neg ha, NameMap.get?_insert, if_neg hx]
    · cases i with
      | zero =>
        obtain rfl : head = term := Option.some.inj hterm
        rw [Nat.add_zero first]
        constructor
        · rw [hother _ fun i hi => ⟨hnext i hi "x", numbered_ne first i⟩, addTerm,
            NameMap.get?_insert, if_neg (numbered_ne first first), NameMap.get?_insert, if_pos rfl]
        · rw [hother _ fun i hi => ⟨Ne.symm (numbered_ne i first), hnext i hi "a"⟩, addTerm,
            NameMap.get?_insert, if_pos rfl]
      | succ i =>
        have hsucc : first + (i + 1) = first + 1 + i := by omega
        rw [hsucc]
        exact hterms i term hterm

variable {Fn : Type} (kernel : CombinationKernel Fn) (weight : Scalar) (weights : List Scalar)

/-- The operands of a combination are its terms, added to the result and its factor. -/
theorem operands_eq : kernel.operands weight weights =
    ((kernel.terms.zip weights).zipIdx 0).foldl (addTerm kernel.elementType)
      ((NameMap.empty.insert "y" kernel.result).insert "beta"
        (.scalar (weight.cast kernel.elementType))) := rfl

/-- The operands of a combination under their names. -/
theorem get?_operands :
    (kernel.operands weight weights).get? "y" = some kernel.result ∧
      (kernel.operands weight weights).get? "beta" =
        some (.scalar (weight.cast kernel.elementType)) ∧
      ∀ (i : Nat) (term : Operand × Scalar), (kernel.terms.zip weights)[i]? = some term →
        (kernel.operands weight weights).get? (numbered "x" i) = some term.1 ∧
          (kernel.operands weight weights).get? (numbered "a" i) =
            some (.scalar (term.2.cast kernel.elementType)) := by
  rw [operands_eq]
  obtain ⟨hother, hterms⟩ := get?_addTerms kernel.elementType (kernel.terms.zip weights) 0
    ((NameMap.empty.insert "y" kernel.result).insert "beta"
      (.scalar (weight.cast kernel.elementType)))
  refine ⟨?_, ?_, fun i term hterm => ?_⟩
  · rw [hother "y" fun i _ => ⟨ne_numbered (by decide) (by decide) i,
      ne_numbered (by decide) (by decide) i⟩, NameMap.get?_insert, if_neg (by decide),
      NameMap.get?_insert, if_pos rfl]
  · rw [hother "beta" fun i _ => ⟨ne_numbered (by decide) (by decide) i,
      ne_numbered (by decide) (by decide) i⟩, NameMap.get?_insert, if_pos rfl]
  · have hterm' := hterms i term hterm
    rwa [Nat.zero_add] at hterm'

end CombinationKernel

/-! ### What operands and factors fill -/

namespace Operand

/-- What a matrix or bank fills a slot for an address with. -/
def pointerArgument : Operand → BoundArgument
  | bank b => .bank b
  | matrix m => .address m.address
  | view _ | exchangeView _ | scalar _ | pointer _ => .address 0

/-- A matrix or bank fills a slot with the address of the matrix that it stands for. -/
theorem fills_pointer {operand : Operand} {layout : Layout} (h : operand.layout? = some layout)
    (name : String) : BoundArgument.ofOperand name operand [.pointer] =
        .ok [operand.pointerArgument] ∧ operand.pointerArgument.slotType = .pointer ∧
      ∀ store m, operand.matrixAt store = some m →
        operand.pointerArgument.resolve store = .pointer m.address := by
  cases operand with
  | matrix m =>
    refine ⟨rfl, rfl, fun store m' hm => ?_⟩
    cases hm
    rfl
  | bank b =>
    refine ⟨rfl, rfl, fun store m' hm => ?_⟩
    cases hm
    rfl
  | view _ | exchangeView _ | scalar _ | pointer _ => cases h

end Operand

/-- What a factor fills a slot of an element type with. -/
def Scalar.argument (s : Scalar) (type : ElementType) : BoundArgument := .value (.scalar (s.cast type))

/-- A number that is converted to a type fills a slot of the type. -/
theorem Scalar.fills (s : Scalar) (type : ElementType) (name : String) :
    BoundArgument.ofOperand name (.scalar (s.cast type)) [.scalar type] = .ok [s.argument type] := by
  have hcast := Scalar.cast_self (s.cast type)
  rw [Scalar.elementType_cast] at hcast
  change Except.ok [BoundArgument.value (.scalar ((s.cast type).cast type))] = _
  rw [hcast]
  rfl

/-- The entries of a list by their numbers. -/
theorem forall₂_range {α : Type} (list : List α) :
    List.Forall₂ (fun i a => list[i]? = some a) (List.range list.length) list := by
  refine List.forall₂_iff_get.mpr ⟨List.length_range, fun i hi hi' => ?_⟩
  simp

namespace CombinationKernel

variable {Fn : Type} (kernel : CombinationKernel Fn) (weight : Scalar) (weights : List Scalar)

/-- What the operands of a combination fill, in the order of the declared arguments. -/
def filled : List BoundArgument :=
  kernel.result.pointerArgument :: weight.argument kernel.elementType ::
    (kernel.terms.zip weights).flatMap fun term =>
      [term.1.pointerArgument, term.2.argument kernel.elementType]

variable {kernel weights}

/-- The operands of a combination fill the slots of the arguments of the built-in module. -/
theorem fills_filled {layout : Layout} (hlength : weights.length = kernel.terms.length)
    (hresult : kernel.result.layout? = some layout)
    (hterms : ∀ term ∈ kernel.terms, term.layout? = some layout) :
    List.Forall₂ (BoundArgument.Fills (kernel.operands weight weights))
        ((Combination.arguments kernel.elementType kernel.terms.length).map
          fun arg => (arg.name, arg.slots))
        ((kernel.filled weight weights).map fun arg => [arg]) ∧
      (kernel.filled weight weights).map BoundArgument.slotType =
        (Combination.arguments kernel.elementType kernel.terms.length).flatMap Argument.slots := by
  obtain ⟨hy, hbeta, hfound⟩ := kernel.get?_operands weight weights
  have hcount : kernel.terms.length = (kernel.terms.zip weights).length := by
    rw [List.length_zip, hlength, Nat.min_self]
  have hindices := forall₂_range (kernel.terms.zip weights)
  rw [← hcount] at hindices
  have hterm {i : Nat} {term : Operand × Scalar} (h : (kernel.terms.zip weights)[i]? = some term) :
      term.1.layout? = some layout :=
    hterms _ (List.of_mem_zip (List.mem_of_getElem? h)).1
  constructor
  · refine .cons ⟨_, hy, (Operand.fills_pointer hresult _).1⟩ (.cons ⟨_, hbeta, weight.fills _ _⟩ ?_)
    rw [List.map_flatMap, List.map_flatMap]
    refine List.rel_flatMap hindices fun i term h => ?_
    obtain ⟨hx, ha⟩ := hfound i term h
    exact .cons ⟨_, hx, (Operand.fills_pointer (hterm h) _).1⟩ (.cons ⟨_, ha, term.2.fills _ _⟩ .nil)
  · have hscalar (s : Scalar) : (s.argument kernel.elementType).slotType =
        .scalar kernel.elementType := congrArg SlotType.scalar (s.elementType_cast _)
    have hrest : ((kernel.terms.zip weights).flatMap fun term =>
        [term.1.pointerArgument, term.2.argument kernel.elementType]).map BoundArgument.slotType =
          (List.range kernel.terms.length).flatMap fun _ =>
            [SlotType.pointer, .scalar kernel.elementType] := by
      rw [List.map_flatMap, ← List.forall₂_eq_eq_eq]
      refine List.rel_flatMap hindices.flip fun term i h => ?_
      rw [List.forall₂_eq_eq_eq, List.map_cons, List.map_cons, List.map_nil,
        (Operand.fills_pointer (hterm h) "").2.1, hscalar]
    rw [filled, List.map_cons, List.map_cons, (Operand.fills_pointer hresult "").2.1, hscalar, hrest,
      Combination.arguments, List.flatMap_cons, List.flatMap_cons, List.flatMap_assoc]
    rfl

end CombinationKernel

/-- The operands of a copy make an argument list for the built-in module, unless their elements are
too many for an `int`. -/
theorem Backend.list_copy {target source : Operand} {layout : Layout} (type : ElementType)
    (htarget : target.layout? = some layout) (hsource : source.layout? = some layout) (n : UInt64) :
    BoundArgument.list [n] (.ofArguments 1 (Copy.arguments type))
        (.ofList [("dst", target), ("src", source)]) =
      if n.toNat < twoPow 31 then
        .ok [.value (.scalar (.int32 (Int32.ofNat n.toNat))), target.pointerArgument,
          source.pointerArgument]
      else .error (.argumentMismatch (.tooWide "dimension" n)) := by
  have hoperands : (NameMap.ofList [("dst", target), ("src", source)]).get? "dst" = some target ∧
      (NameMap.ofList [("dst", target), ("src", source)]).get? "src" = some source := by
    simp only [NameMap.ofList, List.foldl_cons, List.foldl_nil, NameMap.get?_insert]
    exact ⟨rfl, rfl⟩
  obtain ⟨hfillsTarget, htypeTarget, -⟩ := Operand.fills_pointer htarget "dst"
  obtain ⟨hfillsSource, htypeSource, -⟩ := Operand.fills_pointer hsource "src"
  have hfills : List.Forall₂ (BoundArgument.Fills (.ofList [("dst", target), ("src", source)]))
      ((Copy.arguments type).map fun arg => (arg.name, arg.slots))
      ([target.pointerArgument, source.pointerArgument].map fun arg => [arg]) :=
    .cons ⟨target, hoperands.1, hfillsTarget⟩ (.cons ⟨source, hoperands.2, hfillsSource⟩ .nil)
  have htypes : [target.pointerArgument, source.pointerArgument].map BoundArgument.slotType =
      (Copy.arguments type).flatMap Argument.slots := by
    rw [List.map_cons, List.map_cons, htypeTarget, htypeSource]
    rfl
  exact BoundArgument.list_one n hfills htypes

end KernelForge
