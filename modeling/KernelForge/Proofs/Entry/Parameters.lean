import KernelForge.Source.Generator
import Mathlib.Data.List.Forall2

/-!
# Parameters, slots and the entry function

The parameters of a kernel and the slots of its contract are two expansions of the same declaration.
They have the same length and agree slot by slot. The entry function passes for every parameter an
expression that reads the array entry of the parameter's own number.
-/

namespace KernelForge

open Code

namespace SourceParameter

/-- A parameter that takes what a slot holds: an address, or a number of the slot's type. -/
def Fits (p : SourceParameter) : SlotType → Prop
  | .pointer => p.isAddress = true
  | .scalar type => p.isAddress = false ∧ p.type = type.cName

/-- The parameters of an argument fit its slots. -/
theorem ofArgument_fits (arg : Argument) : List.Forall₂ Fits (ofArgument arg) arg.slots := by
  obtain ⟨name, intent, kind⟩ := arg
  cases kind with
  | matrix type strided =>
    cases strided with
    | false => exact .cons rfl .nil
    | true => exact .cons rfl (.cons ⟨rfl, rfl⟩ .nil)
  | view type => exact .cons rfl (.cons rfl .nil)
  | exchangeView type => exact .cons rfl (.cons rfl .nil)
  | scalar type => exact .cons ⟨rfl, rfl⟩ .nil
  | pointer => exact .cons rfl .nil

end SourceParameter

/-- Lists made of pieces that agree agree. -/
theorem forall₂_flatMap {A B C : Type} {R : B → C → Prop} {f : A → List B} {g : A → List C}
    (h : ∀ a, List.Forall₂ R (f a) (g a)) (list : List A) :
    List.Forall₂ R (list.flatMap f) (list.flatMap g) := by
  induction list with
  | nil => exact .nil
  | cons a rest ih => exact List.rel_append (h a) ih

/-- The slots of a contract: an integer for every dimension, then those of the arguments. -/
theorem Contract.slotTypes_ofArguments (ndim : UInt64) (args : List Argument) :
    (Contract.ofArguments ndim args).slotTypes =
      (dimNames ndim).map (fun _ => .scalar .int32) ++ args.flatMap Argument.slots := by
  rw [Contract.slotTypes, Contract.ofArguments, List.flatten_append, List.flatMap_def]
  congr 1
  induction dimNames ndim with
  | nil => rfl
  | cons name rest ih =>
    rw [List.map_cons, List.flatten_cons, ih, List.map_cons, List.singleton_append]

/-- The parameters of a kernel fit the slots of its contract. -/
theorem SourceParameter.ofKernel_fits (ndim : UInt64) (args : List Argument) :
    List.Forall₂ Fits (ofKernel ndim args) (Contract.ofArguments ndim args).slotTypes := by
  rw [Contract.slotTypes_ofArguments]
  refine List.rel_append ?_ (forall₂_flatMap ofArgument_fits args)
  induction dimNames ndim with
  | nil => exact .nil
  | cons name rest ih => exact .cons ⟨rfl, rfl⟩ ih

/-! ### The types of the parameters -/

/-- The elements behind an argument, constant if they are only read. -/
def elementPointer (type : ElementType) (intent : Intent) : CType :=
  .pointer type.cType intent.isReadOnly

/-- The types of the parameters of an argument. -/
def Argument.paramTypes (arg : Argument) : List CType :=
  match arg.kind with
  | .matrix type false => [elementPointer type arg.intent]
  | .matrix type true => [elementPointer type arg.intent, .int .int]
  | .view type | .exchangeView type =>
      [.pointer (elementPointer type arg.intent) true, .pointer (.int .int) true]
  | .scalar type => [type.cType]
  | .pointer => [.pointer .void false]

/-- The types of the parameters of a kernel. -/
def paramTypes (ndim : UInt64) (args : List Argument) : List CType :=
  (dimNames ndim).map (fun _ => .int .int) ++ args.flatMap Argument.paramTypes

/-- How the entry function and the parameters of views write types: an unsigned word by the name
that the header gives it, and what a pointer to constant pointers leads to before the word for
constant. -/
def entryTypeNames : TypeNames :=
  [(.int .unsignedLong, "uintptr_t"), (.pointer (.int .unsignedLong) true, "const uint64_t*")] ++
    ElementType.all.flatMap fun type =>
      [(.pointer (.pointer type.cType true) true, "const " ++ type.cName ++ "* const*"),
        (.pointer (.pointer type.cType false) true, type.cName ++ "* const*")]

/-- Whether a type is that of addresses. -/
def Code.CType.isPointer : CType → Bool
  | .pointer _ _ => true
  | _ => false

namespace SourceParameter

/-- A parameter of a type: it is written as the type is, it is an address if the type is a pointer,
and otherwise a number of one of the element types. -/
structure HasType (p : SourceParameter) (type : CType) : Prop where
  spelled : p.type = type.spelling entryTypeNames
  address : p.isAddress = type.isPointer
  number : p.isAddress = false → ∃ t : ElementType, type = t.cType

/-- A parameter for a value has the type of its elements. -/
theorem hasType_value (t : ElementType) (name : String) : HasType (value t.cName name) t.cType where
  spelled := by cases t <;> rfl
  address := by cases t <;> rfl
  number _ := ⟨t, rfl⟩

/-- A parameter for an address has the pointer type that is spelled. -/
theorem hasType_pointer {spelling : String} (name : String) {target : CType} {isConst : Bool}
    (h : spelling = (CType.pointer target isConst).spelling entryTypeNames) :
    HasType (pointer spelling name) (.pointer target isConst) where
  spelled := h
  address := rfl
  number := nofun

/-- The parameters of an argument have its types in order. -/
theorem ofArgument_hasType (arg : Argument) :
    List.Forall₂ HasType (ofArgument arg) arg.paramTypes := by
  obtain ⟨name, intent, kind⟩ := arg
  cases kind with
  | matrix type strided =>
    have helements : HasType (pointer (elementCName type intent ++ "*") name)
        (elementPointer type intent) :=
      hasType_pointer name (by cases type <;> cases intent <;> rfl)
    cases strided with
    | false => exact .cons helements .nil
    | true => exact .cons helements (.cons (hasType_value .int32 _) .nil)
  | view type | exchangeView type =>
    have hblocks : HasType (pointer (elementCName type intent ++ "* const*") (name ++ "_vix"))
        (.pointer (elementPointer type intent) true) :=
      hasType_pointer _ (by cases type <;> cases intent <;> rfl)
    exact .cons hblocks (.cons (hasType_pointer _ rfl) .nil)
  | scalar type => exact .cons (hasType_value type name) .nil
  | pointer => exact .cons ⟨rfl, rfl, nofun⟩ .nil

/-- The parameters of a kernel have the types that are listed. -/
theorem ofKernel_hasType (ndim : UInt64) (args : List Argument) :
    List.Forall₂ HasType (ofKernel ndim args) (paramTypes ndim args) := by
  refine List.rel_append ?_ (forall₂_flatMap ofArgument_hasType args)
  induction dimNames ndim with
  | nil => exact .nil
  | cons name rest ih => exact .cons (hasType_value .int32 name) ih

end SourceParameter

/-! ### What the entry function passes -/

namespace Host

/-- The i-th entry of the array that an entry function gets. -/
def entrySlot (i : Nat) : Expr := .index (.var "_args") (.intLit i .int)

/-- What the entry function passes for the i-th parameter, of a given type: an address is read as an
unsigned word, anything else as what it is. -/
def entryActual (type : CType) (i : Nat) : Expr :=
  if type.isPointer then
    .cast type (.cast (.int .unsignedLong)
      (.deref (.cast (.pointer (.int .unsignedLong) true) (entrySlot i))))
  else .deref (.cast (.pointer type true) (entrySlot i))

/-- An entry function that passes what is written as given, one below the other. -/
def entryText (name : String) (actuals : List String) : String :=
  "void " ++ name ++ "_entry(void** _args)\n" ++
    if actuals.isEmpty then "\x7b\n    (void)_args;\n    " ++ name ++ "();\n\x7d\n"
    else "\x7b\n    " ++ name ++ "(\n        " ++ ",\n        ".intercalate actuals ++
      "\n    );\n\x7d\n"

/-- What the entry function of a kernel passes. -/
def entryActuals (ndim : UInt64) (args : List Argument) : List Expr :=
  (paramTypes ndim args).mapIdx fun i type => entryActual type i

/-- The text that is written for a parameter is that of the expression for its type. -/
theorem text_entryActual {p : SourceParameter} {type : CType} (h : p.HasType type) (i : Nat) :
    (entryActual type i).text entryTypeNames = entryArgument p i := by
  obtain ⟨hspelled, haddress, hnumber⟩ := h
  unfold entryActual entryArgument
  rw [haddress, hspelled]
  by_cases hpointer : type.isPointer = true
  · have hread : (CType.pointer (.int .unsignedLong) true).spelling entryTypeNames =
        "const uint64_t*" := by rfl
    have hword : (CType.int .unsignedLong).spelling entryTypeNames = "uintptr_t" := by rfl
    rw [if_pos hpointer, if_pos hpointer]
    simp only [Expr.text, hread, hword, String.append_assoc]
    rfl
  · obtain ⟨t, rfl⟩ := hnumber (haddress.trans (by simpa using hpointer))
    have hread : (CType.pointer t.cType true).spelling entryTypeNames =
        "const " ++ t.cType.spelling entryTypeNames ++ "*" := by cases t <;> rfl
    rw [if_neg hpointer, if_neg hpointer]
    simp only [Expr.text, hread, String.append_assoc]
    rfl

/-- The entry function is written with the text of what it passes, one for each parameter. -/
theorem text_entryActuals (ndim : UInt64) (args : List Argument) :
    (entryActuals ndim args).map (Expr.text entryTypeNames) =
      (SourceParameter.ofKernel ndim args).mapIdx fun i p => entryArgument p i := by
  have htypes := SourceParameter.ofKernel_hasType ndim args
  apply List.ext_getElem
  · simp [entryActuals, htypes.length_eq]
  · intro i hi hi'
    simp only [entryActuals, List.getElem_map, List.getElem_mapIdx]
    exact text_entryActual (htypes.get (by simpa using hi') (by simpa [entryActuals] using hi)) i

/-- The entry function is written from the expressions for its parameters. -/
theorem entry_eq_entryText (name : String) (ndim : UInt64) (args : List Argument) :
    entry name (SourceParameter.ofKernel ndim args) =
      entryText name ((entryActuals ndim args).map (Expr.text entryTypeNames)) := by
  rw [text_entryActuals]
  simp only [entry, entryText, String.append_assoc]
  split
  · rfl
  · rfl

end Host

end KernelForge
