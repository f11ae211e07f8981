import Mathlib.Order.Defs.LinearOrder
import KernelForge.Template.Params

/-!
# The order of parameter sets

Values are compared by their types first, then by a number and then by a text; each type has one of the
two. Sets are compared binding by binding. What is put together of orders in these ways is an order, so
the laws of the orders of numbers and texts carry over.
-/

namespace KernelForge

open Std

namespace ParamValue

/-- The place of the type of a value among the types. -/
def rank : ParamValue → Nat
  | int _ => 0
  | bool _ => 1
  | text _ => 2
  | elementType _ => 3

/-- The number that is in a value; none is in a text. -/
def number : ParamValue → Int
  | int value => value.toInt
  | bool value => value.toNat
  | text _ => 0
  | elementType value => value.rank

/-- The text that is in a value. -/
def letters : ParamValue → String
  | text value => value
  | int _ | bool _ | elementType _ => ""

/-- A value is known by its kind, its number and its letters. -/
theorem eq_of_parts {a b : ParamValue} (hrank : a.rank = b.rank) (hnumber : a.number = b.number)
    (hletters : a.letters = b.letters) : a = b := by
  cases a <;> cases b <;> try cases hrank
  case int v w => exact congrArg int (Int64.toInt_inj.mp hnumber)
  case bool v w => cases v <;> cases w <;> first | rfl | cases hnumber
  case text v w => exact congrArg text hletters
  case elementType v w => cases v <;> cases w <;> first | rfl | cases hnumber

/-- The comparison of values is the comparison of their parts, one after the other. -/
theorem compare_eq : ParamValue.compare =
    compareLex (compareOn rank) (compareLex (compareOn number) (compareOn letters)) := by
  funext a b
  cases a <;> cases b
  case int.int v w =>
    simp only [compare, compareLex, compareOn, rank, number, letters, ReflCmp.compare_self,
      Ordering.then_eq, Ordering.eq_then]
  case bool.bool v w => cases v <;> cases w <;> rfl
  case elementType.elementType v w => cases v <;> cases w <;> rfl
  -- Two texts have the same rank and number, and values of two types have different ranks.
  all_goals rfl

instance : Ord ParamValue := ⟨ParamValue.compare⟩

instance : TransOrd ParamValue := by
  change TransCmp ParamValue.compare
  rw [compare_eq]
  infer_instance

instance : LawfulEqOrd ParamValue where
  eq_of_compare {a b} h := by
    change ParamValue.compare a b = .eq at h
    rw [compare_eq] at h
    simp only [compareLex_eq_eq, compareOn, LawfulEqCmp.compare_eq_iff_eq] at h
    exact eq_of_parts h.1 h.2.1 h.2.2

end ParamValue

namespace Params

/-- Bindings are compared by their names first. -/
def compareBinding : String × ParamValue → String × ParamValue → Ordering :=
  compareLex (compareOn Prod.fst) (compareOn Prod.snd)

instance : TransCmp compareBinding := inferInstanceAs (TransCmp (compareLex _ _))

instance : LawfulEqCmp compareBinding where
  eq_of_compare h := by
    simp only [compareBinding, compareLex_eq_eq, compareOn, LawfulEqCmp.compare_eq_iff_eq] at h
    exact Prod.ext h.1 h.2

/-- Entries are compared in the order of the names, one binding after the other. -/
theorem compareEntries_eq : compareEntries = List.compareLex compareBinding := by
  funext a b
  induction a generalizing b with
  | nil => cases b <;> rfl
  | cons e rest ih =>
    cases b with
    | nil => rfl
    | cons e' rest' =>
      rw [compareEntries, ih, List.compareLex_cons_cons, ← Ordering.then_assoc]
      rfl

instance : TransCmp Params.compare where
  eq_swap {a b} := by
    rw [compare, compare, compareEntries_eq]
    exact OrientedCmp.eq_swap
  isLE_trans {a b c} hab hbc := by
    rw [compare, compareEntries_eq] at *
    exact TransCmp.isLE_trans hab hbc

instance : LawfulEqCmp Params.compare where
  eq_of_compare {a b} h := by
    rw [compare, compareEntries_eq, LawfulEqCmp.compare_eq_iff_eq] at h
    exact NameMap.eq_of_get? fun name => congrArg (NameMap.lookupEntry name) h

/-- Sets compare as equal only if they have the same bindings. -/
theorem compare_eq_iff {a b : Params} :
    a.compare b = .eq ↔ ∀ name, a.get? name = b.get? name := by
  rw [LawfulEqCmp.compare_eq_iff_eq]
  exact ⟨fun h name => h ▸ rfl, NameMap.eq_of_get?⟩

end Params

end KernelForge
