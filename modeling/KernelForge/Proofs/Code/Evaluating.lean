import KernelForge.Code.Eval
import Mathlib.Data.List.Forall2

/-!
# Expressions that leave the state alone

On a machine that does not cut integers, expressions of local variables, literals, sums and products
have the values that mathematics gives them, whatever integer types their parts have. A pointer with
an offset leads to the address so many objects further on.
-/

namespace KernelForge.Code

variable {M : Machine} {ctx : Context M} {s : RunState M}

/-- A run goes on with the result and the state of the run before it. -/
theorem run_bind {α β : Type} {run : Run M α} {next : α → Run M β} {s s' : RunState M} {a : α}
    (h : run s = .ok (a, s')) : (run >>= next) s = next a s' := by
  change Except.bind (run s) (fun result => next result.1 result.2) = _
  rw [h]
  rfl

/-- A value that is computed without a state. -/
theorem run_liftM {α : Type} {value : Except Fault α} {a : α} (h : value = .ok a) :
    (liftM value : Run M α) s = .ok (a, s) := by
  rw [h]
  rfl

/-- Expressions that leave the state as it is are evaluated one by one. -/
theorem evalAll_eq {es : List Expr} {vs : List (Value M.Real)}
    (h : List.Forall₂ (fun e v => e.eval ctx s = .ok (v, s)) es vs) :
    Expr.evalAll es ctx s = .ok (vs, s) := by
  induction h with
  | nil => rfl
  | cons hfirst _ ih => exact (run_bind hfirst).trans (run_bind ih)

/-! ### Local variables -/

/-- The local variables that code sees: those of its callers are hidden. -/
def RunState.visible (s : RunState M) (ctx : Context M) : List (Local M) :=
  s.locals.take (s.locals.length - ctx.frame)

/-- A name stands for the first variable of the name that code sees. -/
theorem lookup_slot {name : String} {x : Local M} {i : Nat}
    (hfind : (s.visible ctx).findIdx? (·.name = name) = some i) (hget : s.locals[i]? = some x) :
    lookup ctx name s = .ok ((x.type, .slot (s.locals.length - 1 - i)), s) := by
  rw [RunState.visible] at hfind
  simp only [lookup, hfind, hget]

/-- A name of no local variable stands for what is outside all functions. -/
theorem lookup_global {name : String} {place : CType × Location}
    (hlocal : (s.visible ctx).findIdx? (·.name = name) = none)
    (hglobal : ctx.global name = some place) : lookup ctx name s = .ok (place, s) := by
  rw [RunState.visible] at hlocal
  simp only [lookup, hlocal, hglobal]

/-- A name stands for the newest local variable of the name. -/
theorem lookup_visible {name : String} {x : Local M}
    (h : (s.visible ctx).find? (·.name = name) = some x) :
    ∃ i, s.locals[i]? = some x ∧
      lookup ctx name s = .ok ((x.type, .slot (s.locals.length - 1 - i)), s) := by
  have hname : decide (x.name = name) = true :=
    List.find?_some (p := fun x : Local M => decide (x.name = name)) h
  obtain ⟨i, hi⟩ : ∃ i, (s.visible ctx).findIdx? (·.name = name) = some i := by
    rw [← Option.isSome_iff_exists, List.findIdx?_isSome, List.any_eq_true]
    exact ⟨x, List.mem_of_find?_eq_some h, hname⟩
  have hget : (s.visible ctx)[i]? = some x := by
    rw [← h, List.find?_eq_bind_findIdx?_getElem?, hi, Option.bind_some]
  have hlocal : s.locals[i]? = some x := by
    rw [RunState.visible, List.getElem?_take] at hget
    split at hget
    · exact hget
    · cases hget
  exact ⟨i, hlocal, lookup_slot hi hlocal⟩

/-- The value of a slot is read from the local variable there. -/
theorem readPlace_slot {i : Nat} {x : Local M} (h : s.locals[i]? = some x)
    (hscalar : x.type.isScalar = true) :
    readPlace (x.type, .slot (s.locals.length - 1 - i)) s = .ok (x.value, s) := by
  have hi : i < s.locals.length := (List.getElem?_eq_some_iff.mp h).1
  have hslot : s.locals.length - 1 - (s.locals.length - 1 - i) = i := by omega
  have hlt : s.locals.length - 1 - i < s.locals.length := by omega
  obtain ⟨name, type, value⟩ := x
  cases type
  case void | array | function => cases hscalar
  all_goals simp [readPlace, hslot, h, hlt]

/-- A local variable has its value. -/
theorem eval_var {name : String} {x : Local M}
    (h : (s.visible ctx).find? (·.name = name) = some x) (hscalar : x.type.isScalar = true) :
    (Expr.var name).eval ctx s = .ok (x.value, s) := by
  obtain ⟨i, hlocal, hlookup⟩ := lookup_visible h
  exact (run_bind hlookup).trans (readPlace_slot hlocal hscalar)

/-- Newer local variables of other names do not hide a local variable. -/
theorem find?_append_of_ne {above own : List (Local M)} {name : String}
    (habove : ∀ x ∈ above, x.name ≠ name) :
    (above ++ own).find? (·.name = name) = own.find? (·.name = name) := by
  have hnone : above.find? (·.name = name) = none := by
    rw [List.find?_eq_none]
    exact fun x hx => by simpa using habove x hx
  rw [List.find?_append, hnone, Option.none_or]

/-- Code sees the local variables that were added since it was called. -/
theorem visible_append {memory : M.Memory} {own outer : List (Local M)}
    (hframe : ctx.frame = outer.length) :
    RunState.visible ⟨memory, own ++ outer⟩ ctx = own := by
  rw [RunState.visible, hframe, List.length_append, Nat.add_sub_cancel, List.take_left]

/-- Code that nobody called sees all local variables. -/
theorem visible_all (hframe : ctx.frame = 0) : s.visible ctx = s.locals := by
  rw [RunState.visible, hframe, Nat.sub_zero, List.take_length]

/-! ### Integers -/

/-- A machine that does not cut integers to their types. -/
def Machine.IsExact (M : Machine) : Prop := ∀ kind n, M.wrap kind n = n

/-- A machine leaves an integer as it is in all types that arithmetic is done in. -/
def Machine.Holds (M : Machine) (n : Int) : Prop :=
  ∀ kind : IntKind, IntKind.int.rank ≤ kind.rank → M.wrap kind n = n

/-- An exact machine holds every integer. -/
theorem Machine.IsExact.holds (hexact : M.IsExact) (n : Int) : M.Holds n :=
  fun kind _ => hexact kind n

/-- A promoted type ranks at least as high as `int`. -/
theorem IntKind.rank_promote (kind : IntKind) : int.rank ≤ kind.promote.rank := by
  cases kind <;> decide

/-- A type and its unsigned partner rank equal. -/
theorem IntKind.rank_toUnsigned (kind : IntKind) : kind.toUnsigned.rank = kind.rank := by
  cases kind <;> rfl

/-- Arithmetic is done in types that are at least as wide as `int`. -/
theorem IntKind.rank_common (a b : IntKind) : int.rank ≤ (a.common b).rank := by
  have ha := a.rank_promote
  have hb := b.rank_promote
  simp only [common, balance]
  split
  · split
    · exact hb
    · exact ha
  · cases a.promote.isSigned
    · simp only [Bool.false_eq_true, if_false]
      split
      · exact ha
      · split
        · exact hb
        · rw [rank_toUnsigned]
          exact hb
    · simp only [if_true]
      split
      · exact hb
      · split
        · exact ha
        · rw [rank_toUnsigned]
          exact ha

/-- An integer is brought to the type `int` by a machine that does not cut it. -/
theorem convert_int_of_holds {n : Int} (hn : M.Holds n) (kind : IntKind) :
    Value.convert (M := M) (.int .int) (.int kind n) = .ok (.int .int n) := by
  simp only [Value.convert, hn .int (Nat.le_refl _)]

/-- An integer that becomes an `int` keeps its value on an exact machine. -/
theorem convert_int (hexact : M.IsExact) (kind : IntKind) (n : Int) :
    Value.convert (M := M) (.int .int) (.int kind n) = .ok (.int .int n) :=
  convert_int_of_holds (hexact.holds n) kind

/-- An expression has an integer value of some type, and leaves the state as it is. -/
def Expr.Counts (e : Expr) (ctx : Context M) (s : RunState M) (n : Int) : Prop :=
  ∃ kind, e.eval ctx s = .ok (.int kind n, s)

namespace Expr.Counts

variable {a b : Expr} {m n : Int}

/-- A literal counts as its value. -/
theorem literal (n : Nat) (kind : IntKind) : (Expr.intLit n kind).Counts ctx s n :=
  ⟨kind.ofLiteral n, rfl⟩

/-- A variable counts as the integer that it holds. -/
theorem var {name : String} {x : Local M} {kind : IntKind}
    (h : (s.visible ctx).find? (·.name = name) = some x) (hscalar : x.type.isScalar = true)
    (hvalue : x.value = .int kind n) : (Expr.var name).Counts ctx s n :=
  ⟨kind, hvalue ▸ eval_var h hscalar⟩

/-- Parentheses change nothing. -/
theorem paren (h : a.Counts ctx s n) : (Expr.paren a).Counts ctx s n := h

section Holds

variable (hm : M.Holds m) (hn : M.Holds n)

include hm hn

/-- An operation other than a shift has its mathematical result, whatever types the operands have, if
the machine leaves the operands and the result as they are. The result of a comparison is not cut. -/
theorem binary_of_holds {op : BinaryOp} {r : Int} (ha : a.Counts ctx s m) (hb : b.Counts ctx s n)
    (hshift : op.isShift = false) (h : op.ofInts m n = .ok r)
    (hr : op.isComparison = false → M.Holds r) : (Expr.binary op a b).Counts ctx s r := by
  obtain ⟨ka, ha⟩ := ha
  obtain ⟨kb, hb⟩ := hb
  have hkind := IntKind.rank_common ka kb
  have hoperation : intOperation M op ka m kb n =
      .ok (if op.isComparison then .int .int r else .int (ka.common kb) r) := by
    simp only [intOperation, hshift, hm _ hkind, hn _ hkind, h]
    cases hcomparison : op.isComparison with
    | true => rfl
    | false =>
      change Except.ok (Value.int _ (M.wrap _ r)) = _
      rw [hr hcomparison _ hkind]
      rfl
  refine ⟨if op.isComparison then .int else ka.common kb,
    (run_bind ha).trans ((run_bind hb).trans ((run_liftM hoperation).trans ?_))⟩
  cases op.isComparison <;> rfl

/-- Integers are added if the machine leaves them and the sum as they are. -/
theorem add_of_holds (ha : a.Counts ctx s m) (hb : b.Counts ctx s n) (hsum : M.Holds (m + n)) :
    (Expr.binary .add a b).Counts ctx s (m + n) :=
  ha.binary_of_holds hm hn hb rfl rfl fun _ => hsum

/-- A difference counts as that of the counts, if the machine holds it. -/
theorem sub_of_holds (ha : a.Counts ctx s m) (hb : b.Counts ctx s n)
    (hdifference : M.Holds (m - n)) : (Expr.binary .sub a b).Counts ctx s (m - n) :=
  ha.binary_of_holds hm hn hb rfl rfl fun _ => hdifference

/-- So does a product. -/
theorem mul_of_holds (ha : a.Counts ctx s m) (hb : b.Counts ctx s n) (hproduct : M.Holds (m * n)) :
    (Expr.binary .mul a b).Counts ctx s (m * n) :=
  ha.binary_of_holds hm hn hb rfl rfl fun _ => hproduct

/-- A quotient is cut toward zero. -/
theorem div_of_holds (ha : a.Counts ctx s m) (hb : b.Counts ctx s n) (hne : n ≠ 0)
    (hquotient : M.Holds (m.tdiv n)) : (Expr.binary .div a b).Counts ctx s (m.tdiv n) :=
  ha.binary_of_holds hm hn hb rfl (if_neg hne) fun _ => hquotient

/-- A comparison counts as one if it holds, and as zero otherwise. -/
theorem lt_of_holds (ha : a.Counts ctx s m) (hb : b.Counts ctx s n) :
    (Expr.binary .lt a b).Counts ctx s (if m < n then 1 else 0) := by
  refine ha.binary_of_holds hm hn hb rfl ?_ nofun
  simp only [BinaryOp.ofInts, decide_eq_true_eq]

end Holds

variable (hexact : M.IsExact)

include hexact

/-- An exact machine holds every sum. -/
theorem add (ha : a.Counts ctx s m) (hb : b.Counts ctx s n) :
    (Expr.binary .add a b).Counts ctx s (m + n) :=
  ha.add_of_holds (hexact.holds _) (hexact.holds _) hb (hexact.holds _)

/-- It holds every product. -/
theorem mul (ha : a.Counts ctx s m) (hb : b.Counts ctx s n) :
    (Expr.binary .mul a b).Counts ctx s (m * n) :=
  ha.mul_of_holds (hexact.holds _) (hexact.holds _) hb (hexact.holds _)

/-- And it compares all integers. -/
theorem lt (ha : a.Counts ctx s m) (hb : b.Counts ctx s n) :
    (Expr.binary .lt a b).Counts ctx s (if m < n then 1 else 0) :=
  ha.lt_of_holds (hexact.holds _) (hexact.holds _) hb

end Expr.Counts

/-! ### Numbers -/

/-- A number is compared with zero. -/
theorem eval_isZero {a : Expr} {kind : FloatKind} {x : M.Real kind}
    (h : a.eval ctx s = .ok (.float kind x, s)) :
    (Expr.paren (.binary .eq a (.intLit 0 .int))).eval ctx s =
      .ok (.ofBool (M.eq x (M.ofInt kind 0)), s) := by
  have hzero : (Expr.intLit 0 .int).eval ctx s = .ok (.int .int 0, s) := by
    rw [Expr.eval]
    rfl
  rw [Expr.eval, Expr.eval, run_bind h, run_bind hzero]
  exact run_liftM rfl

/-! ### Pointers -/

/-- A number or address is read from where the machine loads it. -/
theorem readPlace_address {type : CType} {address : Int} {v : Value M.Real}
    (hscalar : type.isScalar = true) (hload : M.load s.memory type address = some v) :
    readPlace (type, .address address) s = .ok (v, s) := by
  cases type
  case void | array | function => cases hscalar
  all_goals simp [readPlace, hload]

/-- A number or address is written to where the machine stores it. -/
theorem writePlace_address {type : CType} {address : Int} {v w : Value M.Real} {memory : M.Memory}
    (hconvert : v.convert type = .ok w) (hstore : M.store s.memory address w = some memory) :
    writePlace (type, .address address) v s = .ok (w, ⟨memory, s.locals⟩) := by
  obtain ⟨before, locals⟩ := s
  simp only [writePlace, hconvert, hstore]

/-- An expression is a pointer to objects of a type, and leaves the state as it is. -/
def Expr.Points (e : Expr) (ctx : Context M) (s : RunState M) (type : CType) (address : Int) :
    Prop :=
  e.eval ctx s = .ok (.pointer type (.address address), s)

namespace Expr.Points

variable {pointer offset : Expr} {type : CType} {address n : Int}

/-- A variable that holds an address points there. -/
theorem var {name : String} {x : Local M}
    (h : (s.visible ctx).find? (·.name = name) = some x) (hscalar : x.type.isScalar = true)
    (hvalue : x.value = .pointer type (.address address)) :
    (Expr.var name).Points ctx s type address :=
  (eval_var h hscalar).trans (by rw [hvalue])

/-- An entry of an array is so many objects further on. -/
theorem place_index (hpointer : pointer.Points ctx s type address)
    (hoffset : offset.Counts ctx s n) :
    (pointer.index offset).place ctx s =
      .ok ((type, .address (address + n * type.bytes)), s) := by
  obtain ⟨kind, hoffset⟩ := hoffset
  exact (run_bind hpointer).trans (run_bind hoffset)

/-- What is loaded from there is its value. -/
theorem eval_index (hpointer : pointer.Points ctx s type address)
    (hoffset : offset.Counts ctx s n) {v : Value M.Real} (hscalar : type.isScalar = true)
    (hload : M.load s.memory type (address + n * type.bytes) = some v) :
    (pointer.index offset).eval ctx s = .ok (v, s) := by
  obtain ⟨kind, hoffset⟩ := hoffset
  exact (run_bind hpointer).trans ((run_bind hoffset).trans (readPlace_address hscalar hload))

end Expr.Points

end KernelForge.Code
