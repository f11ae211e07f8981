import KernelForge.Compiler.Grammar
import KernelForge.Compiler.Signature

/-!
# Calls

A call passes words. An object that is no word is passed as the address of a copy, and a result that is
no word is written to a place whose address comes first. Arguments beyond the declared ones lie in
memory, sixteen bytes each, and their address comes last. Functions of the compiler itself become the
terms that they stand for.
-/

namespace KernelForge.Compiler

open Code

namespace Compile

/-- The bytes that an argument beyond the declared ones takes. -/
def argumentStep : Nat := 16

/-- An argument as a word. -/
def argumentWord (v : Value) : Compile Term := do
  match v.type.scalar? with
  | some _ => return v.term
  | none =>
      let slot ← newVariable "" v.type.plain 1
      keepInMemory slot
      let copy ← writeTo (Value.object v.type.plain (.place slot 0)) v
      return (effectOf copy).andThen (.place slot 0)

/-- An argument without a declared type. -/
def widened (v : Value) : Compile Value := do
  let v ← readPromoted v
  if v.type.isVoid then refuse "an argument without a value"
  match v.type.floatKind? with
  | some .single =>
      warn "double-promotion" "a number is widened"
      convertNumber (.float .double) v
  | _ => return v

/-- Brings arguments to the types of parameters. -/
def matchArguments (style : ParamStyle) : List SourceType → List Value → Compile (List Value × List Value)
  | [], [] => return ([], [])
  | type :: types, v :: rest => do
      let v ← read v
      let v ← assigned type v
      let (done, more) ← matchArguments style types rest
      return (v :: done, more)
  | [], rest => do
      if style = .exact then refuse "too many arguments"
      return ([], ← rest.mapM widened)
  | _ :: _, [] => refuse "too few arguments"

/-- The words of the arguments beyond the declared ones, put into memory. -/
def furtherWords (more : List Value) : Compile Term := do
  let slot ← newVariable "" (.array (.int .unsignedLong) (.known (2 * max 1 more.length))) 16
  keepInMemory slot
  let stores ← (more.zipIdx).mapM fun (v, i) => do
    let word ← argumentWord v
    let s := (v.type.scalar?).getD .address
    let s := match s with
      | .int kind => if kind.bytes < 8 then WordType.int (if kind.isSigned then .long else .unsignedLong) else .int kind
      | s => s
    let word := Term.converted ((v.type.scalar?).getD .address) s word
    return Term.sequence (.store s (.place slot (argumentStep * i : Nat)) word) .nothing
  return (Term.all stores.reverse).andThen (.place slot 0)

/-- Whether a function is the one of the library and not one of the source. -/
def isLibrary (name : String) : Compile Bool := do
  if name.isEmpty then return false
  match ← global? name with
  | some g => return !g.isDefined && g.isFunction && !g.isStatic
  | none => return true

/-- Calls a function. -/
def call (function : Value) (args : List Value) : Compile Value := do
  let function ← read function
  match function.type.target? with
  | some (.function result params style) =>
      let (declared, more) ← matchArguments style params.paramList args
      if style = .unsaid then warn "deprecated-non-prototype" "a call without a prototype"
      let folded ← do
        let words := declared.map fun v =>
          match v.form with
          | .term (.word _ bits) => some bits
          | _ => none
        let isNamed := function.form matches .term (.symbol _ _)
        if isNamed && more.isEmpty && words.all Option.isSome && !words.isEmpty && (← isLibrary function.name) then
          pure (Mathematics.call? function.name (words.filterMap id))
        else pure none
      match folded, result.scalar? with
      | some bits, some s => return Value.ofTerm result.plain (.word s bits)
      | _, _ =>
          let words ← declared.mapM argumentWord
          let extra ← if style = .variadic then do pure [← furtherWords more]
            else more.mapM argumentWord
          if !result.isVoid && !(← isComplete result) then refuse "a result of incomplete type"
          if result.isVoid then
            return Value.ofTerm .void (.call false function.term (.args (words ++ extra)))
          else if result.scalar?.isSome then
            return Value.ofTerm result.plain (.call true function.term (.args (words ++ extra)))
          else
            warn "aggregate-return" "a result that is no word"
            let slot ← newVariable "" result.plain 1
            keepInMemory slot
            let t := Term.call false function.term (.args (.place slot 0 :: words ++ extra))
            read (Value.readOnly result.plain (t.andThen (.place slot 0)))
  | _ => refuse "something is called that is no function"

/-- Two numbers of one floating-point type, which can be repeated. -/
def commonFloats (a b : Value) : Compile (Term × WordType × Term × Term) := do
  let a ← read a
  let b ← read b
  if !a.type.isReal || !b.type.isReal then refuse "operands that are no numbers"
  let type := commonType (promotedType a) (promotedType b)
  if !type.isFloat then refuse "operands without a floating-point number"
  let s := partScalar type
  let (first, x) ← repeatable s (← convertNumber type a).term
  let (second, y) ← repeatable s (← convertNumber type b).term
  return (first.andThen second, s, x, y)

/-- A floating-point number that can be repeated. -/
def oneFloat (v : Value) : Compile (Term × FloatKind × Term) := do
  let v ← read v
  match v.type.floatKind? with
  | some kind =>
      let (setup, x) ← repeatable (.float kind) v.term
      return (setup, kind, x)
  | none => refuse "an argument that is no floating-point number"

/-- An `int` from a term. -/
def intValue (setup t : Term) : Value := Value.ofTerm (.int .int) (setup.andThen t)

/-- The least number with all digits, and infinity, as words. -/
def limitsOf (kind : FloatKind) : Term × Term :=
  (.word (.float kind) (kind.ofDatum (.finite false 1 (kind.format.leastExponent + kind.format.fractionBits))),
    .word (.float kind) (kind.ofDatum (.infinite false)))

/-- Functions that ask about floating-point numbers. -/
def classify (name : String) (args : List Value) : Compile (Option Value) := do
  let two := Term.applyTwo
  match name, args with
  | "isnan", [v] =>
      let (setup, kind, x) ← oneFloat v
      return some (intValue setup (two .ne (.float kind) x x))
  | "isinf_sign", [v] | "isinf", [v] =>
      let (setup, kind, x) ← oneFloat v
      let s := WordType.float kind
      let inf := (limitsOf kind).2
      return some (intValue setup (Term.chosen (two .eq s x inf) (.int .int 1)
        (Term.chosen (two .eq s x (Term.applyOne .negate s inf)) (.int .int (-1)) (.int .int 0))))
  | "isfinite", [v] | "finite", [v] =>
      let (setup, kind, x) ← oneFloat v
      let s := WordType.float kind
      return some (intValue setup (two .lt s (Term.applyOne .magnitude s x) (limitsOf kind).2))
  | "isnormal", [v] =>
      let (setup, kind, x) ← oneFloat v
      let s := WordType.float kind
      let m := Term.applyOne .magnitude s x
      return some (intValue setup (Term.both (two .ge s m (limitsOf kind).1) (two .lt s m (limitsOf kind).2)))
  | "signbit", [v] | "signbitf", [v] | "signbitl", [v] =>
      let (setup, kind, x) ← oneFloat v
      return some (intValue setup (Term.applyOne .sign (.float kind) x))
  | "issignaling", [v] =>
      let (setup, _, _) ← oneFloat v
      return some (intValue setup (.int .int 0))
  | "fpclassify", [a, b, c, d, e, v] =>
      let (setup, kind, x) ← oneFloat v
      let s := WordType.float kind
      let m := Term.applyOne .magnitude s x
      let int (v : Value) : Compile Term := do return (← assigned (.int .int) (← read v)).term
      return some (intValue setup (Term.chosen (two .ne s x x) (← int a)
        (Term.chosen (two .eq s m (limitsOf kind).2) (← int b)
          (Term.chosen (two .ge s m (limitsOf kind).1) (← int c)
            (Term.chosen (two .eq s m (.word s 0)) (← int e) (← int d))))))
  | "isgreater", [a, b] => compare .gt a b
  | "isgreaterequal", [a, b] => compare .ge a b
  | "isless", [a, b] => compare .lt a b
  | "islessequal", [a, b] => compare .le a b
  | "iseqsig", [a, b] => compare .eq a b
  | "islessgreater", [a, b] =>
      let (setup, s, x, y) ← commonFloats a b
      return some (intValue setup (.either (two .lt s x y) (two .gt s x y)))
  | "isunordered", [a, b] =>
      let (setup, s, x, y) ← commonFloats a b
      return some (intValue setup (.either (two .ne s x x) (two .ne s y y)))
  | _, _ => return none
where
  /-- A comparison. -/
  compare (op : Operator) (a b : Value) : Compile (Option Value) := do
    let (setup, s, x, y) ← commonFloats a b
    return some (intValue setup (Term.applyTwo op s x y))

/-- Arithmetic that says whether the result fits. -/
def overflowing (op : Operator) (a b : Value) (target : Option Value) (type : SourceType) :
    Compile Value := do
  let wide : WordType := .int .wide
  let word (v : Value) : Compile Term := do
    let v ← read v
    match v.type.intKind? with
    | some kind => return Term.converted (.int kind) wide v.term
    | none => refuse "an operand that is no integer"
  let (setup, exact) ← repeatable wide (Term.applyTwo op wide (← word a) (← word b))
  match type.intKind? with
  | none => refuse "a result that is no integer"
  | some kind =>
      let cut := Term.converted wide (.int kind) exact
      let write ← match target with
        | some object => do pure (effectOf (← writeTo object (Value.ofTerm type cut)))
        | none => pure .nothing
      let changed := Term.applyTwo .ne wide (Term.converted (.int kind) wide cut) exact
      return Value.ofTerm (.int .bool)
        (setup.andThen (write.andThen (Term.converted (.int .int) (.int .bool) changed)))

/-- The object that an argument points to, with an address that can be repeated. -/
def argumentObject (v : Value) : Compile (Term × Value) := do
  repeatableObject (← dereference v)

/-- The operation in the name of a function that changes an object at once. -/
def atomicOperator : String → Option (Operator × Bool)
  | "add" => some (.add, false)
  | "sub" => some (.sub, false)
  | "and" => some (.and, false)
  | "or" => some (.or, false)
  | "xor" => some (.xor, false)
  | "nand" => some (.and, true)
  | _ => none

/-- Changes an object and gives what it held before or after. -/
def atomicChange (op : Operator) (complements old : Bool) (object v : Value) : Compile Value := do
  let (setup, object) ← argumentObject object
  let type := object.type.plain
  let s := (type.scalar?).getD (.int .int)
  let before ← newTemporary s
  let after_ ← newTemporary s
  let current ← read { object with type := type }
  let v ← read v
  let amount := if type.isPointer then Term.converted ((v.type.scalar?).getD s) s v.term
    else (retype type v).term
  let fresh := Term.applyTwo op s (.get before) amount
  let fresh := if complements then Term.applyOne .complement s fresh else fresh
  let write ← writeTo { object with type := type } (Value.ofTerm type (.get after_))
  let t := setup.andThen (.sequence (.set before current.term)
    (.sequence (.set after_ fresh) (.sequence write.term (.get (if old then before else after_)))))
  return Value.ofTerm type t

/-- Replaces what an object holds if it is as expected. -/
def atomicSwap (object expected desired : Value) (givesOld : Bool) : Compile Value := do
  let (setup, object) ← argumentObject object
  let type := object.type.plain
  let s := (type.scalar?).getD (.int .int)
  let before ← newTemporary s
  let current ← read { object with type := type }
  let expected ← read expected
  let desired ← read desired
  let write ← writeTo { object with type := type } (retype type desired)
  let same := Term.applyTwo .eq s (.get before) (retype type expected).term
  let ok ← newTemporary (.int .int)
  let t := setup.andThen (.sequence (.set before current.term) (.sequence (.set ok same)
    (.sequence (.choose (.get ok) (effectOf write) .nothing)
      (if givesOld then .get before else Term.converted (.int .int) (.int .bool) (.get ok)))))
  return Value.ofTerm (if givesOld then type else .int .bool) t

/-- Functions that change objects at once. -/
def atomic (name : String) (args : List Value) : Compile (Option Value) := do
  let plain := ((name.splitOn "_n").headD name)
  let store (object v : Value) : Compile Value := do
    let o ← dereference object
    let o := { o with type := o.type.plain }
    return Value.ofTerm .void (effectOf (← writeTo o (← assigned o.type (← read v))))
  let void (t : Term) : Compile (Option Value) := return some (Value.ofTerm .void t)
  match plain, args with
  | "__atomic_load", [p, _] => return some (← read (← dereference p))
  | "__atomic_load", [p, r, _] => return some (← store r (← dereference p))
  | "__atomic_store", p :: v :: _ =>
      if name.endsWith "_n" then return some (← store p v) else return some (← store p (← dereference v))
  | "__atomic_exchange", [p, v, _] => do
      let (setup, o) ← argumentObject p
      let type := o.type.plain
      let slot ← newTemporary ((type.scalar?).getD (.int .int))
      let old ← read { o with type := type }
      let w ← writeTo { o with type := type } (← assigned type (← read v))
      return some (Value.ofTerm type (setup.andThen (.sequence (.set slot old.term)
        (.sequence w.term (.get slot)))))
  | "__atomic_compare_exchange", p :: e :: d :: _ =>
      let (setup, expected) ← argumentObject e
      let type := expected.type.plain
      let old ← atomicSwap p { expected with type := type } d true
      let slot ← newTemporary ((type.scalar?).getD (.int .int))
      let s := (type.scalar?).getD (.int .int)
      let ok ← newTemporary (.int .int)
      let wanted ← read { expected with type := type }
      let write ← writeTo { expected with type := type } (Value.ofTerm type (.get slot))
      let keep ← newTemporary s
      return some (Value.ofTerm (.int .bool) (setup.andThen (.sequence (.set keep wanted.term)
        (.sequence (.set slot old.term)
        (.sequence (.set ok (Term.applyTwo .eq s (.get slot) (.get keep)))
          (.sequence (.choose (.get ok) .nothing (effectOf write))
            (Term.converted (.int .int) (.int .bool) (.get ok))))))))
  | "__atomic_test_and_set", [p, _] => do
      let q ← read p
      let (setup, a) ← repeatableAddress q.term
      let byte : WordType := .int .unsignedChar
      let slot ← newTemporary byte
      return some (Value.ofTerm (.int .bool) (setup.andThen (.sequence (.set slot (.load byte a))
        (.sequence (.store byte a (.word byte 1)) (Term.converted byte (.int .bool) (.get slot))))))
  | "__atomic_clear", [p, _] => do
      let q ← read p
      void (.sequence (.store (.int .unsignedChar) q.term (.word (.int .unsignedChar) 0)) .nothing)
  | "__atomic_thread_fence", _ | "__atomic_signal_fence", _ | "__sync_synchronize", _ => void .nothing
  | "__atomic_always_lock_free", _ | "__atomic_is_lock_free", _ => return some (Value.ofInt (.int .bool) 1)
  | "__sync_bool_compare_and_swap", p :: e :: d :: _ => return some (← atomicSwap p e d false)
  | "__sync_val_compare_and_swap", p :: e :: d :: _ => return some (← atomicSwap p e d true)
  | "__sync_lock_test_and_set", p :: v :: _ => do
      let (setup, o) ← argumentObject p
      let type := o.type.plain
      let slot ← newTemporary ((type.scalar?).getD (.int .int))
      let old ← read { o with type := type }
      let w ← writeTo { o with type := type } (← assigned type (← read v))
      return some (Value.ofTerm type (setup.andThen (.sequence (.set slot old.term)
        (.sequence w.term (.get slot)))))
  | "__sync_lock_release", p :: _ => return some (← store p (Value.ofInt (.int .int) 0))
  | _, p :: v :: _ =>
      let change (start stop : String) : Option (Operator × Bool) :=
        if name.startsWith start && name.endsWith stop then
          atomicOperator (String.ofList ((name.toList.drop start.length).take
            (name.length - start.length - stop.length)))
        else none
      match change "__atomic_fetch_" "", change "__sync_fetch_and_" "" with
      | some (op, c), _ | _, some (op, c) => return some (← atomicChange op c true p v)
      | none, none =>
          match change "__atomic_" "_fetch", change "__sync_" "_and_fetch" with
          | some (op, c), _ | _, some (op, c) => return some (← atomicChange op c false p v)
          | none, none => return none
  | _, _ => return none

/-- The address of a list of arguments. -/
def argumentList (v : Value) : Compile Term := do
  let r ← read v
  if !r.type.isPointer then refuse "no list of arguments"
  return r.term

/-- Functions that are known by names that begin with `__builtin_`. -/
def builtin (name : String) (args : List Value) : Compile (Option Value) := do
  let void (t : Term) : Compile (Option Value) := return some (Value.ofTerm .void t)
  let special (kind : FloatKind) (d : Datum) : Compile (Option Value) :=
    return some (Value.ofTerm (.float kind) (.word (.float kind) (kind.ofDatum d)))
  match name, args with
  | "expect", a :: _ | "expect_with_probability", a :: _ =>
      return some (← assigned (.int .long) (← read a))
  | "unreachable", _ => void (.request .trap .nothing)
  | "trap", _ => void (.request .trap .nothing)
  | "huge_val", _ | "inf", _ => special .double (.infinite false)
  | "huge_valf", _ | "inff", _ => special .single (.infinite false)
  | "huge_vall", _ | "infl", _ => special .extended (.infinite false)
  | "nan", [_] | "nans", [_] => special .double (.nan false 0)
  | "nanf", [_] | "nansf", [_] => special .single (.nan false 0)
  | "nanl", [_] | "nansl", [_] => special .extended (.nan false 0)
  | "constant_p", [a] =>
      let v ← read a
      let isText := match a.form with
        | .place (.symbol _ _) => a.op = "text"
        | _ => false
      let known := isText || match v.form with
        | .term (.word _ _) => true
        | _ => false
      return some (Value.ofInt (.int .int) (if known then 1 else 0))
  | "classify_type", [a] =>
      let v ← read a
      let n : Int := if v.type.isPointer then 5 else if v.type.isFloat then 8 else if v.type.isComplex then 9
        else if v.type.isRecord then 12 else 1
      return some (Value.ofInt (.int .int) n)
  | "LINE", _ => return some (Value.ofInt (.int .int) (← get).line)
  | "prefetch", _ | "ia32_pause", _ | "cpu_init", _ => void (Term.all (args.map effectOf))
  | "cpu_supports", _ | "cpu_is", _ => return some (Value.ofInt (.int .int) 0)
  | "assume_aligned", a :: _ => return some { ← read a with type := .pointer .void }
  | "extract_return_addr", [a] => read a
  | "return_address", _ => return some (Value.ofTerm (.pointer .void) (.address 0))
  | "frame_address", _ => return some (Value.ofTerm (.pointer .void) (.request .top .nothing))
  | "object_size", [a, b] | "dynamic_object_size", [a, b] =>
      let kind := ((← read b).intValue?).getD 0
      let _ := a
      return some (Value.ofInt (.int .unsignedLong) (if kind < 2 then 18446744073709551615 else 0))
  | "alloca", a :: _ =>
      let n ← assigned SourceType.sizeType (← read a)
      return some (Value.ofTerm (.pointer .void) (.request .allocate (.args [n.term])))
  | "va_start", a :: _ =>
      if !((← function?).any (·.isVariadic)) then refuse "no further arguments"
      let list ← argumentList a
      void (.sequence (.store .address (list.plus 8) (.request .furtherArguments .nothing)) .nothing)
  | "va_end", [a] => void ((← argumentList a).andThen .nothing)
  | "va_copy", [a, b] => void (.copy (← argumentList a) (← argumentList b) (.address 24))
  | "add_overflow_p", [a, b, c] => return some (← overflowing .add a b none (← read c).type)
  | "sub_overflow_p", [a, b, c] => return some (← overflowing .sub a b none (← read c).type)
  | "mul_overflow_p", [a, b, c] => return some (← overflowing .mul a b none (← read c).type)
  | _, [a, b, c] =>
      let op : Option Operator :=
        if name.endsWith "_overflow" then
          if (name.splitOn "add").length = 2 then some .add
          else if (name.splitOn "sub").length = 2 then some .sub
          else if (name.splitOn "mul").length = 2 then some .mul else none
        else none
      match op with
      | some op =>
          let object ← dereference c
          let given := (String.ofList (name.toList.take 1))
          let type := object.type.plain
          let cast (v : Value) : Compile Value := do
            if given = "s" || given = "u" then
              if name.startsWith "sub_" then return v else convertNumber type (← read v)
            else return v
          return some (← overflowing op (← cast a) (← cast b) (some object) type)
      | none => classify name args
  | _, _ => classify name args

end Compile

end KernelForge.Compiler
