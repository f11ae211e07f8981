import KernelForge.Compiler.Assign

/-!
# Operations of expressions

What operators do with values: arithmetic on integers, floating-point and complex numbers and on
vectors of them, arithmetic and comparisons of addresses, and assignments that compute.
-/

namespace KernelForge.Compiler

open Code

/-- The operators on two operands that compute. -/
def operatorOf? : String → Option Operator
  | "+" => some .add
  | "-" => some .sub
  | "*" => some .mul
  | "/" => some .div
  | "%" => some .mod
  | "&" => some .and
  | "|" => some .or
  | "^" => some .xor
  | "<<" => some .shiftLeft
  | ">>" => some .shiftRight
  | "==" => some .eq
  | "!=" => some .ne
  | "<" => some .lt
  | "<=" => some .le
  | ">" => some .gt
  | ">=" => some .ge
  | _ => none

namespace Compile

/-- Warns about operators inside operators that are often meant otherwise. -/
def checkNesting (op : String) (a b : Value) : Compile Unit := do
  if !(← get).inHeader then
    let isComparison (s : String) : Bool := ["==", "!=", "<", "<=", ">", ">="].contains s
    let sums := ["+", "-"]
    let any (names : List String) : Bool := names.contains a.op || names.contains b.op
    let compares := isComparison a.op || isComparison b.op
    let suspicious := match op with
      | "<<" | ">>" => any sums
      | "||" => any ["&&"]
      | "|" => any ("&" :: "^" :: sums) || compares
      | "^" => any ("&" :: sums) || compares
      | "&" => any sums || compares || (a.op = "!" && b.op ≠ "!" && !b.type.isBool)
      | "==" | "!=" => compares
      | "<" | "<=" | ">" | ">=" => compares
      | _ => false
    if suspicious then warn "parentheses" "operators inside operators"
    if isComparison op && a.op = "!" && b.op ≠ "!" && !b.type.isBool then
      warn "logical-not-parentheses" "a negation in a comparison"

/-- The size of what a pointer points to, as a term. -/
def strideOf (target : SourceType) : Compile Term := do
  let s ← get
  if target.isVoid || target.isFunction then
    extension "arithmetic on an address of no object"
    warn "pointer-arith" "arithmetic on an address of no object"
    return .address 1
  else if !s.records.isComplete target then refuse "arithmetic on an address of an incomplete type"
  else
    match s.records.size? target with
    | some n => return .address n
    | none => counted target
where
  /-- The size of an array whose length is computed. -/
  counted (type : SourceType) : Compile Term := do
    match type with
    | .array element extent =>
        let inner ← counted element
        match extent with
        | .known n => return Term.applyTwo .mul .address (.address n) inner
        | .counted slot => return Term.applyTwo .mul .address (.get slot) inner
        | _ => refuse "the length of an array is missing"
    | .qualified _ t => counted t
    | t => return .address (← sizeOf t)

/-- An integer as an offset in units of a size. -/
def scaledOffset (v : Value) (stride : Term) : Compile Term := do
  let kind := (v.type.intKind?).getD .int
  return Term.applyTwo .mul .address (Term.converted (.int kind) .address v.term) stride

/-- An operation on two real numbers that have been converted to one type. -/
def arithmetic (op : Operator) (type : SourceType) (a b : Value) : Compile Value := do
  match type.scalar? with
  | none => refuse "operands that are no numbers"
  | some s =>
      if type.isFloat && [Operator.mod, .and, .or, .xor, .shiftLeft, .shiftRight].contains op then
        refuse "an operation on integers"
      let result := if op.isComparison then SourceType.int .int else type
      let t := Term.applyTwo op s a.term b.term
      let divides := (op = .div || op = .mod) && type.isInteger
      if divides && b.intValue? = some 0 then warn "div-by-zero" "a division by zero"
      match type.intKind?, a.intValue?, b.intValue? with
      | some kind, some x, some y =>
          let exact : Int := match op with
            | .add => x + y
            | .sub => x - y
            | .mul => x * y
            | .div => if y = 0 then 0 else x.tdiv y
            | _ => 0
          if kind.isSigned && !fits kind exact then forbid "overflow" "an integer is too large"
      | _, _, _ => pure ()
      let isExact := a.isExact && b.isExact && t.isConstant
      return { Value.ofTerm result t with isExact := isExact, isNull := isExact && t.intValue? = some 0 }

/-- An operation on complex numbers, where real ones stay as they are. -/
def complexArithmetic (op : Operator) (type : SourceType) (a b : Value) : Compile Value := do
  let part := (type.part?.getD type).plain
  let s := partScalar part
  let real (v : Value) : Compile (Term × Term × Option Term) := do
    if v.type.isComplex then
      let v ← convertNumber (.complex part) v
      let (setup, re, im) ← pairOf v
      return (setup, re, some im)
    else
      let (setup, t) ← repeatable s (← convertNumber part v).term
      return (setup, t, none)
  let (first, ar, ai?) ← real a
  let (second, br, bi?) ← real b
  let setup := first.andThen second
  let ai := ai?.getD (.word s 0)
  let bi := bi?.getD (.word s 0)
  let two := Term.applyTwo
  let pair (re im : Term) : Compile Value := do
    let (keep, re) ← repeatable s re
    let (keep', im) ← repeatable s im
    return { Value.ofTerm (.complex part) .nothing with
      form := .pair (setup.andThen (keep.andThen keep')) re im }
  match op with
  | .add =>
      pair (two .add s ar br) (if ai?.isNone then bi else if bi?.isNone then ai else two .add s ai bi)
  | .sub =>
      pair (two .sub s ar br)
        (if ai?.isNone then Term.applyOne .negate s bi else if bi?.isNone then ai
          else two .sub s ai bi)
  | .mul =>
      if ai?.isNone then pair (two .mul s ar br) (two .mul s ar bi)
      else if bi?.isNone then pair (two .mul s ar br) (two .mul s ai br)
      else
        pair (two .sub s (two .mul s ar br) (two .mul s ai bi))
          (two .add s (two .mul s ar bi) (two .mul s ai br))
  | .div =>
      if bi?.isNone then pair (two .div s ar br) (two .div s ai br)
      else
        let name := match s with
          | .float .single => "__divsc3"
          | .float .extended => "__divxc3"
          | .float .quad => "__divtc3"
          | _ => "__divdc3"
        let slot ← newVariable "" (.complex part) 1
        keepInMemory slot
        let call := Term.call false (.ofSymbol name) (Term.args [.place slot 0, ar, ai, br, bi])
        let v ← read (Value.readOnly (.complex part) (.place slot 0))
        match v.form with
        | .pair setup' re im => return { v with form := .pair (setup.andThen (call.andThen setup')) re im }
        | _ => return v
  | .eq =>
      let t := Term.both (two .eq s ar br) (two .eq s ai bi)
      return Value.ofTerm (.int .int) (setup.andThen t)
  | .ne =>
      let t := Term.either (two .ne s ar br) (two .ne s ai bi)
      return Value.ofTerm (.int .int) (setup.andThen t)
  | _ => refuse "an operation on complex numbers"

/-- The lanes of a vector in memory. -/
def laneTerm (element : SourceType) (address : Term) (i : Nat) : Compile Term := do
  let s := (element.scalar?).getD (.int .int)
  return .load s (address.plus (i * s.bytes))

/-- Applies an operation lane by lane; an operand that is no vector is the same in all lanes. -/
def vectorLanes (element : SourceType) (length : Nat) (result : SourceType) (operands : List Value)
    (f : List Term → Compile Term) : Compile Value := do
  let s := (element.scalar?).getD (.int .int)
  let kept ← operands.mapM fun v => do
    if v.type.isVector then
      let (setup, address) ← repeatableAddress (← addressOf v)
      return (setup, true, address)
    else
      let (setup, t) ← repeatable s (← convertNumber element v).term
      return (setup, false, t)
  let type := SourceType.vector result length
  let slot ← newVariable "" type 1
  keepInMemory slot
  let r := (result.scalar?).getD (.int .int)
  let lanes ← (List.range length).mapM fun i => do
    let args ← kept.mapM fun (_, isVector, t) =>
      if isVector then laneTerm element t i else pure t
    return Term.sequence (.store r (.place slot (i * r.bytes : Nat)) (← f args)) .nothing
  return Value.readOnly type
    ((Term.all (kept.map (·.1))).andThen ((Term.all lanes).andThen (.place slot 0)))

/-- The signed integers of the width of a lane. -/
def maskType (element : SourceType) : SourceType :=
  match element.scalar? with
  | some (.float .double) => .int .long
  | some (.float _) => .int .int
  | some (.int kind) => .int kind.toSigned
  | none => .int .int

/-- An operation on vectors. -/
def vectorArithmetic (op : Operator) (a b : Value) : Compile Value := do
  let shape := match a.type.plain, b.type.plain with
    | .vector element n, _ => some (element, n)
    | _, .vector element n => some (element, n)
    | _, _ => none
  match shape with
  | none => refuse "operands that are no vectors"
  | some (element, n) =>
      if a.type.isVector && b.type.isVector && !(a.type.alike b.type) then
        if !op.isComparison && !(op = .shiftLeft || op = .shiftRight) then refuse "vectors of different types"
      let s := (element.scalar?).getD (.int .int)
      if element.isFloat && [Operator.mod, .and, .or, .xor, .shiftLeft, .shiftRight].contains op then
        refuse "an operation on integers"
      let result := if op.isComparison then maskType element else element.plain
      vectorLanes element n result [a, b] fun args =>
        match args with
        | [x, y] =>
            let t := Term.applyTwo op s x y
            if op.isComparison then
              let r := (result.scalar?).getD (.int .int)
              return Term.applyOne .negate r (Term.converted (.int .int) r t)
            else return t
        | _ => refuse "operands are missing"

/-- An operation on two numbers. -/
def numeric (op : Operator) (a b : Value) : Compile Value := do
  if a.type.isVector || b.type.isVector then vectorArithmetic op a b
  else if !a.type.isArithmetic || !b.type.isArithmetic then refuse "operands that are no numbers"
  else
    match op with
    | .shiftLeft | .shiftRight =>
        if !a.type.isInteger || !b.type.isInteger then refuse "a shift of something that is no integer"
        let a ← readPromoted a
        let b ← readPromoted b
        let kind := (a.type.intKind?).getD .int
        match b.intValue? with
        | some n =>
            if n < 0 then warn "shift-count-negative" "a shift by a negative number"
            else if (kind.bits : Int) ≤ n then warn "shift-count-overflow" "a shift by too many digits"
            else if op = .shiftLeft then
              match a.intValue? with
              | some x =>
                  if x < 0 then warn "shift-negative-value" "a shift of a negative number"
                  else if kind.isSigned && kind.toUnsigned.greatest < x * twoPow n.toNat then
                    forbid "shift-overflow" "a shift of a number that is too large"
              | none => pure ()
        | none => pure ()
        let s : WordType := .int kind
        let amount := Term.converted (.int ((b.type.intKind?).getD .int)) s b.term
        let t := Term.applyTwo op s a.term amount
        return { Value.ofTerm a.type t with isExact := a.isExact && b.isExact }
    | _ =>
        let ta := promotedType a
        let tb := promotedType b
        let a ← read a
        let b ← read b
        let type := commonType ta tb
        if op.isComparison then
          if type.isFloat && (op = .eq || op = .ne) then
            warn "float-equal" "floating-point numbers are compared for equality"
          if type.isInteger && ta.isInteger && tb.isInteger then
            let signs (t : SourceType) : Bool := ((t.intKind?).map (·.isSigned)).getD true
            let positive (v : Value) : Bool :=
              (v.intValue?.any (0 ≤ ·)) || (naturalWidth? v.term).isSome
            if !signs type && ((signs ta && !positive a) || (signs tb && !positive b)) then
              warn "sign-compare" "numbers of different sign are compared"
        if type.isComplex then complexArithmetic op type a b
        else
          if !op.isComparison && type.isFloat then
            if ta.isInteger then warnNumber type a
            if tb.isInteger then warnNumber type b
          if type.isFloat && (a.type.floatKind? = some .single || b.type.floatKind? = some .single) then
            if type.floatKind? = some .double then warn "double-promotion" "a number is widened"
          let wraps (v : Value) : Bool :=
            (type.intKind?.any fun k => !k.isSigned) && v.type.isInteger &&
              (v.type.intKind?.any (·.isSigned)) && v.intValue?.isNone && (naturalWidth? v.term).isNone
          if !op.isComparison && (wraps (retype ta a) || wraps (retype tb b)) then
            warn "sign-conversion" "a conversion can change the sign of a number"
          arithmetic op type (← convertNumber type a) (← convertNumber type b)

/-- Adds an integer to an address, or takes it away. -/
def addressPlus (op : Operator) (address index : Value) : Compile Value := do
  match address.type.target? with
  | some target =>
      let stride ← strideOf target
      let offset ← scaledOffset index stride
      return Value.ofTerm address.type (Term.applyTwo op .address address.term offset)
  | none => refuse "no address"

/-- The difference of two addresses in elements. -/
def addressDifference (a b : Value) : Compile Value := do
  match a.type.target?, b.type.target? with
  | some s, some t =>
      if !s.alike t then refuse "addresses of incompatible types"
      let stride ← strideOf s
      let bytes := Term.applyTwo .sub .address a.term b.term
      let signed : WordType := .int .long
      return Value.ofTerm (.int .long) (Term.applyTwo .div signed (Term.converted .address signed bytes)
        (Term.converted .address signed stride))
  | _, _ => refuse "no addresses"

/-- Compares with an address. -/
def compareAddresses (op : Operator) (a b : Value) : Compile Value := do
  let equality := op = .eq || op = .ne
  match a.type.target?, b.type.target? with
  | some s, some t =>
      if s.alike t then
        if !equality && s.isFunction then extension "addresses of functions in order"
      else if equality && (s.isVoid || t.isVoid) then
        if !a.isNull && !b.isNull && (s.isFunction || t.isFunction) then
          extension "an address of data and an address of a function"
      else if !((equality && (a.isNull || b.isNull))) then
        forbid "" "addresses of different types are compared"
  | some _, none =>
      if !b.isNull then forbid "" "an address and an integer are compared"
      else if !equality then ordered
  | none, some _ =>
      if !a.isNull then forbid "" "an address and an integer are compared"
      else if !equality then ordered
  | none, none => pure ()
  if equality && (isKnown a b || isKnown b a) then
    warn "address" "an address is never zero"
  let word (v : Value) : Term :=
    if v.type.isPointer then v.term else Term.converted (v.type.scalar?.getD .address) .address v.term
  return Value.ofTerm (.int .int) (Term.applyTwo op .address (word a) (word b))
where
  /-- An order with zero. -/
  ordered : Compile Unit := warn "extra" "an address is compared with zero"
  /-- Whether a comparison with zero is known. -/
  isKnown (a b : Value) : Bool :=
    b.isNull && (match a.term with
      | .symbol _ _ => !a.name.isEmpty
      | .place _ _ => true
      | _ => false)

/-- An operation on two operands other than those that choose what is computed. -/
def binary (op : String) (a b : Value) : Compile Value := do
  checkNesting op a b
  match operatorOf? op with
  | none => refuse "an unknown operator"
  | some o =>
      let isAddress (v : Value) : Bool := v.type.isPointer || v.type.isArray || v.type.isFunction
      if a.type.isVoid || b.type.isVoid then refuse "a value is missing"
      let found ←
        if isAddress a || isAddress b then do
          let a ← read a
          let b ← read b
          if o.isComparison then
            if (a.type.isPointer || a.type.isInteger) && (b.type.isPointer || b.type.isInteger) then
              compareAddresses o a b
            else refuse "an address is compared with something else"
          else if o = .add && a.type.isPointer && b.type.isInteger then addressPlus .add a b
          else if o = .add && b.type.isPointer && a.type.isInteger then addressPlus .add b a
          else if o = .sub && a.type.isPointer && b.type.isInteger then addressPlus .sub a b
          else if o = .sub && a.type.isPointer && b.type.isPointer then addressDifference a b
          else refuse "an operation on addresses"
        else numeric o a b
      return found.under op

/-- A value that has been brought to a type by writing the type in front of it. -/
def castTo (type : SourceType) (v : Value) : Compile Value := do
  let plain := type.plain
  if plain.isVoid then
    match v.form with
    | .pair setup _ _ => return Value.ofTerm .void (setup.andThen .nothing)
    | .term t => return Value.ofTerm .void (t.andThen .nothing)
    | .variable_ slot =>
        markRead slot
        return Value.ofTerm .void .nothing
    | .place address | .digits address _ _ _ => return Value.ofTerm .void (address.andThen .nothing)
  else
    let v ← read v
    if plain.isArithmetic && v.type.isArithmetic then
      let c ← convertNumber plain v
      let isExact := plain.isInteger && (v.isExact || (v.type.isFloat && v.op = "" && v.term.isConstant))
      return { c with isExact := isExact, isNull := isExact && c.intValue? = some 0, op := "cast" }
    else if plain.isPointer && v.type.isPointer then
      match plain.target?, v.type.target? with
      | some t, some s =>
          if !(s.qualifiers.within t.qualifiers) && !s.isFunction then
            warn "cast-qual" "a qualifier is dropped"
          if (t.isFunction && s.isVoid || s.isFunction && t.isVoid) && !v.isNull then
            extension "an address of data and an address of a function"
          if t.isFunction && s.isFunction && !t.compatible s &&
              !(t.paramList.isEmpty && t.result?.any SourceType.isVoid) &&
              !(s.paramList.isEmpty && s.result?.any SourceType.isVoid) then
            warn "cast-function-type" "an address of a function of another type"
          let records := (← get).records
          if !t.isVoid && !s.isVoid && !t.isFunction && !s.isFunction && records.isComplete t &&
              records.isComplete s && records.alignment s < records.alignment t && !s.isCharacter then
            warn "cast-align" "an address of something with a smaller alignment"
      | _, _ => pure ()
      return { v with type := plain, isNull := v.isNull && plain.target?.any (fun t => t = .void)
                      op := "cast" }
    else if plain.isPointer && v.type.isInteger then
      if (v.type.intKind?.any fun k => k.bits ≠ 64) && v.intValue?.isNone then
        warn "int-to-pointer-cast" "an address from an integer of another size"
      let isNull := v.isNull && plain.target?.any (fun t => t = .void)
      return { retype plain v with isNull := isNull, isExact := false, op := "cast" }
    else if plain.isInteger && v.type.isPointer then
      if !plain.isBool && (plain.intKind?.any fun k => k.bits ≠ 64) then
        warn "pointer-to-int-cast" "an integer of another size from an address"
      if plain.isBool then
        return Value.ofTerm plain (Term.converted (.int .int) (.int .bool) (← truth v))
      else return { retype plain v with isExact := false, op := "cast" }
    else if plain.isVector || v.type.isVector then
      let records := (← get).records
      if records.size? plain = records.size? v.type && (plain.isVector || plain.isInteger) then
        if plain.isVector && v.type.isVector then
          return { Value.readOnly plain (← addressOf v) with op := "cast" }
        else refuse "a vector from something else"
      else refuse "a vector of another size"
    else if plain.isRecord then
      if plain = v.type.plain then
        extension "a structure from a structure"
        return v
      else
        match plain with
        | .record number =>
            let found := (← get).records.find number
            match if found.isUnion then found.members.find? fun m => m.type.alike v.type else none with
            | some m =>
                extension "a union from a member"
                let slot ← newVariable "" plain 1
                keepInMemory slot
                let w ← writeTo (Value.object m.type (.place slot 0)) v
                return Value.readOnly plain ((← effect w).andThen (.place slot 0))
            | none => refuse "a structure from something else"
        | _ => refuse "a structure from something else"
    else refuse "a conversion between types that have none"
where
  /-- What a value does, without its word. -/
  effect (v : Value) : Compile Term := do
    match v.form with
    | .pair setup _ _ => return setup
    | _ => return v.term.andThen .nothing

/-- What a value does, without its word. -/
def effectOf (v : Value) : Term :=
  match v.form with
  | .pair setup _ _ => setup.andThen .nothing
  | .term t => t.andThen .nothing
  | .variable_ _ => .nothing
  | .place address | .digits address _ _ _ =>
      if address.isPure then .nothing else address.andThen .nothing

/-- Puts what is done first in front of a value. -/
def after (setup : Term) (v : Value) : Value :=
  match v.form with
  | .pair s re im => { v with form := .pair (setup.andThen s) re im }
  | .term t => { v with form := .term (setup.andThen t) }
  | .place address => { v with form := .place (setup.andThen address) }
  | .digits address unit first width => { v with form := .digits (setup.andThen address) unit first width }
  | .variable_ _ => v

/-- Refuses what cannot be assigned to. -/
def requireAssignable (v : Value) : Compile Unit := do
  if !v.isObject || v.type.isFunction || v.type.isArray then refuse "nothing that can be assigned to"
  if v.type.qualifiers.isConst then refuse "an assignment to a constant"
  match v.type.plain with
  | .record number => if hasConst (← get).records 8 number then refuse "an assignment to a constant"
  | .void => refuse "an assignment to nothing"
  | _ => if !(← isComplete v.type) then refuse "an object of incomplete type"
where
  /-- Whether a structure has constant members. -/
  hasConst (records : Records) (depth number : Nat) : Bool :=
    match depth with
    | 0 => false
    | depth + 1 =>
        (records.find number).members.any fun m =>
          m.type.qualifiers.isConst ||
            match m.type.unqualified with
            | .record inner => hasConst records depth inner
            | .array (.record inner) _ => hasConst records depth inner
            | _ => false

/-- The same object twice: what is done first, and the object. -/
def repeatableObject (v : Value) : Compile (Term × Value) := do
  match v.form with
  | .place address =>
      let (setup, address) ← repeatableAddress address
      return (setup, { v with form := .place address })
  | .digits address unit first width =>
      let (setup, address) ← repeatableAddress address
      return (setup, { v with form := .digits address unit first width })
  | _ => return (.nothing, v)

/-- An assignment. -/
def assign (object v : Value) : Compile Value := do
  requireAssignable object
  let v ← read v
  let v' ← assigned object.type v
  return (← writeTo object v').under "="

/-- An assignment that computes. -/
def assignWith (op : String) (object v : Value) : Compile Value := do
  requireAssignable object
  let (setup, object) ← repeatableObject object
  let wasRead := match object.form with
    | .variable_ slot => some slot
    | _ => none
  let before ← wasRead.mapM variableOf
  if object.type.isPointer then
    if ! ["+", "-"].contains op then refuse "an operation on addresses"
    let index ← read v
    if !index.type.isInteger then refuse "an operation on addresses"
  let computed ← binary op { object with op := "" } { v with op := "" }
  match wasRead, before with
  | some slot, some old => modifyVariable slot fun x => { x with isRead := old.isRead }
  | _, _ => pure ()
  let computed ← assigned object.type (← read computed)
  return (after setup (← writeTo object computed)).under "="

/-- Adds one or takes it away, before or after the object is read. -/
def increment (op : String) (isPostfix : Bool) (object : Value) : Compile Value := do
  let type := object.type.plain
  if !(type.isReal || type.isPointer || type.isComplex) then refuse "an operand that is no number"
  let one := Value.ofInt (.int .int) 1
  if !isPostfix then assignWith op object one
  else
    requireAssignable object
    let (setup, object) ← repeatableObject object
    let wasRead ← match object.form with
      | .variable_ slot => do pure (some (slot, (← variableOf slot).isRead))
      | _ => pure none
    if type.isComplex then
      let old ← read object
      let (first, re, im) ← pairOf old
      let w ← assignWith op object one
      return { old with form := .pair (setup.andThen (first.andThen (effectOf w))) re im }
    else
      let s := (type.scalar?).getD (.int .int)
      let slot ← newTemporary s
      let old ← read object
      let copy := { old with form := .term (.get slot), isObject := false }
      let computed ← binary op copy one
      let computed ← assigned type (← read computed)
      let w ← writeTo object computed
      match wasRead with
      | some (v, isRead) => modifyVariable v fun x => { x with isRead := isRead }
      | none => pure ()
      let t := setup.andThen (.sequence (.set slot old.term) (.sequence w.term (.get slot)))
      return (Value.ofTerm type t).under "="

/-- An operation on one number. -/
def unary (op : String) (v : Value) : Compile Value := do
  match op with
  | "!" =>
      let r ← read v
      if r.type.isVector then
        let element := match r.type.plain with | .vector e _ => e | t => t
        vectorArithmetic .eq r (Value.ofInt element 0)
      else
        let t ← truth r
        let n := Term.applyOne .not (.int .int) t
        return { Value.ofTerm (.int .int) n with
          isExact := r.isExact, isNull := r.isExact && n.intValue? = some 0, op := "!" }
  | "-" | "+" | "~" =>
      if v.type.isVector then
        match v.type.plain with
        | .vector element n =>
            let s := (element.scalar?).getD (.int .int)
            if op = "~" && element.isFloat then refuse "an operation on integers"
            vectorLanes element n element.plain [← read v] fun args =>
              return match args with
              | [x] => if op = "-" then Term.applyOne .negate s x
                  else if op = "~" then Term.applyOne .complement s x else x
              | _ => .nothing
        | _ => refuse "an operand that is no number"
      else
        let r ← readPromoted v
        if r.type.isComplex then
          let (setup, re, im) ← pairOf r
          let s := partScalar r.type
          let re' := if op = "-" then Term.applyOne .negate s re else re
          let im' := if op = "+" then im else Term.applyOne .negate s im
          return { r with form := .pair setup re' im', op := op }
        else if !r.type.isReal || (op = "~" && !r.type.isInteger) then
          refuse "an operand that is no number"
        else
          let s := (r.type.scalar?).getD (.int .int)
          if op = "-" then
            match r.intValue?, r.type.intKind? with
            | some n, some kind =>
                if kind.isSigned && !fits kind (-n) then forbid "overflow" "an integer is too large"
            | _, _ => pure ()
          if op = "~" && v.type.isBool then warn "bool-operation" "a complement of a truth value"
          let t := if op = "-" then Term.applyOne .negate s r.term
            else if op = "~" then Term.applyOne .complement s r.term else r.term
          return { Value.ofTerm r.type t with
            isExact := r.isExact, isNull := r.isExact && t.intValue? = some 0, op := op }
  | _ => refuse "an unknown operator"

/-- The object that an address points to. -/
def dereference (v : Value) : Compile Value := do
  let r ← read v
  match r.type.target? with
  | some target =>
      if target.isFunction then
        return { Value.ofTerm target r.term with name := r.name }
      else if target.isVoid then
        warn "" "the target of an address is no object"
        return { Value.object target r.term with name := "" }
      else return Value.object target r.term
  | none => refuse "no address"

/-- The address of an object as a value. -/
def reference (v : Value) : Compile Value := do
  if v.type.isFunction then
    return { Value.ofTerm (.pointer v.type) (← addressOf v) with name := v.name }
  else if !v.isObject then refuse "no object"
  else
    match v.form with
    | .variable_ slot =>
        markRead slot
        if (← variableOf slot).isRegister then refuse "a variable in a register"
    | _ => pure ()
    return { Value.ofTerm (.pointer v.type) (← addressOf v) with name := v.name }

/-- A member of a structure or union. -/
def memberOf (v : Value) (name : String) : Compile Value := do
  match v.type.plain with
  | .record number =>
      let records := (← get).records
      if !(records.find number).isComplete then refuse "a structure without members"
      match records.member? 16 number name with
      | none => refuse "no such member"
      | some m =>
          if let .variable_ slot := v.form then markRead slot
          let address ← addressOf v
          let type := m.type.qualify { v.type.qualifiers with isRestrict := false }
          let base := { v with op := "", name := "", isExact := false, isNull := false }
          match m.digits with
          | some (first, width) =>
              let unit := (m.type.intKind?).getD .int
              return { base with type := type, form := .digits (address.plus m.offset) unit first width }
          | none => return { base with type := type, form := .place (address.plus m.offset) }
  | _ => refuse "no structure"

/-- The choice between two values; `condition` is a truth value. -/
def conditional (condition : Term) (exact : Bool) (a b : Value) : Compile Value := do
  let isVoid (v : Value) : Bool := v.type.isVoid
  let pick := condition.intValue?
  if isVoid a || isVoid b then
    if !(isVoid a && isVoid b) then extension "only one of two values is missing"
    return Value.ofTerm .void (Term.chosen condition (effectOf a) (effectOf b))
  else
    let ta := promotedType a
    let tb := promotedType b
    let a ← read a
    let b ← read b
    if a.type.isArithmetic && b.type.isArithmetic then
      let type := if a.type.plain = b.type.plain && !a.type.isInteger then a.type.plain
        else commonType ta tb
      if type.isInteger && ta.isInteger && tb.isInteger then
        let signed (t : SourceType) : Bool := ((t.intKind?).map (·.isSigned)).getD true
        let natural (v : Value) : Bool := (v.intValue?.any (0 ≤ ·)) || (naturalWidth? v.term).isSome
        if signed ta ≠ signed tb && !signed type then
          if !((if signed ta then natural a else natural b)) then
            warn "sign-compare" "operands of different sign"
      let a ← convertNumber type a
      let b ← convertNumber type b
      if type.isComplex then
        let (sa, ra, ia) ← pairOf a
        let (sb, rb, ib) ← pairOf b
        let s := partScalar type
        let re ← newTemporary s
        let im ← newTemporary s
        let branch (setup x y : Term) : Term :=
          setup.andThen (.sequence (.set re x) (.sequence (.set im y) .nothing))
        return { Value.ofTerm type .nothing with
          form := .pair (.choose condition (branch sa ra ia) (branch sb rb ib)) (.get re) (.get im) }
      else
        let t := Term.chosen condition a.term b.term
        let isExact := exact && a.isExact && b.isExact
        return { Value.ofTerm type t with isExact := isExact, isNull := isExact && t.intValue? = some 0
                                          op := "?" }
    else if a.type.isRecord && a.type.plain = b.type.plain then
      return Value.readOnly a.type.plain (Term.chosen condition (← addressOf a) (← addressOf b))
    else if a.type.isVector && b.type.isVector && a.type.alike b.type then
      return Value.readOnly a.type.plain (Term.chosen condition (← addressOf a) (← addressOf b))
    else if a.type.isPointer || b.type.isPointer then
      let type ←
        match a.type.target?, b.type.target? with
        | some s, some t =>
            let q := s.qualifiers.union t.qualifiers
            if s.alike t then pure (SourceType.pointer ((s.plain.composite t.plain).qualify q))
            else if a.isNull && !b.isNull then pure b.type
            else if b.isNull && !a.isNull then pure a.type
            else if s.isVoid || t.isVoid then
              if s.isFunction || t.isFunction then
                extension "an address of data and an address of a function"
              pure (.pointer (SourceType.void.qualify q))
            else do
              forbid "incompatible-pointer-types" "addresses of different types"
              pure (.pointer .void)
        | some _, none =>
            if !b.type.isInteger then refuse "operands of different kinds"
            if !b.isNull then forbid "int-conversion" "an address and an integer"
            pure a.type
        | none, some _ =>
            if !a.type.isInteger then refuse "operands of different kinds"
            if !a.isNull then forbid "int-conversion" "an address and an integer"
            pure b.type
        | none, none => refuse "operands of different kinds"
      let t := Term.chosen condition (retype type a).term (retype type b).term
      let isNull := exact && a.isNull && b.isNull && pick.isSome
      return { Value.ofTerm type.plain t with op := "?", isNull := isNull }
    else refuse "operands of different kinds"

end Compile

end KernelForge.Compiler
