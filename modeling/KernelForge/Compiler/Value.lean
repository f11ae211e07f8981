import KernelForge.Compiler.Compatible

/-!
# Values of expressions

The value of an expression has a type and a form: a word, an object at an address, a part of a word, or
a pair of words for a complex number. An object is read where its value is needed, an array becomes the
address of its first element, and a function becomes its address.
-/

namespace KernelForge.Compiler

open Code

/-- Where the value of an expression is. -/
inductive Form where
  | term (t : Term)
  | variable_ (slot : Nat)
  | place (address : Term)
  /-- Digits of a word of memory: its address and type, the first digit and their number. -/
  | digits (address : Term) (unit : IntKind) (first width : Nat)
  /-- A complex number: what is done first, and its parts, which can be repeated. -/
  | pair (setup re im : Term)
  deriving Inhabited

/-- The value of an expression. -/
structure Value where
  type : SourceType
  form : Form
  /-- Whether it is an object that can have an address. -/
  isObject : Bool
  /-- Whether it is an integer constant in the sense of the standard. -/
  isExact : Bool
  /-- Whether it is the constant that stands for no address. -/
  isNull : Bool
  /-- The operator of the expression, when it is not in parentheses. -/
  op : String
  /-- The name of the object or function. -/
  name : String
  deriving Inhabited

namespace Value

/-- A word. -/
def ofTerm (type : SourceType) (t : Term) : Value := ⟨type, .term t, false, false, false, "", ""⟩

/-- An integer constant. -/
def ofInt (type : SourceType) (n : Int) : Value :=
  { ofTerm type (.int ((type.intKind?).getD .int) n) with isExact := true, isNull := n = 0 }

/-- An object at an address. -/
def object (type : SourceType) (address : Term) : Value :=
  ⟨type, .place address, true, false, false, "", ""⟩

/-- An object that is only read. -/
def readOnly (type : SourceType) (address : Term) : Value := { Value.object type address with isObject := false }

/-- The word of a value that has been read. -/
def term (v : Value) : Term :=
  match v.form with
  | .term t => t
  | .place address => address
  | .variable_ slot => .place slot 0
  | .digits address _ _ _ => address
  | .pair setup re _ => setup.andThen re

/-- The integer that a value is, if it is a constant. -/
def intValue? (v : Value) : Option Int :=
  match v.form with
  | .term t => t.intValue?
  | _ => Option.none

/-- The same value under an operator. -/
def under (v : Value) (op : String) : Value := { v with op := op }

end Value

namespace Compile

/-- Marks a variable as read. -/
def markRead (slot : Nat) : Compile Unit := modifyVariable slot fun v => { v with isRead := true }

/-- Marks a variable as set. -/
def markSet (slot : Nat) : Compile Unit := modifyVariable slot fun v => { v with isSet := true }

/-- Reads digits of a word of memory. -/
def readDigits (address : Term) (unit : IntKind) (first width : Nat) : Term :=
  let bits := unit.bits
  let word := Term.load (.int unit.toUnsigned) address
  if unit = .bool then
    Term.converted (.int .unsignedChar) (.int .bool)
      (.applyTwo .and (.int .unsignedChar)
        (.applyTwo .shiftRight (.int .unsignedChar) (.load (.int .unsignedChar) address)
          (.int .unsignedChar first)) (.int .unsignedChar 1))
  else
    let s : WordType := .int unit.toUnsigned
    let up := Term.applyTwo .shiftLeft s word (.int unit.toUnsigned (bits - first - width : Nat))
    Term.applyTwo .shiftRight (.int unit) up (.int unit (bits - width : Nat))

/-- The type that digits of a word have in arithmetic. -/
def digitsType (unit : IntKind) (width : Nat) : SourceType :=
  if unit = .bool then .int .int
  else if width < 32 || (width = 32 && unit.isSigned) then .int .int
  else if width = 32 && unit.bits = 32 then .int .unsignedInt
  else .int unit

/-- A word kept in a variable of its own, so that it can be repeated: what is done first, and the
word. -/
def repeatable (s : WordType) (t : Term) : Compile (Term × Term) := do
  match t with
  | .word _ _ | .symbol _ _ | .place _ _ => return (.nothing, t)
  | _ =>
      let slot ← newTemporary s
      return (.sequence (.set slot t) .nothing, .get slot)

/-- An address that can be repeated. -/
def repeatableAddress (t : Term) : Compile (Term × Term) := repeatable .address t

/-- The address of an object. -/
def addressOf (v : Value) : Compile Term := do
  match v.form with
  | .variable_ slot =>
      keepInMemory slot
      return .place slot 0
  | .place address => return address
  | .term t =>
      if v.type.isFunction then return t
      else refuse "a value has no address"
  | .digits _ _ _ _ => refuse "a part of a word has no address"
  | .pair setup re im =>
      let s := ((v.type.part?.bind SourceType.scalar?).getD (.float .double))
      let slot ← newVariable "" v.type.plain 1
      keepInMemory slot
      return setup.andThen ((Term.store s (.place slot 0) re).andThen
        ((Term.store s (.place slot s.bytes) im).andThen (.place slot 0)))

/-- The parts of a complex number in the order in which they are computed. -/
def pairOf (v : Value) : Compile (Term × Term × Term) := do
  match v.form with
  | .pair setup re im => return (setup, re, im)
  | _ =>
      let s := ((v.type.part?.bind SourceType.scalar?).getD (.float .double))
      let address ← addressOf v
      let (setup, address) ← repeatableAddress address
      let (one, re) ← repeatable s (.load s address)
      let (two, im) ← repeatable s (.load s (address.plus s.bytes))
      return (setup.andThen (one.andThen two), re, im)

/-- Reads the value of an expression where a value is needed. -/
def read (v : Value) : Compile Value := do
  match v.type.plain with
  | .array element _ =>
      let address ← addressOf v
      if let .variable_ slot := v.form then markRead slot
      return { Value.ofTerm (.pointer element) address with name := v.name }
  | .function r p s =>
      return { Value.ofTerm (.pointer (.function r p s)) (← addressOf v) with name := v.name }
  | type =>
      if !v.isObject && v.form matches .term _ then return v
      else
        match v.form with
        | .term _ => return { v with isObject := false }
        | .variable_ slot =>
            markRead slot
            match type.scalar? with
            | some _ => return { v with form := .term (.get slot), type := type, isObject := false }
            | none =>
                if type.isComplex then
                  let (setup, re, im) ← pairOf v
                  return { v with form := .pair setup re im, type := type, isObject := false }
                else return { v with type := type, isObject := false }
        | .place address =>
            match type.scalar? with
            | some s => return { v with form := .term (.load s address), type := type, isObject := false }
            | none =>
                if type.isComplex then
                  let (setup, re, im) ← pairOf v
                  return { v with form := .pair setup re im, type := type, isObject := false }
                else
                  if !type.isVoid && !(← isComplete type) then refuse "an object of incomplete type"
                  return { v with type := type, isObject := false }
        | .digits address unit first width =>
            return { v with form := .term (readDigits address unit first width), isObject := false
                            type := type }
        | .pair _ _ _ => return { v with type := type, isObject := false }

/-- The type of a value in arithmetic: narrow integers become `int`. -/
def promotedType (v : Value) : SourceType :=
  match v.form with
  | .digits _ unit _ width => digitsType unit width
  | _ =>
      match v.type.plain with
      | .int kind | .enum _ kind => .int kind.promote
      | other => other

/-- Gives a value of a scalar type another scalar type. -/
def retype (type : SourceType) (v : Value) : Value :=
  match v.type.scalar?, type.scalar? with
  | some s, some t => { v with type := type, form := .term (Term.converted s t v.term) }
  | _, _ => { v with type := type }

/-- The scalar that a type is; complex numbers have that of their parts. -/
def partScalar (type : SourceType) : WordType :=
  match type.part? with
  | some part => part.scalar?.getD (.float .double)
  | none => type.scalar?.getD (.int .int)

/-- Converts a number that has been read to an arithmetic type. -/
def convertNumber (type : SourceType) (v : Value) : Compile Value := do
  let type := type.plain
  match v.type.isComplex, type.isComplex with
  | false, false => return retype type v
  | false, true =>
      let t := partScalar type
      let (setup, re) ← repeatable t (Term.converted (partScalar v.type) t v.term)
      return { v with type := type, form := .pair setup re (.word t 0), isExact := false }
  | true, false =>
      let (setup, re, im) ← pairOf v
      let s := partScalar v.type
      if type.isBool then
        let t := Term.either (Term.truthOf s re) (Term.truthOf s im)
        return { v with type := type, form := .term (setup.andThen (Term.converted (.int .int) (.int .bool) t)) }
      else
        return { v with type := type, form := .term (setup.andThen (Term.converted s (partScalar type) re)) }
  | true, true =>
      let (setup, re, im) ← pairOf v
      let s := partScalar v.type
      let t := partScalar type
      if s = t then return { v with type := type, form := .pair setup re im }
      else
        let (one, re) ← repeatable t (Term.converted s t re)
        let (two, im) ← repeatable t (Term.converted s t im)
        return { v with type := type, form := .pair (setup.andThen (one.andThen two)) re im }

/-- Reads a value and widens narrow integers. -/
def readPromoted (v : Value) : Compile Value := do
  let type := promotedType v
  let r ← read v
  if r.type.isInteger then return retype type r else return r

/-- The type that arithmetic on two numbers has. -/
def commonType (a b : SourceType) : SourceType :=
  let part (t : SourceType) : SourceType := (t.part?.getD t).plain
  let both (x y : SourceType) : SourceType :=
    match x, y with
    | .float k, .float l => .float (k.common l)
    | .float k, _ => .float k
    | _, .float l => .float l
    | x, y =>
        .int (IntKind.common ((x.intKind?).getD .int) ((y.intKind?).getD .int))
  let found := both (part a) (part b)
  if a.isComplex || b.isComplex then .complex found else found

/-- The truth value of a value that has been read. -/
def truth (v : Value) : Compile Term := do
  if v.type.isComplex then
    let (setup, re, im) ← pairOf v
    let s := partScalar v.type
    return setup.andThen (.either (Term.truthOf s re) (Term.truthOf s im))
  else
    match v.type.scalar? with
    | some s => return Term.truthOf s v.term
    | none => refuse "a value that is neither true nor false"

end Compile

end KernelForge.Compiler
