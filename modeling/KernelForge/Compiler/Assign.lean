import KernelForge.Compiler.Value

/-!
# Conversion as by assignment

An assignment, an argument, an initial value and a returned value are brought to the type of what takes
them. Numbers convert freely; addresses have to point to compatible types; what is usual but not sound
gives a warning of its own name.
-/

namespace KernelForge.Compiler

open Code

namespace Compile

/-- Whether an integer is a value of a kind. -/
def fits (kind : IntKind) (n : Int) : Bool := kind.least ≤ n && n ≤ kind.greatest

/-- Warns about a constant that a conversion to an integer type changes. -/
def warnConstant (target : IntKind) (n : Int) : Compile Unit := do
  if !fits target n && target ≠ .bool then
    if fits target.toSigned n || fits target.toUnsigned n then
      warn (if target.isSigned then "conversion" else "sign-conversion") "a conversion changes a constant"
    else warn "overflow" "a conversion changes a constant"

/-- How many digits the value of a term can have, when all values are natural numbers. -/
def naturalWidth? : Term → Option Nat
  | .two .and (.int _) a b =>
      match naturalWidth? a, naturalWidth? b with
      | some m, some n => some (min m n)
      | some m, none => some m
      | none, found => found
  | .convert (.int s) (.int _) a =>
      match naturalWidth? a with
      | some n => some n
      | none => if s.isSigned then none else some s.bits
  | .word (.int kind) bits => if 0 ≤ kind.value bits then some (bitLength bits) else none
  | .load (.int kind) _ => if kind.isSigned then none else some kind.bits
  | .two op _ _ _ => if op.isComparison then some 1 else none
  | .one .not _ _ | .both _ _ | .either _ _ => some 1
  | _ => none

/-- How many digits the value of a term can have, with those of a negative one. -/
def signedWidth : IntKind → Term → Nat
  | kind, .convert (.int s) (.int _) a => min kind.bits (signedWidth s a)
  | kind, t => (naturalWidth? t).getD kind.bits

/-- Warns about conversions that can change numbers. -/
def warnNumber (target : SourceType) (v : Value) : Compile Unit := do
  let warnings := (← get).setting.warnings
  if (← get).inHeader then return
  match target.plain.scalar?, v.type.scalar?, v.form with
  | some (.int t), some (.int s), .term a =>
      match a.intValue? with
      | some n => warnConstant t n
      | none =>
          if t ≠ .bool && (warnings.isOn "conversion" || warnings.isOn "sign-conversion") then
            let origin := match a with
              | .convert (.int k) (.int _) _ => if k.bits < s.bits then k else s
              | _ => s
            let natural := (naturalWidth? a).isSome
            let width := signedWidth s a
            if t.bits < width || (t.isSigned && natural && t.bits ≤ width && t.bits < s.bits) then
              warn "conversion" "a conversion can change a number"
            else if t.isSigned ≠ s.isSigned && origin.bits ≤ t.bits && !natural &&
                (origin.isSigned ≠ t.isSigned) && (origin.isSigned || origin.bits = t.bits) then
              warn "sign-conversion" "a conversion can change the sign of a number"
            else if t.isSigned && !s.isSigned && t.bits = s.bits && width = t.bits then
              warn "sign-conversion" "a conversion can change the sign of a number"
  | some (.int t), some (.float s), .term a =>
      match a with
      | .word _ bits =>
          let exact := (s.datum bits).clamp (-twoPow 200) (twoPow 200)
          if t ≠ .bool then
            if !fits t exact then warn "overflow" "a conversion changes a constant"
            else if !s.same (s.ofInt exact) bits then warn "float-conversion" "a conversion changes a constant"
      | _ => if t ≠ .bool then warn "float-conversion" "a conversion can change a number"
  | some (.float t), some (.int s), .term a =>
      match a.intValue? with
      | some n =>
          if FloatKind.toWord t .wide (t.ofInt n) ≠ IntKind.wide.word n then
            warn "float-conversion" "a conversion changes a constant"
      | none =>
          let width := signedWidth s a
          if t.format.fractionBits + 1 < width - (if s.isSigned then 1 else 0) then
            warn "conversion" "a conversion can change a number"
  | some (.float t), some (.float s), .term a =>
      if t.rank < s.rank then
        match a with
        | .word _ bits =>
            if !s.same (t.convert s (s.convert t bits)) bits && !s.isNaN bits then
              warn "float-conversion" "a conversion changes a constant"
        | _ => warn "float-conversion" "a conversion can change a number"
      else if s = .single && t.rank > s.rank then
        if !(a matches .word _ _) then warn "double-promotion" "a number is widened"
  | _, _, _ => pure ()

/-- Checks an assignment between addresses. -/
def checkAddresses (target source : SourceType) (isNull : Bool) : Compile Unit := do
  match target.target?, source.target? with
  | some t, some s =>
      if t.isVoid || s.isVoid then
        if s.isVoid && !t.isVoid && !isNull && (← get).setting.typedNames && !(← get).inHeader then
          refuse "an address of anything becomes one of something"
        if !isNull && ((t.isVoid && s.isFunction) || (s.isVoid && t.isFunction)) then
          extension "an address of data and an address of a function"
        if !s.isFunction && !s.qualifiers.within t.qualifiers then
          forbid "discarded-qualifiers" "a qualifier is dropped"
      else if t.alike s then
        if t.isFunction then pure ()
        else if !(s.qualifiers.within t.qualifiers) then
          if t.isArray then forbid "discarded-array-qualifiers" "a qualifier is dropped"
          else forbid "discarded-qualifiers" "a qualifier is dropped"
        else if !((t.qualify s.qualifiers).compatible t) then pure ()
      else if t.unsignedForm.compatible s.unsignedForm && t.isInteger then
        forbid "pointer-sign" "addresses of integers of different sign"
        if !(s.qualifiers.within t.qualifiers) then
          forbid "discarded-qualifiers" "a qualifier is dropped"
      else forbid "incompatible-pointer-types" "addresses of incompatible types"
  | _, _ => pure ()

/-- A value that has been read, brought to a type as by assignment. -/
def assigned (target : SourceType) (v : Value) : Compile Value := do
  let type := target.plain
  if v.type.isVoid then refuse "a value is missing"
  else if type.isArithmetic && v.type.isArithmetic then
    warnNumber type v
    convertNumber type v
  else if type.isPointer && v.type.isPointer then
    checkAddresses type v.type v.isNull
    return { v with type := type }
  else if type.isPointer && v.type.isInteger then
    if !v.isNull then forbid "int-conversion" "an address from an integer"
    return { retype type v with isExact := false }
  else if type.isBool && v.type.isPointer then
    return { Value.ofTerm type (Term.converted (.int .int) (.int .bool) (← truth v)) with name := v.name }
  else if type.isInteger && v.type.isPointer then
    forbid "int-conversion" "an integer from an address"
    return retype type v
  else if type.isRecord && type = v.type.plain then return v
  else if type.isVector && v.type.isVector && type.alike v.type.plain then return v
  else
    match type with
    | .record number =>
        let found := (← get).records.find number
        if found.isTransparent then
          match found.members.find? fun m => m.type.alike v.type ||
              (m.type.isPointer && v.type.isPointer) || (m.type.isPointer && v.isNull) with
          | some m => return retype m.type v
          | none => refuse "incompatible types"
        else refuse "incompatible types"
    | _ => refuse "incompatible types"

/-- The term that writes a value that has been brought to its type into an object, and the value that is
left. -/
def writeTo (object : Value) (v : Value) : Compile Value := do
  let type := object.type.plain
  match object.form with
  | .variable_ slot =>
      markSet slot
      match type.scalar? with
      | some _ => return Value.ofTerm type (.set slot v.term)
      | none => writePlace type (.place slot 0)
  | .digits address unit first width =>
      let (setup, address) ← repeatableAddress address
      let (keep, value) ← repeatable (.int unit) v.term
      let whole : WordType := .int (if unit = .bool then .unsignedChar else unit.toUnsigned)
      let kind : IntKind := if unit = .bool then .unsignedChar else unit.toUnsigned
      let value' := if unit = .bool then Term.converted (.int .bool) whole value
        else Term.converted (.int unit) whole value
      let mask : Nat := twoPow width - 1
      let old := Term.applyTwo .and whole (.load whole address)
        (.word whole (twoPow kind.bits - 1 - mask * twoPow first))
      let fresh := Term.applyTwo .shiftLeft whole
        (Term.applyTwo .and whole value' (.word whole mask)) (.int kind first)
      let result := if unit = .bool then value
        else
          let up := Term.applyTwo .shiftLeft whole value' (.int kind (kind.bits - width : Nat))
          Term.applyTwo .shiftRight (.int unit) up (.int unit (kind.bits - width : Nat))
      return { Value.ofTerm type (setup.andThen (keep.andThen
        (.sequence (.store whole address (Term.applyTwo .or whole old fresh)) result))) with
          op := "=" }
  | .place address => writePlace type address
  | _ => refuse "a value cannot be assigned to"
where
  /-- Writes to an address. -/
  writePlace (type : SourceType) (address : Term) : Compile Value := do
    match type.scalar? with
    | some s => return Value.ofTerm type (.store s address v.term)
    | none =>
        if type.isComplex then
          let (setup, re, im) ← pairOf v
          let s := partScalar type
          let (keep, address) ← repeatableAddress address
          let first := Term.sequence (.store s address re) .nothing
          let second := Term.sequence (.store s (address.plus s.bytes) im) .nothing
          return { Value.ofTerm type .nothing with
            form := .pair (setup.andThen (keep.andThen (first.andThen second))) re im }
        else
          let size ← sizeOf type
          if let .variable_ slot := object.form then keepInMemory slot
          let source ← addressOf v
          let (keep, address) ← repeatableAddress address
          return Value.readOnly type
            (keep.andThen ((Term.copy address source (.address size)).andThen address))

end Compile

end KernelForge.Compiler
