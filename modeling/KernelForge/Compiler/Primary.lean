import KernelForge.Compiler.Call
import KernelForge.Compiler.Initial

/-!
# Primary expressions

Constants, names and what follows them. A text is an object of its own; equal texts are one object. A
function that was not declared is taken to give an `int`, unless it is one that the compiler knows.
-/

namespace KernelForge.Compiler

open Code

namespace Compile

variable {α : Type}

/-- Reads something with other warnings. -/
def withWarnings (change : Warnings → Warnings) (p : Compile α) : Compile α := do
  let set (warnings : Warnings) : Compile Unit :=
    modify fun s => { s with setting := { s.setting with warnings := warnings } }
  let saved := (← get).setting.warnings
  set (change saved)
  let r ← p
  set saved
  return r

/-- Reads something that is never computed, which gives no warnings. -/
def quietly (p : Compile α) : Compile α := withWarnings (fun w => { w with silent := true }) p

/-- Reads something that may use extensions. -/
def leniently (p : Compile α) : Compile α :=
  withWarnings (fun w => { w with strict := false }.choose "pedantic" false) p

/-- The type of the characters of a text. -/
def textElement (unit : TextUnit) : Compile SourceType := do
  let isNatural := (← get).setting.naturalChar
  return .int (match unit with
    | .byte => if isNatural then .naturalChar else .char
    | .wide => .int
    | .utf16 => .unsignedShort
    | .utf32 => .unsignedInt)

/-- The object that a text is. -/
def textValue (t : TextConstant) : Compile Value := do
  let element ← textElement t.unit
  let size := t.unit.bytes
  let type := SourceType.array element (.known (t.units.length + 1))
  let key := ".text." ++ toString size ++ "." ++ String.intercalate "," (t.units.map toString)
  if (← global? key).isNone then
    let scalar := (element.scalar?).getD (.int .char)
    let pieces := (t.units.mapIdx fun i n => (i * size, scalar, Term.word scalar n)).toArray
    addGlobal key { (default : Global) with
      symbol := key, type := type, isStatic := true, isDefined := true, isUsed := true
      image := ⟨size * (t.units.length + 1), size, pieces⟩ }
  return { Value.object type (.ofSymbol key) with op := "text" }

/-- A name as a text of its own. -/
def nameText (name : String) : Compile Value := do
  let v ← textValue ⟨.byte, name.toList.flatMap fun c => TextUnit.ofCode .byte c.toNat⟩
  return { v with type := v.type.qualify .const, op := "" }

/-- The value of a number. -/
def numberValue (text : String) : Compile Value := do
  let setting := (← get).setting
  match numberConstant? text with
  | none => refuse "a malformed number"
  | some (.integer value isDecimal suffix) =>
      if suffix.longs = 2 then
        since .c99 "a very long constant"
        warn "long-long" "a very long constant"
      let kind := integerKind (!setting.since .c99) value isDecimal suffix
      if twoPow 64 ≤ value then forbid "" "a constant is too large"
      if kind = .wide then forbid "" "a constant is so large that it is unsigned"
      if suffix.isImaginary then
        extension "an imaginary constant"
        let s := WordType.int kind
        return { Value.ofTerm (.complex (.int kind)) .nothing with
          form := .pair .nothing (.word s 0) (.int kind value) }
      else return Value.ofInt (.int kind) value
  | some (.floating digits isBinary exponent kind isImaginary) =>
      let last := text.toList.getLastD '0'
      let unsaid := last = '.' || last.isDigit || text.toList.take 2 = ['0', 'x']
      let kind := if setting.singleConstants && kind = .double && unsaid then .single else kind
      let d := if isBinary then Datum.finite false digits exponent
        else if 6000 < exponent + (bitLength digits / 3 : Nat) then .infinite false
        else if exponent + (bitLength digits / 3 : Nat) < -6000 then .finite false 0 0
        else Datum.ofDecimal digits exponent
      let bits := kind.ofDatum d
      if isBinary then since .c99 "a hexadecimal floating-point constant"
      match kind.datum bits with
      | .infinite _ => forbid "overflow" "a constant is too large"
      | _ => pure ()
      if unsaid then warn "unsuffixed-float-constants" "a constant without a suffix"
      let s := WordType.float kind
      if isImaginary then
        extension "an imaginary constant"
        return { Value.ofTerm (.complex (.float kind)) .nothing with
          form := .pair .nothing (.word s 0) (.word s bits) }
      else return Value.ofTerm (.float kind) (.word s bits)

/-- The value of a constant between apostrophes. -/
def characterValue (text : String) : Compile Value := do
  match characterConstant? (!(← get).setting.naturalChar) text with
  | none => refuse "a malformed character"
  | some (n, kind) =>
      let (start, inside) := splitQuoted text
      if TextUnit.ofPrefix start = .byte then
        match quotedUnits .byte (inside.length + 1) [] inside with
        | some (_ :: _ :: _) => warn "multichar" "a constant of several characters"
        | _ => pure ()
      return Value.ofInt (.int kind) n

/-- A label by its name, for a statement that goes there. -/
def useLabel (name : String) : Compile Nat := do
  match ← function? with
  | none => refuse "a label outside of functions"
  | some f =>
      match f.labels.find? fun l => l.name = name with
      | some l =>
          if l.region ≠ f.regions then refuse "a jump out of a block for threads"
          modifyFunction fun f => { f with
            labels := f.labels.map fun x => if x.number = l.number then { x with isUsed := true } else x }
          return l.number
      | none =>
          let number ← newLabel
          let line := (← get).line
          modifyFunction fun f =>
            { f with labels := f.labels ++ [⟨name, number, false, true, f.regions, line⟩] }
          return number

/-- Declares a function that has no declaration. -/
def implicitFunction (name : String) : Compile Global := do
  if (← get).setting.since .c99 then
    forbid "implicit-function-declaration" "a function without a declaration"
  else warn "implicit" "a function without a declaration"
  match ← global? name with
  | some g =>
      declare name (.global name g.type)
      return g
  | none =>
      let type := (signature? name).getD (.function (.int .int) .noParams .unsaid)
      let s ← get
      let g : Global := { (default : Global) with
        name := name, symbol := name, type := type, isFunction := true, isUsed := true, isDeclared := true
        line := s.line, inHeader := s.inHeader }
      addGlobal name g
      declare name (.global name type)
      return g

/-- The value of a variable or function that the linker knows. -/
def globalValue (key : String) (g : Global) (type : SourceType) (name : String) : Compile Value := do
  if !g.isUsed then modifyGlobal key fun g => { g with isUsed := true }
  if type.isFunction then
    let t := if g.isNested then Term.request .closure (.args [.ofSymbol g.symbol]) else .ofSymbol g.symbol
    return { Value.ofTerm type t with name := name }
  else
    let t := if g.isThreadLocal then Term.request .threadPlace (.args [.ofSymbol g.symbol]) else .ofSymbol g.symbol
    return { Value.object type t with name := name }

/-- A function of the library by its name, which needs no declaration. -/
def libraryFunction (name : String) (type : SourceType) : Compile Value := do
  if (← global? name).isNone then
    addGlobal name { (default : Global) with
      name := name, symbol := name, type := type, isFunction := true, isUsed := true }
  return { Value.ofTerm type (.ofSymbol name) with name := name }

/-- What a name in an expression stands for. -/
def nameValue (name : String) : Compile Value := do
  match ← find? name with
  | some (.object slot) =>
      let v ← variableOf slot
      if v.type.isCounted then
        return { Value.object v.type (.load .address (.place slot 0)) with name := name }
      else return ⟨v.type, .variable_ slot, true, false, false, "", name⟩
  | some (.global key type) =>
      match ← global? key with
      | some g => globalValue key g type name
      | none => refuse "a name without a declaration"
  | some (.constant value type) => return Value.ofInt type value
  | some (.typeName _) => refuse "a type where a value is expected"
  | some .barred => refuse "a variable that a block for threads does not say how to share"
  | none =>
      match name with
      | "__func__" | "__FUNCTION__" | "__PRETTY_FUNCTION__" =>
          let f ← function?
          if f.isNone then forbid "" "the name of a function outside of functions"
          nameText ((f.map (·.name)).getD (if name = "__PRETTY_FUNCTION__" then "top level" else ""))
      | _ =>
          let base := String.ofList (name.toList.drop 10)
          match name.startsWith "__builtin_", signature? base with
          | true, some type => libraryFunction base type
          | _, _ => refuse ("an undeclared name: " ++ name)

/-- The arguments of a call behind the opening parenthesis. -/
def arguments (g : Grammar) : Nat → List Value → Compile (List Value)
  | 0, _ => refuse "too many arguments"
  | fuel + 1, done => do
      let v ← g .assignment
      if ← accept "," then arguments g fuel (v :: done)
      else
        expect ")"
        return (v :: done).reverse

/-- All arguments of a call. -/
def allArguments (g : Grammar) : Compile (List Value) := do
  if ← accept ")" then return [] else arguments g 100000 []

/-- A call of a function that the compiler knows by a reserved name. -/
def reservedCall (base : String) (args : List Value) : Compile Value := do
  let plain (name : String) (letters : String) : Compile Value := do
    let function ← libraryFunction name (signatureType letters)
    call function args
  match builtinSignatures[base]? with
  | some letters =>
      match base with
      | "FUNCTION" => nameText (((← function?).map (·.name)).getD "")
      | "FILE" => nameText "module.c"
      | "stack_save" => return Value.ofTerm (.pointer .void) (.request .top .nothing)
      | "stack_restore" =>
          match args with
          | [v] => return Value.ofTerm .void (.request .setTop (.args [(← read v).term]))
          | _ => refuse "an argument is missing"
      | _ =>
          let expected := ((letters.toList.drop 1).filter (· ≠ '.')).length
          if !letters.toList.contains '.' && args.length ≠ expected then refuse "a wrong number of arguments"
          match ← builtin base args with
          | some v => return v
          | none =>
              if (Mathematics.digitFunctions.lookup base).isSome then plain ("__builtin_" ++ base) letters
              else
                match signature? base with
                | some type => call (← libraryFunction base type) args
                | none => refuse "a call of a function of the compiler"
  | none =>
      match signature? base with
      | some type =>
          if base = "alloca" then
            match ← builtin base args with
            | some v => return v
            | none => refuse "an argument is missing"
          else call (← libraryFunction base type) args
      | none => refuse "an unknown function of the compiler"

/-- A call of a function by a name that has no declaration. -/
def undeclaredCall (g : Grammar) (name : String) : Compile Value := do
  let base := String.ofList (name.toList.drop 10)
  let isKnown := (builtinSignatures[base]?).isSome || (signature? base).isSome
  if name.startsWith "__builtin_" && isKnown then
    expect "("
    reservedCall base (← allArguments g)
  else if name.startsWith "__atomic_" || name.startsWith "__sync_" then
    expect "("
    let args ← allArguments g
    match ← atomic name args with
    | some v => return v
    | none => refuse "an unknown function on shared objects"
  else
    let found ← implicitFunction name
    let function ← globalValue name found found.type name
    expect "("
    call function (← allArguments g)

/-- An element of an array or vector. -/
def elementOf (v i : Value) : Compile Value := do
  match v.type.plain, i.type.plain with
  | .vector element _, _ =>
      let i ← read i
      if !i.type.isInteger then refuse "an index that is no integer"
      let size ← sizeOf element
      let address ← addressOf v
      let offset ← scaledOffset i (.address size)
      return { Value.object (element.qualify v.type.qualifiers) (Term.applyTwo .add .address address offset) with
        isObject := v.isObject }
  | _, _ =>
      if (v.type.plain matches .int .char | .int .naturalChar) || (i.type.plain matches .int .char | .int .naturalChar) then
        if i.intValue?.isNone || v.intValue?.isNone then warn "char-subscripts" "an index that is a character"
      let a ← read v
      let b ← read i
      let (a, b) := if a.type.isInteger then (b, a) else (a, b)
      if !a.type.isPointer then refuse "an element of something that is no array"
      if !b.type.isInteger then refuse "an index that is no integer"
      if a.type.target?.any (fun t => t.isVoid || t.isFunction) then
        if a.type.target?.any SourceType.isFunction then refuse "an element of a function"
      let found ← dereference (← addressPlus .add a b)
      return { found with name := "" }

/-- What may follow a primary expression; `fuel` bounds how much. -/
def postfixes (g : Grammar) : Nat → Value → Compile Value
  | 0, _ => refuse "an expression is too long"
  | fuel + 1, v => do
      if ← accept "[" then
        let i ← g .expression
        expect "]"
        postfixes g fuel (← elementOf v i)
      else if ← accept "(" then
        let args ← allArguments g
        if v.name = "alloca" && (← isLibrary v.name) then
          match ← builtin "alloca" args with
          | some v => postfixes g fuel v
          | none => refuse "an argument is missing"
        else postfixes g fuel { ← call v args with op := "call" }
      else if ← accept "." then
        postfixes g fuel (← memberOf v (← expectName))
      else if ← accept "->" then
        let name ← expectName
        postfixes g fuel (← memberOf (← dereference v) name)
      else if ← accept "++" then postfixes g fuel (← increment "+" true v)
      else if ← accept "--" then postfixes g fuel (← increment "-" true v)
      else return v

end Compile

end KernelForge.Compiler
