import KernelForge.Compiler.Specifier

/-!
# Declarators

What stands around a declared name: addresses in front of it, lengths of arrays and parameters of
functions behind it. What follows a parenthesis is read before what is inside it.
-/

namespace KernelForge.Compiler

open Code

/-- The parameters of a function as they are read. -/
structure ParamList where
  types : List SourceType
  style : ParamStyle
  params : List Parameter
  names : List String
  deriving Inhabited

namespace Compile

/-- The qualifiers and attributes that follow the mark of an address. -/
def pointerQualifiers (g : Grammar) : Nat → Qualifiers → Compile Qualifiers
  | 0, _ => refuse "too many qualifiers"
  | fuel + 1, q => do
      if ← acceptKeyword "const" then pointerQualifiers g fuel { q with isConst := true }
      else if ← acceptKeyword "volatile" then pointerQualifiers g fuel { q with isVolatile := true }
      else if ← acceptKeyword "restrict" then pointerQualifiers g fuel { q with isRestrict := true }
      else if ← acceptKeyword "_Atomic" then pointerQualifiers g fuel { q with isAtomic := true }
      else if ← atKeyword "__attribute__" then
        let _ ← anyAttributes g
        pointerQualifiers g fuel q
      else return q

/-- The marks of addresses in front of a name. -/
def pointers (g : Grammar) : Nat → SourceType → Compile SourceType
  | 0, _ => refuse "too many addresses"
  | fuel + 1, type => do
      if ← accept "*" then
        let q ← pointerQualifiers g 1000 .none
        if q.isRestrict && type.isFunction then refuse "restrict for an address of a function"
        pointers g fuel ((SourceType.pointer type).qualify q)
      else return type

/-- Lexemes behind the parenthesis that closes an open one. -/
def behindClosed (depth : Nat) : List Lexeme → List Lexeme
  | [] => []
  | a :: rest =>
      if a.isMark ")" then
        match depth with
        | 0 => rest
        | depth + 1 => behindClosed depth rest
      else behindClosed (if a.isMark "(" then depth + 1 else depth) rest

/-- The length of an array between brackets, with the qualifiers that a parameter gets. -/
def arrayLength (g : Grammar) : Compile (Extent × Qualifiers) := do
  let isStatic ← acceptKeyword "static"
  let q ← pointerQualifiers g 1000 .none
  let _ ← acceptKeyword "static"
  let _ := isStatic
  if ← accept "]" then return (.missing, q)
  else if (← atMark "*") && (← peekAt 1).isMark "]" then
    skip
    skip
    return (.star, q)
  else
    let v ← read (← g .assignment)
    expect "]"
    if !v.type.isInteger then refuse "the length of an array is no integer"
    match v.intValue? with
    | some n =>
        if n < 0 then refuse "the length of an array is negative"
        if n = 0 then extension "an array of no length"
        if !v.isExact then
          if ← isOutermost then extension "the length of an array is computed"
        return (.known n.toNat, q)
    | none =>
        if (← get).current.isEmpty && (← isOutermost) then refuse "the length of an array is computed"
        since .c99 "the length of an array is computed"
        warn "vla" "the length of an array is computed"
        let slot ← newTemporary .address
        let kind := (v.type.intKind?).getD .int
        addSetup (.sequence (.set slot (Term.converted (.int kind) .address v.term)) .nothing)
        return (.counted slot, q)

/-- The type of a parameter as the function sees it. -/
def adjusted (type : SourceType) (q : Qualifiers) : SourceType :=
  match type.plain with
  | .array element _ => (SourceType.pointer element).qualify q
  | .function r p s => .pointer (.function r p s)
  | _ => type

/-- Reads parameters up to the closing parenthesis. -/
def paramList (g : Grammar) : Nat → ParamList → Compile ParamList
  | 0, _ => refuse "too many parameters"
  | fuel + 1, found => do
      if ← accept "..." then
        if found.types.isEmpty then since .c23 "a function without named parameters"
        expect ")"
        return { found with style := .variadic }
      else
        let spec ← g .specifiers
        if spec.isImplicit then refuse "the type of a parameter is missing"
        if spec.storage ≠ .usual && spec.storage ≠ .register then refuse "a storage class of a parameter"
        if spec.isInline || spec.isThreadLocal then refuse "a storage class of a parameter"
        let d ← g (.declarator spec.type)
        let _ ← anyAttributes g
        let q := match d.type.plain with
          | .array _ _ => (d.attributes.mode.map fun _ => Qualifiers.const).getD .none
          | _ => .none
        let type ← attributedType { Attributes.none with vectorBytes := d.attributes.vectorBytes } d.type
        let type := adjusted type q
        let isLast ← atMark ")"
        if type.isVoid && found.types.isEmpty && isLast && d.name.isEmpty then
          if type.qualifiers ≠ .none || spec.storage ≠ .usual then refuse "a parameter without a value"
          expect ")"
          return found
        else if type.isVoid && !(d.name.isEmpty) then refuse "a parameter without a value"
        else
          let slot ← if d.name.isEmpty then pure 0
            else do
              match ← findHere? d.name with
              | some _ => refuse "two parameters of one name"
              | none => pure ()
              let slot ← newVariable d.name type 1
              modifyVariable slot fun v =>
                { v with isParam := true, isRegister := spec.storage = .register
                         isKept := d.attributes.isKept || spec.attributes.isKept }
              declare d.name (.object slot)
              pure slot
          let found : ParamList :=
            { found with types := found.types ++ [type], params := found.params ++ [⟨d.name, type, slot⟩] }
          if ← accept "," then paramList g fuel found
          else
            expect ")"
            if found.types.any SourceType.isVoid then refuse "a parameter without a value"
            return found

/-- Reads names of parameters up to the closing parenthesis. -/
def identifierList : Nat → List String → Compile (List String)
  | 0, _ => refuse "too many parameters"
  | fuel + 1, done => do
      let name ← expectName
      if ← accept "," then identifierList fuel (name :: done)
      else
        expect ")"
        return (name :: done).reverse

/-- Reads what is between the parentheses behind the name of a function. -/
def functionParams (g : Grammar) : Compile (ParamList × Scope) := do
  openScope false
  let a ← peek
  let list ←
    if ← accept ")" then
      let isNew := (← get).setting.since .c23
      if !isNew then warn "strict-prototypes" "a function without parameters"
      pure ⟨[], if isNew then .exact else .unsaid, [], []⟩
    else if a.kind = .name && !(← beginsType a) then
      let names ← identifierList 10000 []
      pure ⟨[], .unsaid, [], names⟩
    else paramList g 10000 ⟨[], .exact, [], []⟩
  let scope := ((← get).scopes.head?).getD .empty
  closeScope
  return (list, scope)

/-- Reads what follows a name: lengths of arrays and parameters. -/
def suffixes (g : Grammar) : Nat → Declarator → Compile Declarator
  | 0, _ => refuse "a declaration is nested too deeply"
  | fuel + 1, d => do
      if (← atMark "[") && !(← peekAt 1).isMark "[" then
        skip
        let (extent, q) ← arrayLength g
        let inner ← suffixes g fuel { d with params := [], names := [] }
        if inner.type.isFunction || inner.type.isVoid then refuse "an array of something that is no object"
        if !(← isComplete inner.type) then refuse "an array of an incomplete type"
        let attributes := if q.isConst then { inner.attributes with mode := some "const" } else inner.attributes
        match extent, (← get).records.size? inner.type with
        | .known n, some size =>
            if twoPow 63 ≤ n * size then refuse "an array is too large"
        | _, _ => pure ()
        return { inner with type := .array inner.type extent, attributes := attributes, params := [] }
      else if ← accept "(" then
        let (list, scope) ← functionParams g
        let inner ← suffixes g fuel { d with params := [], names := [] }
        if inner.type.isFunction then refuse "a function that gives a function"
        if inner.type.isArray then refuse "a function that gives an array"
        let params := SourceType.ofParams (list.types.map SourceType.plain)
        return { inner with
          type := .function inner.type.plain params list.style
          params := list.params, names := list.names, scope := scope }
      else return d

/-- Reads a name with what stands around it; the name may be missing. -/
def declarator (g : Grammar) (type : SourceType) : Compile Declarator := do
  let first ← anyAttributes g
  let type ← pointers g 1000 type
  let second ← anyAttributes g
  let found := joinAttributes first second
  let nothing : Declarator := ⟨"", type, [], [], { found with mode := none }, .empty, .nothing⟩
  let a ← peek
  if a.kind = .name then
    skip
    let d ← suffixes g 1000 { nothing with name := a.text }
    return d
  else if a.isMark "(" then
    let b ← peekAt 1
    if b.isMark ")" || (← beginsType b) && !b.text.startsWith "__attribute" then suffixes g 1000 nothing
    else
      skip
      let inside := (← get).input
      modify fun s => { s with input := behindClosed 0 inside }
      let outer ← suffixes g 1000 nothing
      let rest := (← get).input
      modify fun s => { s with input := inside }
      let inner ← g (.declarator outer.type)
      if !(← accept ")") then refuse "a parenthesis is missing in a declaration"
      modify fun s => { s with input := rest }
      return { inner with attributes := joinAttributes found inner.attributes
                          params := if inner.params.isEmpty && inner.type = outer.type then outer.params
                            else inner.params
                          names := if inner.names.isEmpty && inner.type = outer.type then outer.names
                            else inner.names
                          scope := if inner.type = outer.type then outer.scope else inner.scope }
  else suffixes g 1000 nothing

/-- Reads the name of a type. -/
def typeName (g : Grammar) : Compile SourceType := do
  let spec ← g .specifiers
  if spec.isImplicit then refuse "a type is expected"
  if spec.storage ≠ .usual then refuse "a storage class in the name of a type"
  let d ← g (.declarator spec.type)
  if !d.name.isEmpty then refuse "a name in the name of a type"
  let found ← anyAttributes g
  attributedType { Attributes.none with vectorBytes := max d.attributes.vectorBytes found.vectorBytes } d.type

end Compile

end KernelForge.Compiler
