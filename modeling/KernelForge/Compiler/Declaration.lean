import KernelForge.Compiler.Expression

/-!
# Declarations

A name that the linker knows may be declared often and defined once; its declarations have to agree. A
local variable exists from its declaration on, and one that is never used gives a warning when its block
ends. The body of a function is read in the scope of its parameters.
-/

namespace KernelForge.Compiler

open Code

namespace Compile

/-- Whether warnings of a name were asked for by the name itself. -/
def asksFor (name : String) : Compile Bool := do
  return ((← get).setting.warnings.chosen.lookup name).getD false

/-- A warning that no group turns on, but only its own name. -/
def warnAsked (name reason : String) : Compile Unit := do
  if ← asksFor name then warn name reason

/-- The declaration of a name that the linker knows, as one declaration gives it. -/
def linked (spec : Specifiers) (found : Attributes) (name : String) (type : SourceType) : Compile Global := do
  let s ← get
  let isExternWord := spec.storage = .outside
  let visible := match found.visibility with
    | some "hidden" | some "internal" => false
    | some _ => true
    | none =>
        match s.visibility.head? with
        | some hidden => !hidden
        | none => !s.setting.hidden || (isExternWord && !type.isFunction)
  let old := s.setting.oldInline || found.isInlineOnly
  let isExternal := if old then !(spec.isInline && isExternWord) else !spec.isInline || isExternWord
  let symbol := if s.setting.typedNames && type.isFunction && !s.keepsNames && !s.inHeader then
      "_Z" ++ toString name.length ++ name else name
  return { (default : Global) with
    name := name, symbol := symbol, type := type, isFunction := type.isFunction
    isStatic := spec.storage = .static, isInline := spec.isInline, isExternal := isExternal
    isHidden := !visible, isWeak := found.isWeak, isThreadLocal := spec.isThreadLocal
    isFinal := spec.isFinal || found.isFinal, isKept := found.isKept || found.onLoad
    isDeclared := true, standsFor := found.standsFor, runsOnLoad := found.onLoad
    image := { (default : Image) with alignment := found.alignment }
    line := s.line, inHeader := s.inHeader }

/-- Adds a declaration to those of the same name. -/
def mergeGlobal (name : String) (fresh : Global) (isExternWord : Bool) : Compile Unit := do
  match ← global? name with
  | none => addGlobal name fresh
  | some old =>
      if !old.isDeclared then
        if !old.type.compatible fresh.type then
          warn "builtin-declaration-mismatch" "a function of the compiler is declared otherwise"
        modify fun s => { s with globals := s.globals.insert name { fresh with isUsed := old.isUsed } }
      else
        if old.isFunction ≠ fresh.isFunction then refuse "a name is declared as something else"
        if !old.type.compatible fresh.type then refuse "declarations of a name do not agree"
        if fresh.isStatic && !old.isStatic then refuse "a name is static only later"
        if old.isStatic && !fresh.isStatic && !fresh.isFunction && !isExternWord then
          refuse "a name is not static any more"
        if old.isThreadLocal ≠ fresh.isThreadLocal then refuse "a variable is of threads only once"
        if old.isDefined && fresh.isDefined then refuse "a name is defined again"
        if !fresh.isDefined && !fresh.inHeader && !old.inHeader then
          warnAsked "redundant-decls" "a declaration is repeated"
        let image := if fresh.isDefined then fresh.image else old.image
        let merged : Global := { old with
          type := old.type.composite fresh.type
          isStatic := old.isStatic || fresh.isStatic
          isDefined := old.isDefined || fresh.isDefined
          isTentative := old.isTentative || fresh.isTentative
          isInline := old.isInline || fresh.isInline
          isExternal := old.isExternal || fresh.isExternal
          isHidden := old.isHidden || fresh.isHidden && (fresh.isDefined || !old.isDefined)
          isWeak := old.isWeak || fresh.isWeak
          isFinal := old.isFinal || fresh.isFinal
          isKept := old.isKept || fresh.isKept
          runsOnLoad := old.runsOnLoad || fresh.runsOnLoad
          standsFor := old.standsFor <|> fresh.standsFor
          image := { image with alignment := max old.image.alignment fresh.image.alignment } }
        modify fun s => { s with globals := s.globals.insert name merged }

/-- Refuses a name that the innermost scope has already, unless it is the same thing. -/
def requireNew (name : String) : Compile Unit := do
  match ← findHere? name with
  | some _ => refuse ("a name is declared again: " ++ name)
  | none => pure ()

/-- Warns about a name that hides another one. -/
def checkHidden (name : String) : Compile Unit := do
  let s ← get
  let outer : Option (Entity × Nat) := (s.scopes.drop 1).findSome? fun scope => scope.entities[name]?
  match outer with
  | some (.typeName _, _) => pure ()
  | some _ => warn "shadow" "a name hides another one"
  | none => pure ()

/-- Gives a type a name. -/
def declareAlias (name : String) (type : SourceType) : Compile Unit := do
  match ← findHere? name with
  | some (.typeName old) =>
      if !(old.compatible type) || type.isVariablyModified then refuse "a type is declared again"
      else
        since .c11 "a type is declared again"
        declare name (.typeName (old.composite type))
  | some _ => refuse "a name is declared again"
  | none => declare name (.typeName type)

/-- What follows a declarator: a symbol and attributes. -/
def afterDeclarator (g : Grammar) (d : Declarator) : Compile (Attributes × Option String) := do
  let first ← anyAttributes g
  let symbol ← if ← acceptKeyword "asm" then do
      expect "("
      let name ← textLetters
      expect ")"
      pure (some name)
    else pure none
  let second ← anyAttributes g
  return (joinAttributes d.attributes (joinAttributes first second), symbol)

/-- Checks what must hold when the source is read, behind its keyword. -/
def staticAssertion (g : Grammar) : Compile Unit := do
  since .c11 "an assertion"
  expect "("
  let n ← constantInt g
  if ← accept "," then
    let _ ← textLetters
  else since .c23 "an assertion without a text"
  expect ")"
  if n = 0 then refuse "an assertion does not hold"
  expect ";"

/-- Closes a scope and warns about what was never used in it. -/
def closeBlockScope : Compile Unit := do
  let s ← get
  match s.scopes.head? with
  | some scope =>
      for (_, entity, _) in scope.entities.toList do
        match entity with
        | .object slot =>
            let v := s.locals.getD slot default
            if !v.isParam && !v.isKept && !v.info.name.isEmpty then
              if !v.isRead then
                if v.isSet then warn "unused-but-set-variable" "a variable is set but not used"
                else warn "unused-variable" "a variable is not used"
              else if !v.isSet && !v.hasInitial && !v.info.inMemory then
                warn "uninitialized" "a variable has no value"
        | .global key _ =>
            match s.globals[key]? with
            | some x =>
                if key ≠ x.name && x.isStatic && !x.isUsed && !x.isKept && !x.isNested then
                  warn "unused-variable" "a variable is not used"
            | none => pure ()
        | _ => pure ()
  | none => pure ()
  closeScope

/-- Gives an object with a symbol its initial value. -/
def initializeGlobal (g : Grammar) (key : String) (type : SourceType) : Compile SourceType := do
  let (full, pieces) ← g (.initial type true)
  let image ← imageOf full pieces
  let size := image.pieces.foldl (fun n (o, s, _) => max n (o + s.bytes)) image.size
  modifyGlobal key fun x => { x with
    type := full, isDefined := true, image := { image with
      size := size, alignment := max image.alignment x.image.alignment } }
  return full

/-- Declares an object that lives as long as the program, inside a function. -/
def staticLocal (g : Grammar) (spec : Specifiers) (found : Attributes) (name : String) (type : SourceType) :
    Compile Unit := do
  if type.isVariablyModified && type.isCounted then refuse "an array of computed length that is static"
  requireNew name
  checkHidden name
  let key ← newSymbol name
  let fresh ← linked spec found name type
  addGlobal key { fresh with symbol := key, isStatic := true, isDefined := true }
  declare name (.global key type)
  let full ← if ← accept "=" then initializeGlobal g key type
    else do
      let size ← sizeOf type
      let natural := (← get).records.alignment type
      modifyGlobal key fun x => { x with
        image := ⟨size, max natural x.image.alignment, #[]⟩ }
      pure type
  if !(← isComplete full) then refuse "an object of incomplete type"
  declare name (.global key full)

/-- Declares a name of the linker inside a function. -/
def externLocal (g : Grammar) (spec : Specifiers) (found : Attributes) (symbol : Option String) (name : String)
    (type : SourceType) : Compile Unit := do
  if ← atMark "=" then refuse "an initial value for a name from outside"
  let _ := g
  warnAsked "nested-externs" "a declaration inside a function"
  let fresh ← linked { spec with storage := .outside } found name type
  match ← findHere? name with
  | some (.global key _) => if key ≠ name then refuse "a name is declared again"
  | some _ => refuse "a name is declared again"
  | none => pure ()
  mergeGlobal name { fresh with symbol := symbol.getD fresh.symbol } true
  let merged := ((← global? name).map (·.type)).getD type
  declare name (.global name merged)

/-- Says what has to be done when the current block is left. -/
def addCleanup (t : Term) : Compile Unit := modifyFunction fun f => { f with cleanups := t :: f.cleanups }

/-- Allocates an array of computed length. -/
def allocateArray (slot : Nat) (type : SourceType) : Compile Term := do
  let size ← strideOf type
  let top ← newTemporary .address
  addCleanup (.sequence (.request .setTop (.args [.get top])) .nothing)
  return (Term.sequence (.set top (.request .top .nothing)) .nothing).andThen
    (.sequence (.store .address (.place slot 0) (.request .allocate (.args [size]))) .nothing)

/-- Declares a local variable; gives the code of its initial value. -/
def localVariable (g : Grammar) (spec : Specifiers) (found : Attributes) (name : String) (type : SourceType) :
    Compile Term := do
  requireNew name
  checkHidden name
  let setup ← takeSetup
  if spec.isDeduced then
    if !(← accept "=") then refuse "the type of a variable is missing"
    let v ← read (← g .assignment)
    if v.type.isVoid then refuse "a variable without a value"
    let type := v.type.plain.qualify spec.type.qualifiers
    let slot ← newVariable name type found.alignment
    let write ← writeTo ⟨type.unqualified, .variable_ slot, true, false, false, "", name⟩ v
    modifyVariable slot fun x => { x with isSet := false, hasInitial := true, isKept := found.isKept }
    declare name (.object slot)
    return setup.andThen (effectOf write)
  else
    if type.isVoid then refuse "a variable without a value"
    let slot ← newVariable name type found.alignment
    modifyVariable slot fun x => { x with
      isRegister := spec.storage = .register, isKept := found.isKept || found.cleanup.isSome }
    declare name (.object slot)
    let allocate ← if type.isCounted then
        keepInMemory slot
        allocateArray slot type
      else pure .nothing
    let code ← if ← accept "=" then
        let (full, pieces) ← g (.initial type false)
        if !(← isComplete full) then refuse "an object of incomplete type"
        if type.isCounted then
          pure (Term.clear (.load .address (.place slot 0)) (← strideOf type))
        else
          let size ← sizeOf full
          modifyVariable slot fun x => { x with
            type := full, hasInitial := true, info := { x.info with size := size } }
          let wasSet := (← variableOf slot).isSet
          let code ← initialCode slot full pieces
          modifyVariable slot fun x => { x with isSet := wasSet }
          pure code
      else
        if !(← isComplete type) then refuse "an object of incomplete type"
        if type.qualifiers.isConst then warn "c++-compat" "a constant without a value"
        pure .nothing
    if let some f := found.cleanup then
      let function ← nameValue f
      let object : Value := ⟨(← variableOf slot).type, .variable_ slot, true, false, false, "", name⟩
      let v ← call function [← reference object]
      addCleanup (effectOf v)
    return setup.andThen (allocate.andThen code)

/-- Reads the declarations of parameters between the names and the body of a function. -/
def oldParams (g : Grammar) : Nat → List (String × SourceType) → Compile (List (String × SourceType))
  | 0, _ => refuse "too many parameters"
  | fuel + 1, done => do
      if ← atMark "\x7b" then return done
      else
        let spec ← g .specifiers
        if spec.storage ≠ .usual && spec.storage ≠ .register then refuse "a storage class of a parameter"
        let found ← names spec 10000 []
        oldParams g fuel (done ++ found)
where
  /-- The names of one declaration. -/
  names (spec : Specifiers) : Nat → List (String × SourceType) → Compile (List (String × SourceType))
    | 0, _ => refuse "too many parameters"
    | fuel + 1, done => do
        let d ← g (.declarator spec.type)
        if d.name.isEmpty then refuse "the name of a parameter is missing"
        let done := done ++ [(d.name, adjusted d.type .none)]
        if ← accept "," then names spec fuel done
        else
          expect ";"
          return done

/-- All places that jumps of a term go to. -/
def jumpTargets : Term → List Nat
  | .set _ a | .one _ _ a | .convert _ _ a | .load _ a | .jumpTo a | .return_ a => jumpTargets a
  | .store _ a b | .two _ _ a b | .both a b | .either a b | .sequence a b | .arg a b | .clear a b =>
      jumpTargets a ++ jumpTargets b
  | .choose a b c | .copy a b c => jumpTargets a ++ jumpTargets b ++ jumpTargets c
  | .call _ f a => jumpTargets f ++ jumpTargets a
  | .request _ a => jumpTargets a
  | .jump n | .labelAddress n => [n]
  | .branch _ c n => n :: jumpTargets c
  | .select _ v cases otherwise => otherwise :: cases.map (·.2.2) ++ jumpTargets v
  | _ => []

/-- Whether the end of a term can be reached from its start. -/
def endsAlive (targets : List Nat) : Bool → Term → Bool
  | live, .sequence a b => endsAlive targets (endsAlive targets live a) b
  | live, .label n => live || targets.contains n
  | _, .jump _ | _, .jumpTo _ | _, .return_ _ | _, .select _ _ _ _ => false
  | live, .choose c a b =>
      let live := endsAlive targets live c
      let known := c.intValue?
      let yes := endsAlive targets (live && known ≠ some 0) a
      let no := endsAlive targets (live && !(known.any (· ≠ 0))) b
      yes || no
  | _, .request .trap _ => false
  | live, .branch onZero c n =>
      let _ := n
      match c.intValue? with
      | some k => live && (k = 0) ≠ onZero
      | none => live
  | live, _ => live

/-- The code that takes the words of parameters: the slots of the words, and what is done first. -/
def takeParams (params : List (String × SourceType × Nat)) (isOld : Bool) :
    Compile (List Nat × Term) := do
  let taken ← params.mapM fun (name, type, slot) => do
    match type.scalar? with
    | some s =>
        if name.isEmpty then return (← newTemporary s, Term.nothing)
        else
          let wide := type.promoted
          match isOld, wide.scalar? with
          | true, some w =>
              if w = s then return (slot, Term.nothing)
              else
                let temporary ← newTemporary w
                return (temporary, Term.sequence (.set slot (Term.converted w s (.get temporary))) .nothing)
          | _, _ => return (slot, Term.nothing)
    | none =>
        let address ← newTemporary .address
        if name.isEmpty then return (address, Term.nothing)
        else
          keepInMemory slot
          let size ← sizeOf type
          return (address, Term.copy (.place slot 0) (.get address) (.address size))
  return (taken.map (·.1), Term.all (taken.map (·.2)))

/-- Reads the body of a function and keeps its code. -/
def functionBody (g : Grammar) (d : Declarator) (key : String) (start : Nat) (isFinal : Bool) :
    Compile Unit := do
  match d.type.plain with
  | .function result _ style =>
      let result := result.plain
      if !result.isVoid && !(← isComplete result) then refuse "a result of incomplete type"
      let setup ← takeSetup
      let number ← newFunctionNumber
      modify fun s => { s with locals := s.locals.mapIdx fun i v =>
        if start ≤ i then { v with info := { v.info with owner := number } } else v }
      let outer := (← get).current.map (·.number)
      let needsPlace := !result.isVoid && result.scalar?.isNone
      let context : FunctionContext :=
        { (default : FunctionContext) with
          number := number, name := d.name, result := result, isFinal := isFinal
          isVariadic := style = .variadic }
      modify fun s => { s with scopes := { d.scope with isFunction := true } :: s.scopes }
      let ((body, words), context) ← inFunction context do
        let place ← if needsPlace then do pure [← newTemporary .address] else pure []
        modifyFunction fun f => { f with resultPlace := place.head? }
        let params ← if d.names.isEmpty then pure (d.params.map fun p => (p.name, p.type, p.slot))
          else do
            let given ← oldParams g 10000 []
            for (name, _) in given do
              if !d.names.contains name then refuse "a declaration of something that is no parameter"
            d.names.mapM fun name => do
              let type ← match given.lookup name with
                | some t => pure t
                | none =>
                    if (← get).setting.since .c99 then forbid "implicit-int" "the type of a parameter is missing"
                    pure (SourceType.int .int)
              let slot ← newVariable name type 1
              modifyVariable slot fun v => { v with isParam := true }
              declare name (.object slot)
              pure (name, type, slot)
        let (words, copies) ← takeParams params (!d.names.isEmpty)
        for (name, type, _) in params do
          if name.isEmpty then since .c23 "a parameter without a name"
          if !(← isComplete type) then refuse "a parameter of incomplete type"
        let later ← takeSetup
        expect "\x7b"
        let body ← g .block
        for (name, _, slot) in params do
          let v ← variableOf slot
          if !name.isEmpty && !v.isKept then
            if !v.isRead then
              if v.isSet then warn "unused-but-set-parameter" "a parameter is set but not used"
              else warn "unused-parameter" "a parameter is not used"
        pure ((copies.andThen (setup.andThen (later.andThen body)), place ++ words) : Term × List Nat)
      closeBlockScope
      for label in context.labels do
        if !label.isDefined then refuse ("a label is missing: " ++ label.name)
        if !label.isUsed && !label.name.isEmpty then warn "unused-label" "a label is not used"
      if !result.isVoid && endsAlive (jumpTargets body) true body then
        warn "return-type" "the end of a function without a value is reached"
      else if isFinal && endsAlive (jumpTargets body) true body then
        warn "" "a function that does not return does"
      let symbol := ((← global? key).map (·.symbol)).getD key
      let code : FunctionCode := ⟨number, symbol, outer, words, style = .variadic, body⟩
      modify fun s => { s with functions := s.functions.push code }
  | _ => refuse "a body of something that is no function"

/-- Reads a function inside a function. -/
def nestedFunction (g : Grammar) (spec : Specifiers) (d : Declarator) (found : Attributes) (start : Nat) :
    Compile Unit := do
  extension "a function inside a function"
  if spec.storage = .static || spec.storage = .outside then refuse "a storage class of a function inside a function"
  let known ← findHere? d.name
  let key ← match known with
    | some (.global key type) => do
        if key = d.name || !(type.compatible d.type) then refuse "a name is declared again"
        pure key
    | some _ => refuse "a name is declared again"
    | none => do
        let key ← newSymbol d.name
        let fresh ← linked spec found d.name d.type
        addGlobal key { fresh with symbol := key, isStatic := true, isNested := true }
        declare d.name (.global key d.type)
        pure key
  if ((← global? key).map (·.isDefined)).getD false then refuse "a function is defined again"
  modifyGlobal key fun x => { x with isDefined := true }
  functionBody g d key start (spec.isFinal || found.isFinal)

/-- Reads the names of a declaration inside a function. -/
def localNames (g : Grammar) (spec : Specifiers) : Nat → Term → Compile Term
  | 0, _ => refuse "too many names"
  | fuel + 1, done => do
      let start := (← get).locals.size
      let d ← g (.declarator spec.type)
      if d.name.isEmpty then refuse ("expected a name before " ++ (← peek).text)
      let (late, symbol) ← afterDeclarator g d
      let found := joinAttributes spec.attributes late
      let type ← attributedType { late with alignment := 0 } d.type
      let d := { d with type := type }
      if d.type.isFunction && spec.storage ≠ .typedef && (← atMark "\x7b") then
        nestedFunction g spec d found start
        return done
      else
        let code ← if spec.storage = .typedef then
            checkHidden d.name
            let type := type
            declareAlias d.name type
            takeSetup
          else if type.isFunction then
            if spec.storage = .static then refuse "a static function inside a function"
            if spec.storage = .auto then
              let key ← newSymbol d.name
              let fresh ← linked spec found d.name d.type
              addGlobal key { fresh with symbol := key, isStatic := true, isNested := true }
              declare d.name (.global key d.type)
            else externLocal g spec found symbol d.name type
            let _ ← takeSetup
            pure .nothing
          else if spec.storage = .outside then
            externLocal g spec found symbol d.name type
            let _ ← takeSetup
            pure .nothing
          else if spec.storage = .static then
            let setup ← takeSetup
            staticLocal g spec found d.name type
            pure setup
          else if spec.isThreadLocal then refuse "a variable of threads that is not static"
          else localVariable g spec found d.name type
        let done := done.andThen code
        if ← accept "," then localNames g spec fuel done
        else
          expect ";"
          return done

/-- Reads a declaration inside a function. -/
def localDeclaration (g : Grammar) : Compile Term := do
  if ← acceptKeyword "_Static_assert" then
    staticAssertion g
    return .nothing
  else
    let setup ← takeSetup
    let spec ← g .specifiers
    if spec.isFinal || spec.isInline then pure ()
    if ← accept ";" then
      if !spec.declaresTag then
        if spec.isImplicit then warn "" "an empty declaration" else warn "" "a declaration of nothing"
      return setup.andThen (← takeSetup)
    else
      if spec.isImplicit then
        if (← get).setting.since .c99 then forbid "implicit-int" "the type of a variable is missing"
        else warn "implicit" "the type of a variable is missing"
      let code ← localNames g spec 100000 .nothing
      return setup.andThen code

end Compile

end KernelForge.Compiler
