import KernelForge.Compiler.Pragma

/-!
# Specifiers

The words in front of the names of a declaration: where an object lives, and its type, which may be a
structure, union or enumeration that is declared at once. Members lie one after the other, each at a
multiple of its alignment; members of a few digits share words.
-/

namespace KernelForge.Compiler

open Code

/-- The words of a type so far. -/
structure TypeWords where
  base : String
  longs : Nat
  isShort : Bool
  isSigned : Bool
  isUnsigned : Bool
  isComplex : Bool
  isAtomic : Bool
  deriving Inhabited

/-- Where the members of a structure go. -/
structure LayoutState where
  /-- The first digit that is free. -/
  bits : Nat
  alignment : Nat
  members : Array Member
  names : List String
  deriving Inhabited

namespace Compile

/-- The type that words spell. -/
def wordsType (w : TypeWords) : Compile SourceType := do
  let setting := (← get).setting
  let complex (t : SourceType) : SourceType := if w.isComplex then .complex t else t
  let only (t : SourceType) : Compile SourceType := do
    if w.longs ≠ 0 || w.isShort || w.isSigned || w.isUnsigned then refuse "words that are no type"
    return complex t
  let sign (k : IntKind) : SourceType := complex (.int (if w.isUnsigned then k.toUnsigned else k))
  if w.isSigned && w.isUnsigned then refuse "a type with two signs"
  match w.base with
  | "void" => if w.isComplex then refuse "words that are no type" else only .void
  | "_Bool" => if w.isComplex then refuse "words that are no type" else only (.int .bool)
  | "float" => only (.float .single)
  | "_Float32" => only (.float .single)
  | "_Float64" | "_Float32x" => only (.float .double)
  | "_Float64x" => only (.float .extended)
  | "_Float128" | "__float128" => only (.float .quad)
  | "_Float16" => only (.float .half)
  | "double" =>
      if w.isShort || w.isSigned || w.isUnsigned || 1 < w.longs then refuse "words that are no type"
      return complex (.float (if w.longs = 1 then .extended else .double))
  | "char" =>
      if w.longs ≠ 0 || w.isShort then refuse "words that are no type"
      return complex (.int (if w.isUnsigned then .unsignedChar else if w.isSigned then .signedChar
        else if setting.naturalChar then .naturalChar else .char))
  | "__int128" =>
      if w.longs ≠ 0 || w.isShort then refuse "words that are no type"
      return sign .wide
  | _ =>
      if w.longs ≠ 0 && w.isShort then refuse "words that are no type"
      if w.base = "" && w.isComplex && w.longs = 0 && !w.isShort && !w.isSigned && !w.isUnsigned then
        extension "a complex number without a type"
        return .complex (.float .double)
      else if w.isShort then return sign .short
      else
        match w.longs with
        | 0 => return sign .int
        | 1 => return sign .long
        | 2 =>
            since .c99 "a very long integer"
            warn "long-long" "a very long integer"
            return sign .longLong
        | _ => refuse "an integer is too long"

/-- A new structure or union without members. -/
def newRecord (tag : String) (isUnion : Bool) : Compile Nat :=
  modifyGet fun s =>
    (s.records.size, { s with records := s.records.push ⟨tag, isUnion, #[], 0, 1, false, false⟩ })

/-- The greatest alignment that members may have. -/
def packLimit : Compile (Option Nat) := do return ((← get).packing.head?).getD none

/-- Puts a member behind the others. -/
def placeMember (isUnion isPacked : Bool) (found : Attributes) (name : String) (type : SourceType)
    (width : Option Nat) (st : LayoutState) : Compile LayoutState := do
  let records := (← get).records
  let limit ← packLimit
  let natural := if (isPacked || found.isPacked) && found.alignment = 0 then 1 else records.alignment type
  let natural := match limit with
    | some n => min n natural
    | none => natural
  let alignment := max natural found.alignment
  if !name.isEmpty && st.names.contains name then refuse "two members of one name"
  let names := if name.isEmpty then st.names else name :: st.names
  match width with
  | none =>
      let size := (records.size? type).getD 0
      let offset := if isUnion then 0 else roundUp ((st.bits + 7) / 8) alignment
      return ⟨if isUnion then max st.bits (8 * size) else 8 * (offset + size), max st.alignment alignment,
        st.members.push ⟨name, type, offset, none⟩, names⟩
  | some width =>
      let unit := (type.intKind?).getD .int
      let bits := unit.bits
      if isUnion then
        if width = 0 then return st
        else return ⟨max st.bits (8 * ((width + 7) / 8)), if name.isEmpty then st.alignment
          else max st.alignment alignment, st.members.push ⟨name, type, 0, some (0, width)⟩, names⟩
      else if width = 0 then
        return { st with bits := roundUp st.bits bits }
      else
        let packed := isPacked || found.isPacked
        let start :=
          if found.alignment ≠ 0 then roundUp st.bits (8 * alignment)
          else if !packed && limit.isNone && bits < st.bits % bits + width then roundUp st.bits bits
          else st.bits
        let straddles := bits < start % bits + width
        let offset := if straddles then start / 8 else start / bits * unit.bytes
        let member : Member := ⟨name, type, offset, some (start - 8 * offset, width)⟩
        return ⟨start + width, if name.isEmpty then st.alignment else max st.alignment alignment,
          if name.isEmpty then st.members else st.members.push member, names⟩

/-- The names of the members of a structure without a name. -/
def innerNames (records : Records) : Nat → Nat → List String
  | 0, _ => []
  | depth + 1, number =>
      (records.find number).members.toList.flatMap fun m =>
        if m.name.isEmpty then
          match m.type.plain with
          | .record inner => innerNames records depth inner
          | _ => []
        else [m.name]

/-- Reads the declarators of members after their specifiers. -/
def memberNames (g : Grammar) (isUnion isPacked : Bool) (spec : Specifiers) :
    Nat → LayoutState → Compile LayoutState
  | 0, _ => refuse "too many members"
  | fuel + 1, st => do
      let d ← if ← atMark ":" then pure { (default : Declarator) with type := spec.type, attributes := .none }
        else g (.declarator spec.type)
      let mut type := d.type
      if type.isVariablyModified then refuse "a member of computed size"
      if type.isFunction then refuse "a member that is a function"
      let width ← if ← accept ":" then
          let n ← constantInt g
          match type.intKind? with
          | none => refuse "digits of something that is no integer"
          | some kind =>
              let most := if kind = .bool then 1 else kind.bits
              if n < 0 || (most : Int) < n then refuse "a wrong number of digits"
              if n = 0 && !d.name.isEmpty then refuse "a member without digits"
              if !(kind = .bool || kind.rank = 3) then extension "digits of an unusual type"
              pure (some n.toNat)
        else pure none
      let found := joinAttributes (joinAttributes spec.attributes d.attributes) (← anyAttributes g)
      type ← attributedType { found with vectorBytes := d.attributes.vectorBytes, mode := d.attributes.mode } type
      if d.name.isEmpty && width.isNone then refuse "a member without a name"
      let isFlexible := match type.plain with
        | .array _ .missing => true
        | _ => false
      if isFlexible then
        if isUnion then refuse "a union of missing size"
        if st.members.isEmpty then refuse "a structure of missing size"
        if !(← atMark ";") || !(← peekAt 1).isMark "\x7d" then refuse "an array of missing length"
      else if !(← isComplete type) then refuse "a member of incomplete type"
      match type.plain with
      | .array _ (.known 0) => extension "an array of no length"
      | _ => pure ()
      let st ← placeMember isUnion isPacked found d.name type width st
      if ← accept "," then memberNames g isUnion isPacked spec fuel st
      else
        expect ";"
        return st

/-- Reads members up to the closing brace. -/
def memberList (g : Grammar) (isUnion isPacked : Bool) : Nat → LayoutState → Compile LayoutState
  | 0, _ => refuse "too many members"
  | fuel + 1, st => do
      followDirectives 100000
      if ← accept "\x7d" then return st
      else if ← accept ";" then
        extension "a member is missing"
        memberList g isUnion isPacked fuel st
      else if ← acceptKeyword "_Static_assert" then
        let _ ← g .declaration
        memberList g isUnion isPacked fuel st
      else
        let _ ← acceptKeyword "__extension__"
        let spec ← g .specifiers
        if spec.storage ≠ .usual || spec.isImplicit then refuse "a member without a type"
        if ← accept ";" then
          match spec.type.plain with
          | .record number =>
              let records := (← get).records
              if (records.find number).tag.isEmpty then
                since .c11 "a member without a name"
                let names := innerNames records 16 number
                if names.any st.names.contains then refuse "two members of one name"
                let st ← placeMember isUnion isPacked spec.attributes "" spec.type none st
                memberList g isUnion isPacked fuel { st with names := names ++ st.names }
              else
                warn "" "a declaration of nothing"
                memberList g isUnion isPacked fuel st
          | _ =>
              warn "" "a declaration of nothing"
              memberList g isUnion isPacked fuel st
        else
          let st ← memberNames g isUnion isPacked spec 10000 st
          memberList g isUnion isPacked fuel st

/-- Reads a structure or union behind its keyword. -/
def recordType (g : Grammar) (isUnion : Bool) : Compile SourceType := do
  let before ← anyAttributes g
  let a ← peek
  let tag := if a.kind = .name then a.text else ""
  if a.kind = .name then skip
  if ← accept "\x7b" then
    let known ← if tag.isEmpty then pure none else findTagHere? tag
    let number ← match known with
      | some (.record n u) =>
          if u ≠ isUnion || ((← get).records.find n).isComplete then refuse "a tag is declared again"
          pure n
      | some (.enum _ _ _) => refuse "a tag is declared again"
      | none =>
          let n ← newRecord tag isUnion
          if !tag.isEmpty then declareTag tag (.record n isUnion)
          pure n
    -- Attributes behind the brace count for the members too.
    let saved := (← get).input
    let closing := (closingBrace 0 saved).drop 1
    modify fun s => { s with input := closing }
    let later ← anyAttributes g
    let rest := (← get).input
    modify fun s => { s with input := saved }
    let found := joinAttributes before later
    let st ← memberList g isUnion found.isPacked 100000 ⟨0, 1, #[], []⟩
    modify fun s => { s with input := rest }
    if st.members.isEmpty then extension "a structure without members"
    let limit ← packLimit
    let alignment := max st.alignment found.alignment
    let _ := limit
    let size := roundUp ((st.bits + 7) / 8) alignment
    modify fun s =>
      { s with records := s.records.modify number fun r =>
          { r with members := st.members, size := size, alignment := alignment, isComplete := true
                   isTransparent := found.isTransparent } }
    return .record number
  else
    if tag.isEmpty then refuse "a structure without a name"
    let semicolon ← atMark ";"
    let known ← if semicolon then findTagHere? tag else findTag? tag
    match known with
    | some (.record n u) =>
        if u ≠ isUnion then refuse "a tag of another kind"
        return .record n
    | some (.enum _ _ _) => refuse "a tag of another kind"
    | none =>
        let n ← newRecord tag isUnion
        declareTag tag (.record n isUnion)
        return .record n
where
  /-- The lexemes from the brace on that closes an open one. -/
  closingBrace (depth : Nat) : List Lexeme → List Lexeme
    | [] => []
    | a :: rest =>
        if a.isMark "\x7d" then
          match depth with
          | 0 => a :: rest
          | depth + 1 => closingBrace depth rest
        else closingBrace (if a.isMark "\x7b" then depth + 1 else depth) rest

/-- Reads the constants of an enumeration. -/
def enumConstants (g : Grammar) (number : Nat) :
    Nat → Int → List (String × Int) → Compile (List (String × Int))
  | 0, _, _ => refuse "too many constants"
  | fuel + 1, value, done => do
      if ← accept "\x7d" then return done.reverse
      else
        let name ← expectName
        let _ ← anyAttributes g
        let value ← if ← accept "=" then constantInt g else pure value
        match ← findHere? name with
        | some _ => refuse "a name is declared again"
        | none => pure ()
        if !fits .int value then
          extension "a constant beyond the range of int"
          if !fits .long value && !fits .unsignedLong value then refuse "a constant is too large"
        let kind : IntKind := if fits .int value then .int else if fits .unsignedInt value then .unsignedInt
          else if fits .long value then .long else .unsignedLong
        declare name (.constant value (.int kind))
        if ← accept "," then
          if ← atMark "\x7d" then since .c99 "a comma at the end of an enumeration"
          enumConstants g number fuel (value + 1) ((name, value) :: done)
        else
          expect "\x7d"
          return ((name, value) :: done).reverse

/-- Reads an enumeration behind its keyword. -/
def enumType (g : Grammar) : Compile SourceType := do
  let before ← anyAttributes g
  let a ← peek
  let tag := if a.kind = .name then a.text else ""
  if a.kind = .name then skip
  let fixed ← if (← atMark ":") && (← get).setting.since .c23 then
      skip
      let t ← g .typeName
      pure t.intKind?
    else pure none
  if ← accept "\x7b" then
    let number := (← get).enums
    modify fun s => { s with enums := s.enums + 1 }
    if !tag.isEmpty then
      match ← findTagHere? tag with
      | some (.enum _ _ false) => pure ()
      | some _ => refuse "a tag is declared again"
      | none => pure ()
    if ← atMark "\x7d" then refuse "an enumeration without constants"
    let constants ← enumConstants g number 100000 0 []
    let found := joinAttributes before (← anyAttributes g)
    let values := constants.map (·.2)
    let least := values.foldl min 0
    let greatest := values.foldl max 0
    let short := found.isPacked || (← get).setting.shortEnums
    let kinds : List IntKind :=
      (if short then [.unsignedChar, .signedChar, .unsignedShort, .short] else []) ++
        [.unsignedInt, .int, .unsignedLong, .long]
    let kind := fixed.getD
      ((kinds.find? fun k => k.least ≤ least && greatest ≤ k.greatest).getD .unsignedLong)
    if kind.bits = 64 then
      for (name, value) in constants do
        if !fits .int value then declare name (.constant value (.enum number kind))
    if !tag.isEmpty then declareTag tag (.enum number kind true)
    return .enum number kind
  else
    if tag.isEmpty then refuse "an enumeration without a name"
    match ← findTag? tag with
    | some (.enum n kind _) => return .enum n kind
    | some _ => refuse "a tag of another kind"
    | none =>
        extension "an enumeration that is not known yet"
        let number := (← get).enums
        modify fun s => { s with enums := s.enums + 1 }
        let kind := fixed.getD .unsignedInt
        declareTag tag (.enum number kind fixed.isSome)
        return .enum number kind

/-- The type of an expression or type in parentheses. -/
def typeOfParentheses (g : Grammar) (isUnqualified : Bool) : Compile SourceType := do
  expect "("
  let type ← if ← beginsType (← peek) then g .typeName
    else do
      let v ← g .expression
      if v.form matches .digits _ _ _ _ then refuse "the type of digits of a word"
      addSetup (if v.type.isVariablyModified then effectOf v else .nothing)
      pure v.type
  expect ")"
  return if isUnqualified then type.unqualified else type

/-- What has been read of specifiers. -/
structure SpecifierState where
  words : TypeWords
  type : Option SourceType
  qualifiers : Qualifiers
  result : Specifiers
  hasStorage : Bool
  deriving Inhabited

/-- Sets where an object lives. -/
def setStorage (storage : Storage) (st : SpecifierState) : Compile SpecifierState := do
  if st.hasStorage then refuse "two storage classes"
  return { st with result := { st.result with storage := storage }, hasStorage := true }

/-- Reads specifiers; `fuel` bounds their number. -/
def specifierList (g : Grammar) : Nat → SpecifierState → Compile SpecifierState
  | 0, _ => refuse "too many specifiers"
  | fuel + 1, st => do
      let a ← peek
      let w := st.words
      let hasWords := !w.base.isEmpty || w.longs ≠ 0 || w.isShort || w.isSigned || w.isUnsigned
      let hasType := st.type.isSome || hasWords
      let word (w : TypeWords) : Compile SpecifierState := do
        if st.type.isSome then refuse "two types"
        skip
        specifierList g fuel { st with words := w }
      let base : Compile SpecifierState := do
        if !w.base.isEmpty && !(w.base = "int" || a.text = "int") then refuse "two types"
        if w.base = a.text then refuse "two types"
        if !w.base.isEmpty then refuse "two types"
        word { w with base := a.text }
      let given (t : SourceType) (declaresTag : Bool) : Compile SpecifierState := do
        if hasType || w.isComplex then refuse "two types"
        specifierList g fuel
          { st with type := some t
                    result := { st.result with declaresTag := st.result.declaresTag || declaresTag } }
      let qualifier (q : Qualifiers) : Compile SpecifierState := do
        skip
        if q.isConst && st.qualifiers.isConst then
          warn "duplicate-decl-specifier" "a qualifier is repeated"
        specifierList g fuel { st with qualifiers := st.qualifiers.union q }
      let storage (s : Storage) : Compile SpecifierState := do
        skip
        if hasType then warn "old-style-declaration" "the storage class does not come first"
        specifierList g fuel (← setStorage s st)
      let flag (r : Specifiers) : Compile SpecifierState := do
        skip
        specifierList g fuel { st with result := r }
      if a.kind = .keyword then
        match a.text with
        | "void" | "char" | "int" | "float" | "double" | "_Bool" | "__int128" | "__float128" | "_Float128"
        | "_Float16" | "_Float32" | "_Float64" | "_Float32x" | "_Float64x" => base
        | "short" => if w.isShort then refuse "two types" else word { w with isShort := true }
        | "long" => word { w with longs := w.longs + 1 }
        | "signed" => if w.isSigned then refuse "two types" else word { w with isSigned := true }
        | "unsigned" => if w.isUnsigned then refuse "two types" else word { w with isUnsigned := true }
        | "_Complex" =>
            since .c99 "a complex number"
            if st.type.isSome then refuse "two types"
            skip
            specifierList g fuel { st with words := { w with isComplex := true } }
        | "const" => qualifier .const
        | "volatile" => qualifier { Qualifiers.none with isVolatile := true }
        | "restrict" => qualifier { Qualifiers.none with isRestrict := true }
        | "_Atomic" =>
            since .c11 "an atomic object"
            if (← peekAt 1).isMark "(" then
              skip
              skip
              let t ← g .typeName
              expect ")"
              if hasType then refuse "two types"
              specifierList g fuel { st with type := some t
                                             qualifiers := st.qualifiers.union { Qualifiers.none with isAtomic := true } }
            else qualifier { Qualifiers.none with isAtomic := true }
        | "struct" | "union" =>
            skip
            given (← recordType g (a.text = "union")) true
        | "enum" =>
            skip
            given (← enumType g) true
        | "typeof" | "typeof_unqual" =>
            skip
            given (← typeOfParentheses g (a.text = "typeof_unqual")) false
        | "typedef" => storage .typedef
        | "extern" =>
            if st.result.isThreadLocal then warn "" "the order of storage classes"
            storage .outside
        | "static" => storage .static
        | "register" => storage .register
        | "auto" =>
            if (← get).setting.since .c23 then
              skip
              specifierList g fuel { st with result := { st.result with isDeduced := true } }
            else storage .auto
        | "__auto_type" =>
            skip
            specifierList g fuel { st with type := some .void, result := { st.result with isDeduced := true } }
        | "inline" => flag { st.result with isInline := true }
        | "_Noreturn" =>
            since .c11 "a function that does not return"
            flag { st.result with isFinal := true }
        | "_Thread_local" =>
            if a.text = "_Thread_local" then pure ()
            flag { st.result with isThreadLocal := true }
        | "constexpr" =>
            skip
            specifierList g fuel
              { st with qualifiers := st.qualifiers.union .const
                        result := { st.result with isConstant := true } }
        | "_Alignas" =>
            skip
            since .c11 "an alignment"
            expect "("
            let n ← if ← beginsType (← peek) then do
                let t ← g .typeName
                pure ((← get).records.alignment t)
              else do pure (← constantInt g).toNat
            expect ")"
            if n ≠ 0 && twoPow (bitLength n - 1) ≠ n then refuse "an alignment that is no power of two"
            let r := st.result
            specifierList g fuel
              { st with result := { r with attributes := { r.attributes with
                  alignment := max r.attributes.alignment n } } }
        | "__attribute__" =>
            let found ← anyAttributes g
            let r := st.result
            specifierList g fuel { st with result := { r with attributes := joinAttributes r.attributes found } }
        | "__extension__" =>
            skip
            specifierList g fuel st
        | "_Decimal32" | "_Decimal64" | "_Decimal128" | "_Imaginary" | "_Sat" | "_Fract" | "_Accum" =>
            refuse "a type that the machine does not have"
        | _ => return st
      else if a.kind = .name && !hasType && !w.isComplex && !st.result.isDeduced then
        match ← find? a.text with
        | some (.typeName t) =>
            skip
            given t false
        | _ => return st
      else if a.isMark "[" && (← peekAt 1).isMark "[" then
        let found ← anyAttributes g
        let r := st.result
        specifierList g fuel { st with result := { r with attributes := joinAttributes r.attributes found } }
      else return st

/-- Reads the specifiers of a declaration. -/
def specifiers (g : Grammar) : Compile Specifiers := do
  let start : SpecifierState :=
    ⟨⟨"", 0, false, false, false, false, false⟩, none, .none,
      ⟨.void, .usual, false, false, false, false, false, false, false, .none⟩, false⟩
  let st ← specifierList g 10000 start
  let w := st.words
  let hasWords := !w.base.isEmpty || w.longs ≠ 0 || w.isShort || w.isSigned || w.isUnsigned || w.isComplex
  let isImplicit := st.type.isNone && !hasWords && !st.result.isDeduced
  let type ← match st.type with
    | some t => pure t
    | none => if isImplicit then pure (.int .int) else wordsType w
  let type ← attributedType st.result.attributes type
  if st.qualifiers.isRestrict && !(type.target?.any fun t => !t.isFunction) then
    refuse "restrict for something that is no address"
  let q := st.qualifiers
  if type.qualifiers.isConst && q.isConst && !type.isArray then
    if !(← get).setting.since .c99 then extension "a qualifier is repeated"
  return { st.result with type := type.qualify q, isImplicit := isImplicit }

end Compile

end KernelForge.Compiler
