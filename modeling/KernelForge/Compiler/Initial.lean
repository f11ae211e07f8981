import KernelForge.Compiler.Declarator

/-!
# Initial values

The initial value of an object is a list of pieces at offsets. Braces may be left out around the
values of inner structures and arrays; a value may say which member or element it is for, and the next
ones follow from there.
-/

namespace KernelForge.Compiler

open Code

/-- Says which part of an object a value is for. -/
inductive Designator where
  | member (name : String)
  | elements (first last : Nat)
  deriving Inhabited

/-- A part of an object. -/
structure PartOf where
  type : SourceType
  offset : Nat
  digits : Option (Nat × Nat)
  deriving Inhabited

namespace Compile

/-- The unit of texts that an array of a type can hold. -/
def textUnit? (element : SourceType) : Option TextUnit :=
  match element.intKind? with
  | some .char | some .naturalChar | some .signedChar | some .unsignedChar => some .byte
  | some .int => some .wide
  | some .unsignedShort => some .utf16
  | some .unsignedInt => some .utf32
  | _ => none

/-- How many parts an object has; an array of missing length has no limit. -/
def partCount (records : Records) (type : SourceType) : Option Nat :=
  match type.plain with
  | .array _ (.known n) => some n
  | .array _ _ => none
  | .vector _ n => some n
  | .record number =>
      let r := records.find number
      some (if r.isUnion then min 1 r.members.size else r.members.size)
  | _ => some 1

/-- A part of an object by its number. -/
def partAt (records : Records) (type : SourceType) (i : Nat) : Option PartOf :=
  let q := type.qualifiers
  match type.plain with
  | .array element _ | .vector element _ =>
      (records.size? element).map fun size => ⟨element, i * size, none⟩
  | .record number => do
      let m ← (records.find number).members[i]?
      return ⟨m.type.qualify q, m.offset, m.digits⟩
  | _ => some ⟨type, 0, none⟩

/-- The number of the member that has a name, or that has a member of it, in which case the name is
still to be found there. -/
def memberIndex (records : Records) (type : SourceType) (name : String) : Option (Nat × Bool) :=
  match type.plain with
  | .record number =>
      let members := (records.find number).members
      match members.findIdx? (·.name = name) with
      | some i => some (i, false)
      | none =>
          let found := members.findIdx? fun m =>
            m.name.isEmpty && match m.type.plain with
              | .record inner => (records.member? 16 inner name).isSome
              | _ => false
          found.map (·, true)
  | _ => none

/-- Whether values of a type are made of parts. -/
def isAggregate (type : SourceType) : Bool := type.isArray || type.isRecord || type.isVector

/-- The pieces of a text in an array. -/
def textPieces (type : SourceType) (offset : Nat) (t : TextConstant) : Compile (Nat × Array InitialPiece) := do
  let element := (type.element?.getD type).plain
  let size := t.unit.bytes
  let pieces := (t.units.mapIdx fun i (n : Nat) =>
    (⟨offset + i * size, element, none, Value.ofInt element (n : Nat)⟩ : InitialPiece)).toArray
  match type.plain with
  | .array _ (.known n) =>
      if n < t.units.length then forbid "" "a text is too long"
      return (n, pieces.extract 0 n)
  | _ => return (t.units.length + 1, pieces)

/-- Reads designators up to the equals sign; `fuel` bounds their number. -/
def designators (g : Grammar) : Nat → List Designator → Compile (List Designator)
  | 0, _ => refuse "too many designators"
  | fuel + 1, done => do
      if ← accept "." then
        let name ← expectName
        designators g fuel (.member name :: done)
      else if ← accept "[" then
        let first ← constantInt g
        let last ← if ← accept "..." then
            extension "a range of elements"
            constantInt g
          else pure first
        expect "]"
        if first < 0 || last < first then refuse "a wrong index"
        designators g fuel (.elements first.toNat last.toNat :: done)
      else
        if !done.isEmpty then
          since .c99 "a value for a part that is named"
          if !(← accept "=") then extension "an equals sign is missing"
        return done.reverse

/-- Whether the value of an expression is a whole object of a type. -/
def isWhole (type : SourceType) (v : Value) : Bool :=
  (type.isRecord && type.plain = v.type.plain) || (type.isVector && v.type.isVector && type.alike v.type)

/-- Moves pieces. -/
def movePieces (distance : Nat) (pieces : Array InitialPiece) : Array InitialPiece :=
  pieces.map fun p => { p with offset := p.offset + distance }

/-- What is left to do in an initial value: a part itself, or the parts of an object from one on. -/
inductive InitialTask where
  | element (part : PartOf) (path : List Designator) (pending : Option Value)
  | list (type : SourceType) (offset : Nat) (isBraced : Bool) (index : Nat) (path : List Designator)
      (pending : Option Value) (done : Array InitialPiece) (largest : Nat) (isNamed : Bool)

/-- Reads initial values; gives the pieces and how many parts of an array there are. -/
def initialPieces (g : Grammar) : Nat → InitialTask → Compile (Array InitialPiece × Nat)
  | 0, _ => refuse "an initial value is too long"
  | fuel + 1, .element part path pending => do
      let type := part.type
      match path, pending with
      | _ :: _, _ =>
          if !isAggregate type then refuse "a designator for something without parts"
          initialPieces g fuel (.list type part.offset false 0 path pending #[] 0 true)
      | [], some v =>
          if isAggregate type && !isWhole type v then
            if type.isArray && v.type.isArray && type.alike v.type && v.op = "text" then
              refuse "a text in the wrong place"
            initialPieces g fuel (.list type part.offset false 0 [] (some v) #[] 0 false)
          else
            let v ← assigned type (← read v)
            return (#[⟨part.offset, type.plain, part.digits, v⟩], 1)
      | [], none =>
          let a ← peek
          let unit? := type.element?.bind textUnit?
          if a.isMark "\x7b" then
            skip
            let b ← peek
            if b.kind = .text && unit?.isSome then
              match ← textConstants with
              | some t =>
                  if unit? ≠ some t.unit && !(unit?.any fun u => u.bytes = t.unit.bytes) then
                    refuse "a text of other characters"
                  let (n, pieces) ← textPieces type part.offset t
                  let _ ← accept ","
                  expect "\x7d"
                  return (pieces, n)
              | none => refuse "a malformed text"
            else if isAggregate type then
              initialPieces g fuel (.list type part.offset true 0 [] none #[] 0 false)
            else
              if ← accept "\x7d" then
                if !(← get).setting.since .c23 then extension "braces without values"
                return (#[], 1)
              let (pieces, _) ← initialPieces g fuel (.element part [] none)
              if ← accept "," then
                if !(← atMark "\x7d") then
                  forbid "" "too many values"
                  let _ ← g .assignment
                  let _ ← accept ","
              expect "\x7d"
              return (pieces, 1)
          else if a.kind = .text && unit?.isSome then
            match ← textConstants with
            | some t =>
                if unit? ≠ some t.unit && !(unit?.any fun u => u.bytes = t.unit.bytes) then
                  refuse "a text of other characters"
                let (n, pieces) ← textPieces type part.offset t
                return (pieces, n)
            | none => refuse "a malformed text"
          else
            let v ← g .assignment
            initialPieces g fuel (.element part [] (some v))
  | fuel + 1, .list type offset isBraced index path pending done largest isNamed => do
      let records := (← get).records
      let isUnion := match type.plain with
        | .record n => (records.find n).isUnion
        | _ => false
      let ends ← if path.isEmpty && pending.isNone && isBraced then accept "\x7d" else pure false
      if ends then
        if done.isEmpty && index = 0 && !(← get).setting.since .c23 then
          extension "braces without values"
        let count := partCount records type
        if !isNamed && type.isRecord && !isUnion && 0 < index && count.any (index < ·) then
          let onlyZero := done.size = 1 && (done.all fun p => p.value.intValue? = some 0)
          if !onlyZero then warn "missing-field-initializers" "values of members are missing"
        return (done, largest)
      else
        let path ← if path.isEmpty && pending.isNone && isBraced then
            let a ← peek
            if a.kind = .name && (← peekAt 1).isMark ":" then
              extension "an old designator"
              skip
              skip
              pure [Designator.member a.text]
            else designators g 1000 []
          else pure path
        let isNamed := isNamed || !path.isEmpty
        let (index, last, inner) ← match path with
          | [] => pure (index, index, [])
          | .elements first last :: rest =>
              if !(type.isArray || type.isVector) then refuse "an index for something that is no array"
              match partCount records type with
              | some n => if n ≤ last then refuse "an index beyond the array"
              | none => pure ()
              pure (first, last, rest)
          | .member name :: rest =>
              match memberIndex records type name with
              | some (i, false) => pure (i, i, rest)
              | some (i, true) => pure (i, i, .member name :: rest)
              | none => refuse "a member that is not there"
        let beyond := (partCount records type).any fun n => n ≤ index && (path.isEmpty || !isUnion)
        if beyond then
          if isBraced then
            if pending.isNone then
              if ← accept "\x7b" then skipBraced 0 (← remaining) else
                let _ ← g .assignment
            forbid "" "too many values"
            let done ← pure done
            if ← accept "," then initialPieces g fuel (.list type offset true index [] none done largest isNamed)
            else
              expect "\x7d"
              return (done, largest)
          else return (done, largest)
        else
          match partAt records type index with
          | none => refuse "a part of an incomplete object"
          | some part =>
              let part := { part with offset := offset + part.offset }
              if part.type.isArray && !isBraced && partCount records part.type = none then
                refuse "an array of missing length"
              let elided := isAggregate part.type && inner.isEmpty && pending.isNone && isBraced &&
                !(← atMark "\x7b") && !((← peek).kind = .text && (part.type.element?.bind textUnit?).isSome)
              let a ← peek
              let (pieces, _) ← initialPieces g fuel (.element part inner pending)
              if elided && pieces.size ≠ 0 && !(pieces.all fun p => isAggregate p.type) then
                if !(a.kind = .number && a.text = "0" && pieces.size = 1) then
                  warn "missing-braces" "braces are missing"
              let size := (records.size? part.type).getD 0
              let copies := (List.range (last - index)).foldl
                (fun (all : Array InitialPiece) k => all ++ movePieces ((k + 1) * size) pieces) pieces
              let done := done ++ copies
              let largest := max largest (last + 1)
              let more := match partCount records type with
                | some n => last + 1 < n && !isUnion
                | none => true
              if isBraced then
                if ← accept "," then
                  initialPieces g fuel (.list type offset true (last + 1) [] none done largest isNamed)
                else
                  expect "\x7d"
                  let count := partCount records type
                  if !isNamed && type.isRecord && !isUnion && count.any (last + 1 < ·) then
                    let onlyZero := done.size = 1 && (done.all fun p => p.value.intValue? = some 0)
                    if !onlyZero then warn "missing-field-initializers" "values of members are missing"
                  return (done, largest)
              else if more && (← atMark ",") then
                let b ← peekAt 1
                if b.isMark "\x7d" || b.isMark "." || b.isMark "[" then return (done, largest)
                else
                  skip
                  initialPieces g fuel (.list type offset false (last + 1) [] none done largest isNamed)
              else return (done, largest)
where
  /-- Skips what is in braces. -/
  skipBraced (depth : Nat) : Nat → Compile Unit
    | 0 => refuse "a brace is not closed"
    | fuel + 1 => do
        let a ← next
        if a.isMark "\x7b" then skipBraced (depth + 1) fuel
        else if a.isMark "\x7d" then
          match depth with
          | 0 => pure ()
          | depth + 1 => skipBraced depth fuel
        else skipBraced depth fuel

/-- Reads the initial value of an object, and says its type with the length that the value gives. -/
def initial (g : Grammar) (type : SourceType) : Compile (SourceType × List InitialPiece) := do
  let a ← peek
  if type.isArray && !a.isMark "\x7b" && !(a.kind = .text) && !(a.isMark "(") then
    refuse "an array has to be initialized with values in braces"
  if type.isCounted && !((← peekAt 0).isMark "\x7b" && (← peekAt 1).isMark "\x7d") then
    refuse "an array of computed length with an initial value"
  if type.isCounted then
    skip
    skip
    return (type, [])
  else if type.isArray && a.isMark "(" then
    let v ← g .assignment
    if type.alike v.type && v.type.isArray then
      let full := match type.plain, v.type.plain with
        | .array e .missing, .array _ extent => (SourceType.array e extent)
        | t, _ => t
      return (full, [⟨0, full.unqualified, none, v⟩])
    else refuse "an array has to be initialized with values in braces"
  else
    let (pieces, count) ← initialPieces g 1000000 (.element ⟨type, 0, none⟩ [] none)
    let full := match type.plain with
      | .array element .missing => .array element (.known count)
      | _ => type
    return (full, pieces.toList)

/-- Code that gives an object its initial value. -/
def initialCode (slot : Nat) (type : SourceType) (pieces : List InitialPiece) : Compile Term := do
  let object : Value := ⟨type.unqualified, .variable_ slot, true, false, false, "", ""⟩
  if !isAggregate type then
    match pieces with
    | p :: _ =>
        let w ← writeTo object p.value
        return effectOf w
    | [] =>
        match type.scalar? with
        | some s => return .sequence (.set slot (.word s 0)) .nothing
        | none =>
            keepInMemory slot
            return .clear (.place slot 0) (.address (← sizeOf type))
  else
    keepInMemory slot
    let wholly := pieces.length = 1 && pieces.all fun p => p.offset = 0 && isAggregate p.type
    let clear ← if wholly then pure Term.nothing
      else
        let extra := pieces.foldl (fun n p => max n (p.offset + 16)) 0
        let _ := extra
        pure (Term.clear (.place slot 0) (.address (← sizeOf type)))
    let writes ← pieces.mapM fun p => do
      let isZero := match p.value.form with
        | .term (.word _ 0) => p.digits.isNone
        | _ => false
      if isZero && !(pieces.any fun q => q.digits.isSome) && (pieces.filter fun q => q.offset = p.offset).length = 1 then
        return .nothing
      else
        let target := match p.digits with
          | some (first, width) =>
              { Value.object p.type .nothing with
                form := .digits (.place slot p.offset) ((p.type.intKind?).getD .int) first width }
          | none => Value.object p.type (.place slot p.offset)
        if p.type.isArray then
          let size ← sizeOf p.type
          return Term.copy (.place slot p.offset) (← addressOf p.value) (.address size)
        else return effectOf (← writeTo target p.value)
    return clear.andThen (Term.all writes)

/-- What an object holds from the start, from constant pieces. -/
def imageOf (type : SourceType) (pieces : List InitialPiece) : Compile Image := do
  let size := ((← get).records.size? type).getD 0
  let alignment := (← get).records.alignment type
  let mut found : Array (Nat × WordType × Term) := #[]
  for p in pieces do
    match p.digits with
    | some (first, width) =>
        match p.value.intValue? with
        | none => refuse "an initial value is no constant"
        | some n =>
            let unit := (p.type.intKind?).getD .int
            let kind := if unit = .bool then IntKind.unsignedChar else unit.toUnsigned
            let mask := twoPow width - 1
            let part := (IntKind.unsignedWide.word n) % twoPow width * twoPow first
            let old := ((found.find? fun (o, _, _) => o = p.offset).bind fun (_, _, t) =>
              match t with
              | .word _ bits => some bits
              | _ => none).getD 0
            let cleared := old - (old / twoPow first % twoPow width) * twoPow first
            let _ := mask
            found := (found.filter fun (o, _, _) => o ≠ p.offset).push
              (p.offset, .int kind, .word (.int kind) (cleared + part))
    | none =>
        let overlapping := if found.back?.all fun (o, _, _) => o < p.offset then found
          else found.filter fun (o, _, _) => o ≠ p.offset
        match p.value.form with
        | .term t =>
            if !t.isConstant then refuse "an initial value is no constant"
            match p.type.scalar? with
            | some s => found := overlapping.push (p.offset, s, t)
            | none => refuse "an initial value is no constant"
        | .pair .nothing re im =>
            if !re.isConstant || !im.isConstant then refuse "an initial value is no constant"
            let s := partScalar p.type
            found := (overlapping.push (p.offset, s, re)).push (p.offset + s.bytes, s, im)
        | .place (.symbol name 0) =>
            let s ← get
            let source := s.globals.fold
              (fun (found : Option Global) _ (x : Global) => if x.symbol = name then some x else found) none
            match source with
            | some x =>
                if !x.isDefined || !x.name.isEmpty then refuse "an initial value is no constant"
                found := overlapping ++ x.image.pieces.map fun (o, s, t) => (p.offset + o, s, t)
            | none => refuse "an initial value is no constant"
        | _ => refuse "an initial value is no constant"
  return ⟨size, alignment, found⟩

end Compile

end KernelForge.Compiler
