import KernelForge.Compiler.Instruction
import KernelForge.Compiler.Unit

/-!
# From terms to instructions

A term leaves its word on the stack when its word is wanted. The depth of the stack is known at every
label, so that a jump can drop what an unfinished expression has left there. Variables that have
addresses, or that a function inside uses, live in the memory of the frame.
-/

namespace KernelForge.Compiler

open Code

/-- Where a local variable lives. -/
inductive Home where
  | slot (number : Nat)
  | memory (offset : Nat)
  deriving Repr, Inhabited

/-- What is known of a function while its code is made. -/
structure FunctionFrame where
  number : Nat
  symbol : String
  outer : List Nat
  /-- The slot of the address of further arguments. -/
  further : Option Nat
  deriving Inhabited

/-- The code so far. -/
structure AssemblyState where
  code : Array Instruction
  /-- The positions of labels and the depth of the stack there. -/
  labels : Std.HashMap Nat (Nat × Nat)
  depth : Nat
  nextLabel : Nat
  deriving Inhabited

/-- What does not change while code is made. -/
structure AssemblyContext where
  locals : Array Variable
  homes : Std.HashMap Nat Home
  /-- The functions inside others, by their symbols: numbers and the functions around them. -/
  inner : Std.HashMap String (Nat × List Nat)
  /-- The distances between copies of objects of threads. -/
  strides : Std.HashMap String Nat
  frame : FunctionFrame

/-- Making code. -/
abbrev Assembler := ReaderT AssemblyContext (StateM AssemblyState)

namespace Assembler

/-- Adds an instruction. -/
def emit (i : Instruction) : Assembler Unit := modify fun s =>
  { s with code := s.code.push i, depth := ((s.depth : Int) + i.growth).toNat }

/-- A new label. -/
def fresh : Assembler Nat := modifyGet fun s => (s.nextLabel, { s with nextLabel := s.nextLabel + 1 })

/-- Puts a label here. -/
def mark (label : Nat) : Assembler Unit := modify fun s =>
  { s with labels := s.labels.insert label (s.code.size, s.depth) }

/-- Sets the depth of the stack, behind a jump. -/
def setDepth (depth : Nat) : Assembler Unit := modify fun s => { s with depth := depth }

/-- The address of the frame of a function around the current one, as an instruction. -/
def frameAddress (function offset : Nat) : Assembler Instruction := do
  let frame := (← read).frame
  if function = frame.number then return .frame offset
  else
    match frame.outer.findIdx? (· = function) with
    | some i => return .outer (i + 1) offset
    | none => return .frame offset

/-- Where a variable lives. -/
def homeOf (slot : Nat) : Assembler Home := do return ((← read).homes[slot]?).getD (.slot 0)

/-- The address of a variable. -/
def address (slot : Nat) (offset : Int) : Assembler Unit := do
  let owner := ((← read).locals.getD slot default).info.owner
  match ← homeOf slot with
  | .memory at_ =>
      if 0 ≤ (at_ : Int) + offset then emit (← frameAddress owner ((at_ : Int) + offset).toNat)
      else
        emit (← frameAddress owner at_)
        emit (.word (IntKind.unsignedLong.word offset))
        emit (.two .add .address)
  | .slot _ => emit (.word 0)

/-- The scalar of a variable. -/
def scalarOf (slot : Nat) : Assembler WordType := do
  return (((← read).locals.getD slot default).info.scalar).getD .address

/-- The words of a list of arguments. -/
def listed : Term → List Term
  | .arg first rest => first :: listed rest
  | .nothing => []
  | t => [t]

/-- The code of a term; the word that it has is left when it is wanted. -/
def gen (wanted : Bool) : Term → Assembler Unit
  | .nothing => pure ()
  | .word _ bits => if wanted then emit (.word bits) else pure ()
  | .symbol name offset => if wanted then emit (.symbol name offset) else pure ()
  | .place slot offset => if wanted then address slot offset else pure ()
  | .get slot => do
      if wanted then
        match ← homeOf slot with
        | .slot i => emit (.get i)
        | .memory _ =>
            address slot 0
            emit (.load (← scalarOf slot))
  | .set slot value => do
      match ← homeOf slot with
      | .slot i =>
          gen true value
          emit (if wanted then .keep i else .set i)
      | .memory _ =>
          address slot 0
          gen true value
          let s ← scalarOf slot
          emit (if wanted then .storeKeep s else .store s)
  | .load s a => do
      gen true a
      emit (.load s)
      if !wanted then emit .drop
  | .store s a v => do
      gen true a
      gen true v
      emit (if wanted then .storeKeep s else .store s)
  | .one op s a => do
      gen true a
      emit (.one op s)
      if !wanted then emit .drop
  | .two op s a b => do
      gen true a
      gen true b
      emit (.two op s)
      if !wanted then emit .drop
  | .convert s t a => do
      gen wanted a
      if wanted then emit (.convert s t)
  | .choose c yes no => do
      let wanted := wanted && yes.hasWord
      gen true c
      let otherwise ← fresh
      emit (.branch true otherwise)
      let depth := (← get).depth
      gen wanted yes
      if no matches .nothing then
        mark otherwise
        setDepth (if wanted then depth + 1 else depth)
      else
        let done ← fresh
        emit (.jump done)
        setDepth depth
        mark otherwise
        gen wanted no
        if wanted && !no.hasWord then emit (.word 0)
        mark done
  | .both a b => do
      gen true a
      let no ← fresh
      let done ← fresh
      emit (.branch true no)
      let depth := (← get).depth
      gen wanted b
      emit (.jump done)
      setDepth depth
      mark no
      if wanted then emit (.word 0)
      mark done
  | .either a b => do
      gen true a
      let yes ← fresh
      let done ← fresh
      emit (.branch false yes)
      let depth := (← get).depth
      gen wanted b
      emit (.jump done)
      setDepth depth
      mark yes
      if wanted then emit (.word 1)
      mark done
  | .sequence a b => do
      gen false a
      gen wanted b
  | .call hasResult function args => do
      let count := (listed args).length
      genArgs args
      match function with
      | .symbol name 0 => emit (.callSymbol name count hasResult)
      | .request .closure (.arg (.symbol name _) _) =>
          match (← read).inner[name]? with
          | some (number, outer) =>
              emit (← frameAddress (outer.headD 0) 0)
              emit (.callInner number count hasResult)
          | none => emit (.callSymbol name count hasResult)
      | function =>
          gen true function
          emit (.call count hasResult)
      if hasResult && !wanted then emit .drop
  | .request .closure (.arg (.symbol name _) _) => do
      let outer := (((← read).inner[name]?).map (·.2)).getD []
      if wanted then
        emit (.symbol name 0)
        emit (← frameAddress (outer.headD 0) 0)
        emit (.request .closure)
  | .request .threadPlace (.arg (.symbol name offset) _) => do
      if wanted then
        emit (.symbol name offset)
        emit (.word (((← read).strides[name]?).getD 0))
        emit (.request .threadPlace)
  | .request .furtherArguments _ => do
      if wanted then
        match (← read).frame.further with
        | some slot => emit (.get slot)
        | none => emit (.word 0)
  | .request r args => do
      gen true args
      emit (.request r)
      if r.shape.2 && !wanted then emit .drop
  | .arg first rest => do
      gen true first
      gen true rest
  | .copy target source size => do
      gen true target
      gen true source
      gen true size
      emit .copy
  | .clear target size => do
      gen true target
      gen true size
      emit .clear
  | .label n => mark n
  | .jump n => do emit (.jumpAt (← get).depth n)
  | .jumpTo a => do
      gen true a
      emit .jumpTo
  | .labelAddress n => if wanted then emit (.labelAddress n) else pure ()
  | .branch onZero c n => do
      gen true c
      emit (.branch onZero n)
  | .select kind value cases otherwise => do
      gen true value
      emit (.select kind cases otherwise)
  | .return_ value => do
      let depth := (← get).depth
      gen true value
      emit (.leave value.hasWord)
      setDepth depth
where
  /-- The words of arguments, from the last to the first. -/
  genArgs : Term → Assembler Unit
    | .arg first rest => do
        genArgs rest
        gen true first
    | t => gen true t

end Assembler

/-- The variables that a term mentions. -/
def mentionedSlots (found : Array Nat) : Term → Array Nat
  | .place slot _ | .get slot => found.push slot
  | .set slot a => mentionedSlots (found.push slot) a
  | .one _ _ a | .convert _ _ a | .load _ a | .jumpTo a | .return_ a | .request _ a | .branch _ a _
  | .select _ a _ _ => mentionedSlots found a
  | .store _ a b | .two _ _ a b | .both a b | .either a b | .sequence a b | .arg a b | .clear a b
  | .call _ a b => mentionedSlots (mentionedSlots found a) b
  | .choose a b c | .copy a b c => mentionedSlots (mentionedSlots (mentionedSlots found a) b) c
  | _ => found

/-- The names that a term mentions. -/
def mentionedNames (found : Array String) : Term → Array String
  | .symbol name _ => found.push name
  | .set _ a | .one _ _ a | .convert _ _ a | .load _ a | .jumpTo a | .return_ a | .request _ a
  | .branch _ a _ | .select _ a _ _ => mentionedNames found a
  | .store _ a b | .two _ _ a b | .both a b | .either a b | .sequence a b | .arg a b | .clear a b
  | .call _ a b => mentionedNames (mentionedNames found a) b
  | .choose a b c | .copy a b c => mentionedNames (mentionedNames (mentionedNames found a) b) c
  | _ => found

/-- Frames begin at multiples of this. -/
def frameUnit : Nat := 64

/-- What is known of the frames of all functions. -/
structure FrameLayout where
  homes : Std.HashMap Nat Home
  /-- The numbers of slots and bytes of functions. -/
  sizes : Std.HashMap Nat (Nat × Nat)
  deriving Inhabited

/-- How many words a function takes. -/
def FunctionCode.wordCount (f : FunctionCode) : Nat := f.params.length + (if f.isVariadic then 1 else 0)

/-- Gives the variables of all functions their places. The first word that a function takes lies on top of
the others. -/
def layoutFrames (locals : Array Variable) (functions : Array FunctionCode) : FrameLayout :=
  let byNumber : Std.HashMap Nat FunctionCode := .ofList (functions.toList.map fun f => (f.number, f))
  let uses : List (Nat × Nat) := functions.toList.flatMap fun f =>
    (mentionedSlots #[] f.body).toList.map fun slot => (f.number, slot)
  let start : FrameLayout := ⟨{}, .ofList (functions.toList.map fun f =>
    (f.number, (f.wordCount, if f.outer.isEmpty then 0 else 16)))⟩
  let captured : Std.HashMap Nat Unit := uses.foldl
    (fun found (number, slot) =>
      if (locals.getD slot default).info.owner = number then found else found.insert slot ()) {}
  let place (layout : FrameLayout) (slot : Nat) (arrives : Option Nat) : FrameLayout :=
    if layout.homes.contains slot then layout
    else
      let info := (locals.getD slot default).info
      let (slots, bytes) := (layout.sizes[info.owner]?).getD (0, 0)
      if info.inMemory || captured.contains slot || info.scalar.isNone then
        let offset := roundUp bytes (max 8 info.alignment)
        ⟨layout.homes.insert slot (.memory offset), layout.sizes.insert info.owner (slots, offset + max 8 info.size)⟩
      else
        match arrives with
        | some i => ⟨layout.homes.insert slot (.slot i), layout.sizes⟩
        | none => ⟨layout.homes.insert slot (.slot slots), layout.sizes.insert info.owner (slots + 1, bytes)⟩
  let withParams := functions.foldl
    (fun layout f => (f.params.zipIdx).foldl
      (fun layout (slot, i) => place layout slot (some (f.wordCount - 1 - i))) layout) start
  let _ := byNumber
  uses.foldl (fun layout (_, slot) => place layout slot none) withParams

/-- The code of a function, behind that of others. -/
def assembleFunction (locals : Array Variable) (layout : FrameLayout)
    (inner : Std.HashMap String (Nat × List Nat)) (strides : Std.HashMap String Nat) (f : FunctionCode)
    (s : AssemblyState) : FunctionInfo × AssemblyState :=
  let further := if f.isVariadic then some 0 else none
  let context : AssemblyContext :=
    ⟨locals, layout.homes, inner, strides, ⟨f.number, f.symbol, f.outer, further⟩⟩
  let work : Assembler Unit := do
    for (slot, i) in f.params.zipIdx do
      match layout.homes[slot]? with
      | some (.memory _) =>
          Assembler.address slot 0
          Assembler.emit (.get (f.wordCount - 1 - i))
          Assembler.emit (.store (← Assembler.scalarOf slot))
      | _ => pure ()
    Assembler.gen false f.body
    Assembler.emit (.leave false)
  let (slots, bytes) := (layout.sizes[f.number]?).getD (f.wordCount, 0)
  let info : FunctionInfo :=
    ⟨f.symbol, s.code.size, f.wordCount, slots, roundUp bytes frameUnit, !f.outer.isEmpty, further⟩
  let (_, s) := (work.run context).run { s with depth := 0 }
  (info, s)

/-- Jumps with positions instead of labels. -/
def resolve (labels : Std.HashMap Nat (Nat × Nat)) (code : Array Instruction) : Array Instruction :=
  let position (n : Nat) : Nat := ((labels[n]?).map (·.1)).getD 0
  code.map fun instruction =>
    match instruction with
    | .jumpAt depth n =>
        match labels[n]? with
        | some (target, there) => if depth = there then .jump target else .jumpAt there target
        | none => .jump 0
    | .jump n => .jump (position n)
    | .branch onZero n => .branch onZero (position n)
    | .select kind cases otherwise =>
        .select kind (cases.map fun (a, b, n) => (a, b, position n)) (position otherwise)
    | .labelAddress n => .labelAddress (position n)
    | other => other

/-- The objects of a source text, one after the other. -/
def layoutData (globals : List Global) : Array DataObject × Nat :=
  globals.foldl
    (fun (found, offset) x =>
      let size := x.image.size
      let at_ := roundUp offset (max 8 x.image.alignment)
      let stride := if x.isThreadLocal then roundUp (max 1 size) 64 else 0
      let total := if x.isThreadLocal then stride * threadCopies else max 1 size
      (found.push ⟨x.symbol, at_, size, stride, x.image.pieces⟩, at_ + total)) (#[], 0)

/-- What can be reached from names, following what functions and objects mention; `fuel` bounds the
length of the way. -/
def reachable (mentions : Std.HashMap String (Array String)) :
    Nat → List String → Std.HashMap String Unit → Std.HashMap String Unit
  | 0, _, found => found
  | _, [], found => found
  | fuel + 1, name :: rest, found =>
      if found.contains name then reachable mentions fuel rest found
      else
        let next := ((mentions[name]?).getD #[]).toList
        reachable mentions fuel (next ++ rest) (found.insert name ())

namespace State

variable (s : State)

/-- All variables and functions that the linker knows, in the order of their declarations. -/
def globalList : List Global := s.order.toList.filterMap fun key => s.globals[key]?

/-- Makes the code of a source text that has been read. -/
def assemble : ObjectCode :=
  let globals := s.globalList
  let functionTable : Std.HashMap String Global :=
    .ofList ((globals.filter (·.isFunction)).map fun x => (x.symbol, x))
  let objects := globals.filter fun x => !x.isFunction && x.isDefined
  let dataNames (x : Global) : Array String :=
    x.image.pieces.foldl (fun found (_, _, t) => mentionedNames found t) #[]
  let mentions : Std.HashMap String (Array String) := .ofList
    ((s.functions.toList.map fun f => (f.symbol, mentionedNames #[] f.body)) ++
      objects.map fun x => (x.symbol, dataNames x))
  let isExported (x : Global) : Bool :=
    x.isDefined && !x.isStatic && (!x.isFunction || x.isExternal)
  let roots := (globals.filter fun x => isExported x || x.runsOnLoad || (x.isKept && x.isDefined)).map (·.symbol)
  let aliases := globals.filterMap fun x => x.standsFor.map fun target =>
    (x.symbol, ((s.globals[target]?).map (·.symbol)).getD target)
  let total := mentions.fold (fun n _ names => n + names.size + 1) (1 + roots.length + aliases.length)
  let live := reachable mentions total (roots ++ aliases.map (·.2)) {}
  let functions := s.functions.filter fun f => live.contains f.symbol
  let layout := layoutFrames s.locals functions
  let inner : Std.HashMap String (Nat × List Nat) := .ofList
    ((functions.toList.zipIdx.filter fun (f, _) => !f.outer.isEmpty).map fun (f, i) => (f.symbol, (i, f.outer)))
  let (data, dataBytes) := layoutData (objects.filter fun x => live.contains x.symbol)
  let strides : Std.HashMap String Nat := .ofList (data.toList.map fun d => (d.symbol, d.stride))
  let start : AssemblyState := ⟨#[], {}, 0, s.labels⟩
  let (infos, code) := functions.foldl
    (fun (infos, st) f =>
      let (info, st) := assembleFunction s.locals layout inner strides f st
      (infos.push info, st)) (#[], start)
  let defined : Std.HashMap String Unit := .ofList
    (((infos.toList.map (·.symbol)) ++ data.toList.map (·.symbol) ++ aliases.map (·.1)).map (·, ()))
  let imports := (mentions.toList.filter fun (name, _) => live.contains name).flatMap fun (_, names) =>
    names.toList.filter fun n => !defined.contains n
  let bySymbol : Std.HashMap String Global := .ofList (globals.map fun x => (x.symbol, x))
  { code := resolve code.labels code.code
    functions := infos
    data := data
    dataBytes := dataBytes
    aliases := aliases
    exports := ((globals.filter fun x => (isExported x || x.standsFor.isSome && !x.isStatic) && !x.isHidden).map (·.symbol))
    imports := imports.eraseDups
    weak := imports.eraseDups.filter fun n => (bySymbol[n]?).any (·.isWeak)
    onLoad := (globals.filter fun x => x.runsOnLoad && (functionTable.contains x.symbol)).map (·.symbol) }

end State

end KernelForge.Compiler
