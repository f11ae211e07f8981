import KernelForge.Host.Processor

/-!
# Linking

A compiled source text becomes a module of the program: its data gets memory, and every name that its
code mentions gets an address. A name that can be found from outside means what the libraries of the
program mean by it, if they have it; then what the module itself defines.
-/

namespace KernelForge.Host

open Code Compiler

/-- Where the names of libraries are. -/
structure LibraryNames where
  /-- Functions with code, in a module of the program. -/
  addresses : Std.HashMap String Nat
  /-- Whether functions for threads can be found. -/
  hasTeams : Bool
  deriving Inhabited

namespace LibraryNames

/-- The address that libraries give to a name. -/
def find? (names : LibraryNames) (name : String) : Option Nat :=
  match names.addresses[name]? with
  | some a => some a
  | none =>
      match Library.numbers[name]? with
      | some n =>
          if !names.hasTeams && Library.teamNames.contains name then none
          else some (libraryBase + n * functionStep)
      | none => none

end LibraryNames

/-- The word that a constant term is, when names have addresses. -/
def constantWord (addressOf : String → Option Nat) (functionOf : Nat → Nat) : Term → Option Nat
  | .word _ bits => some bits
  | .symbol name offset => (addressOf name).map fun a => IntKind.unsignedLong.word (a + offset)
  | .labelAddress n => some (functionOf n)
  | .convert s t a => (constantWord addressOf functionOf a).map (s.convert t)
  | .nothing => some 0
  | _ => none

/-- Writes the words of an object. -/
def writePieces (addressOf : String → Option Nat) (base : Nat) (pieces : Array (Nat × WordType × Term))
    (space : Space) : Space :=
  pieces.foldl
    (fun space (offset, s, t) =>
      match space.store? s (base + offset) ((constantWord addressOf (fun _ => 0) t).getD 0) with
      | some space => space
      | none => default) space

/-- An instruction with addresses instead of names. -/
def linkInstruction (module : Nat) (addressOf : String → Option Nat) : Instruction → Instruction
  | .symbol name offset => .word (IntKind.unsignedLong.word ((addressOf name).getD 0 + offset))
  | .callSymbol name count wants =>
      let a := (addressOf name).getD 0
      if a < codeBase then .callNear module 0x1000000 count wants
      else if libraryBase ≤ a then .callLibrary ((a - libraryBase) / functionStep) count wants
      else
        let offset := a - codeBase
        .callNear (offset / moduleSpan) (offset % moduleSpan / functionStep) count wants
  | other => other

/-- The address of a name in the data or code of a module. -/
def ownAddresses (object : ObjectCode) (module base : Nat) : Std.HashMap String Nat :=
  let functions := object.functions.toList.mapIdx fun i f => (f.symbol, functionAddress module i)
  let data := object.data.toList.map fun d => (d.symbol, base + d.offset)
  let direct : Std.HashMap String Nat := .ofList (functions ++ data)
  object.aliases.foldl
    (fun found (name, target) =>
      match found[target]? with
      | some a => found.insert name a
      | none => found) direct

/-- Adds a module to a program; gives the first name that is missing otherwise. -/
def link (libraries : LibraryNames) (object : ObjectCode) (program : Program) (space : Space) :
    Except String (Program × Space) :=
  let module := program.size
  let (base, space) := space.reserve object.dataBytes 4096
  let own := ownAddresses object module base
  let exported : Std.HashMap String Unit := .ofList (object.exports.map (·, ()))
  let addressOf (name : String) : Option Nat :=
    if exported.contains name then (libraries.find? name).orElse fun _ => own[name]?
    else (own[name]?).orElse fun _ => libraries.find? name
  match object.imports.find? fun n => (addressOf n).isNone && !object.weak.contains n with
  | some name => .error name
  | none =>
      let space := object.data.foldl
        (fun space d =>
          let copies := if d.stride = 0 then 1 else threadCopies
          (List.range copies).foldl
            (fun space i => writePieces addressOf (base + d.offset + i * d.stride) d.pieces space) space) space
      let symbols : Std.HashMap String Nat := .ofList
        (object.exports.filterMap fun n => (own[n]?).map fun a => (n, a))
      .ok (program.push ⟨object.code.map (linkInstruction module addressOf), object.functions, symbols⟩, space)

end KernelForge.Host
