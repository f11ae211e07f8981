import KernelForge.Host.Compilation
import KernelForge.Host.Linker
import KernelForge.Host.Standard.Number
import KernelForge.Host.Standard.Text
import KernelForge.Kernel.Provider

/-!
# Compiled modules and their functions

The state of the host holds the compiled modules, each with a file of its own, and the data of running
code. A kernel's function is found under its entry name; a call checks the slots, writes their values
and the array of their addresses to memory of its own, and runs the entry function on that array.

The functions of the library that have source are compiled once and form a module of their own, which a
program gets as soon as one of its names is used.
-/

namespace KernelForge.Host.Standard

open Compiler

/-- The source of the library. -/
def source : String :=
  "\n".intercalate (texts ++ characters ++ numbers ++ output ++ mathematics)

/-- The compiled library. -/
def object : Thunk ObjectCode :=
  .mk fun _ =>
    match (Order.usual false).compile source with
    | .module object _ => object
    | _ => default

/-- The names of its functions. -/
def names : Thunk (Std.HashMap String Unit) :=
  .mk fun _ => .ofList (object.get.exports.map (·, ()))

/-- Whether a module uses one of its names, or has one itself. -/
def isUsedBy (other : ObjectCode) : Bool :=
  (other.imports ++ other.exports).any names.get.contains

end KernelForge.Host.Standard

namespace KernelForge.Host

open Code Compiler

/-- What running code leaves behind: its data, the blocks that it gave back, and what it said about
threads. -/
structure Residue where
  data : ByteArray
  freed : List (Nat × Nat)
  threads : Nat
  levels : Nat

/-- The configuration, the modules compiled so far, and what their code left behind. -/
structure State where
  config : HostConfig
  program : Program
  /-- Where the functions of the library with source are. -/
  names : Std.HashMap String Nat
  residue : Residue

/-- The state before anything is compiled. -/
def State.start (config : HostConfig) : State :=
  ⟨config, #[], .emptyWithCapacity, ⟨.empty, [], Library.processors, 1⟩⟩

/-- Work on the host. -/
abbrev HostM := BackendM State

/-- A compiled module, by its number. -/
structure ModuleFile where
  index : Nat
  deriving DecidableEq, Repr

/-- The letters that names of directories are made of. -/
def nameLetters : String := "kQ7dTz0aXw3LbVn9pYc2HsRf5JmGu8eK"

/-- So many letters that look as if they were chosen at random. -/
def scatteredLetters (n : Nat) : Nat → List Char
  | 0 => []
  | count + 1 => (nameLetters.toList.getD (n % 32) 'k') :: scatteredLetters (n / 32) count

namespace ModuleFile

/-- The directory that a module is compiled in; nobody knows its name beforehand. -/
def directory (file : ModuleFile) : String :=
  "/tmp/frx-" ++ String.ofList (scatteredLetters (file.index * 2654435761 + 88172645463325252) 6)

/-- The file of a module. -/
def path (file : ModuleFile) : String := file.directory ++ "/module.so"

/-- The record text of a module. -/
def describe (file : ModuleFile) : String :=
  Text.recordText "SourceModule" [("path", Text.quoted file.path)]

end ModuleFile

/-- A kernel function of a module, with the slots that it takes. -/
structure HostFunction where
  name : String
  slots : List SlotType
  module : ModuleFile
  deriving DecidableEq, Repr

namespace HostFunction

/-- The name of the function that unpacks the argument array. -/
def entryName (name : String) : String := name ++ "_entry"

/-- The record text of a function. -/
def describe (f : HostFunction) : String :=
  Text.recordText "HostFunction" [("name", Text.quoted f.name), ("argtypes", slotsText f.slots)]

end HostFunction

/-- How many instructions a call may run. -/
def instructionLimit : Nat := twoPow 44

/-- Works in the address space of running code; a fault fails under the given name. -/
def inSpace {α : Type} (name : String) (work : Program → Space → Except Fault (α × Space)) : HostM α :=
  fun world =>
    match world with
    | ⟨⟨memory, selections⟩, ⟨config, program, names, ⟨data, freed, threads, levels⟩⟩⟩ =>
        match work program ⟨memory, #[data], 0, freed, threads, levels⟩ with
        | .ok (a, ⟨memory, segments, _, freed, threads, levels⟩) =>
            (.ok a, ⟨⟨memory, selections⟩,
              ⟨config, program, names, ⟨segments.getD 0 .empty, freed, threads, levels⟩⟩⟩)
        | .error _ =>
            (.error (.crashed name),
              ⟨⟨.empty, selections⟩, ⟨config, program, names, ⟨.empty, [], threads, levels⟩⟩⟩)

/-- Calls the code at an address on words. -/
def callAddress (name : String) (address : Nat) (args : List Nat) : HostM Nat :=
  inSpace name fun program space => Processor.start program instructionLimit address args space

/-- Adds a compiled module to the program, when all its names are found. -/
def addObject (file : ModuleFile) (hasTeams : Bool) (object : ObjectCode) : HostM Bool := do
  let own := (← get).own
  let libraries : LibraryNames := ⟨own.names, hasTeams⟩
  let linked ← inSpace file.path fun program space =>
    match link libraries object program space with
    | .ok (program, space) => .ok (some program, space)
    | .error _ => .ok (none, space)
  match linked with
  | none => return false
  | some program =>
      modify fun world => { world with own := { world.own with program := program } }
      return true

/-- Adds the library with source to the program. -/
def addStandard : HostM Unit := do
  let file : ModuleFile := ⟨(← get).own.program.size⟩
  if ← addObject file false Standard.object.get then
    let module := (← get).own.program.getD file.index default
    modify fun world => { world with own := { world.own with names := module.symbols } }

/-- Adds a compiled source to the program and runs what it wants to run first. -/
def loadObject (source : String) (object : ObjectCode) (order : Order) : HostM ModuleFile := do
  let own := (← get).own
  if own.names.isEmpty && Standard.isUsedBy object then addStandard
  let file : ModuleFile := ⟨(← get).own.program.size⟩
  if !(← addObject file order.hasTeams object) then
    if order.isComplete then throw (.compilation (.failed own.config.compiler source))
    else throw (.libraryLoad file.path)
  if order.isUnusable then throw (.libraryLoad file.path)
  let module := (← get).own.program.getD file.index default
  for name in object.onLoad do
    match module.functions.findIdx? (·.symbol = name) with
    | some i => let _ ← callAddress file.path (functionAddress file.index i) []
    | none => pure ()
  return file

/-- Compiles source with the configured compiler. -/
def compileModule (source : String) : HostM ModuleFile := do
  let own := (← get).own
  let compiler := own.config.compiler
  let file : ModuleFile := ⟨own.program.size⟩
  match Tool.find own.config with
  | .error reason => throw (.compilation (.notRun compiler reason))
  | .ok .fails => throw (.compilation (.failed compiler source))
  | .ok .succeeds | .ok .writes => throw (.libraryLoad file.path)
  | .ok (.compiler flags) =>
      match compileSource flags own.config source with
      | .refused => throw (.compilation (.failed compiler source))
      | .nothing => throw (.libraryLoad file.path)
      | .module object order => loadObject source object order

/-- Compiles source as it is done without a configuration. -/
def compilePlainly (source : String) : HostM ModuleFile := do
  match (Order.usual false).compile source with
  | .module object order => loadObject source object order
  | _ => throw (.libraryLoad (ModuleFile.mk (← get).own.program.size).path)

/-- The address of a name that a module shows. -/
def symbolAddress? (program : Program) (file : ModuleFile) (name : String) : Option Nat := do
  let module ← program[file.index]?
  module.symbols[name]?

/-- The kernel function of a module under a name. -/
def resolveFunction (file : ModuleFile) (name : String) (slots : List SlotType) :
    HostM HostFunction := do
  let symbol := HostFunction.entryName name
  if (symbolAddress? (← get).own.program file symbol).isSome then return ⟨name, slots, file⟩
  else throw (.symbolNotFound symbol)

/-- The bytes of the value of a slot. -/
def slotBytes : SlotValue → List UInt8
  | .scalar (.int32 v) => ElementType.int32.encode v
  | .scalar (.int64 v) => ElementType.int64.encode v
  | .scalar (.float32 v) => ElementType.float32.encode v
  | .scalar (.float64 v) => ElementType.float64.encode v
  | .pointer a => littleEndian 8 a.toNat

/-- The bytes of values at every eighth byte, followed by the array of their addresses. -/
def argumentBytes (base : Nat) (args : List SlotValue) : List UInt8 :=
  (args.flatMap fun v => (slotBytes v ++ List.replicate 8 0).take 8) ++
    (List.range args.length).flatMap fun i => littleEndian 8 (base + 8 * i)

/-- Calls a kernel function on the values of its slots. -/
def callFunction (f : HostFunction) (args : List SlotValue) : HostM Unit := do
  let given := args.map SlotValue.slotType
  if given ≠ f.slots then throw (.argumentMismatch (.functionSlots f.name f.slots given))
  let address := (symbolAddress? (← get).own.program f.module (HostFunction.entryName f.name)).getD 0
  inSpace f.name fun program space =>
    let (base, space) := space.allocate (16 * args.length + 16) 16
    match space.writeBytes base (argumentBytes base args) with
    | none => .error (.badAddress base)
    | some space =>
        match Processor.start program instructionLimit address [base + 8 * args.length] space with
        | .ok (_, space) => .ok ((), space.release base)
        | .error fault => .error fault

end KernelForge.Host
