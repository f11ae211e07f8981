import KernelForge.Compiler.Term

/-!
# Instructions

What terms become: instructions of a machine with a stack of words. A frame of a function holds its
words in numbered slots under the stack, and its objects in memory. Jumps go to positions.
-/

namespace KernelForge.Compiler

open Code

/-- The instructions of the machine. -/
inductive Instruction where
  | word (bits : Nat)
  /-- The address of something with a name. -/
  | symbol (name : String) (offset : Int)
  /-- An address in the memory of the frame. -/
  | frame (offset : Nat)
  /-- An address in the memory of a frame around it. -/
  | outer (levels offset : Nat)
  | get (slot : Nat)
  | set (slot : Nat)
  /-- Sets a slot and leaves the word. -/
  | keep (slot : Nat)
  | drop
  | load (type : WordType)
  | store (type : WordType)
  /-- Writes a word and leaves it. -/
  | storeKeep (type : WordType)
  | one (op : Prefix) (type : WordType)
  | two (op : Operator) (type : WordType)
  | convert (source target : WordType)
  | jump (target : Nat)
  /-- Jumps with so many words left on the stack. -/
  | jumpAt (depth target : Nat)
  | jumpTo
  | branch (onZero : Bool) (target : Nat)
  | select (type : IntKind) (cases : List (Int × Int × Nat)) (otherwise : Nat)
  /-- Calls the function at an address. -/
  | call (args : Nat) (hasResult : Bool)
  | callSymbol (name : String) (args : Nat) (hasResult : Bool)
  /-- Calls a function of the program by its module and number. -/
  | callNear (module function args : Nat) (hasResult : Bool)
  /-- Calls a function of the library by its number. -/
  | callLibrary (function args : Nat) (hasResult : Bool)
  /-- Calls a function inside another one, the address of whose frame is on the stack. -/
  | callInner (function args : Nat) (hasResult : Bool)
  | leave (hasWord : Bool)
  | copy
  | clear
  | request (r : Request)
  | labelAddress (target : Nat)
  deriving Repr, Inhabited

/-- How many words an instruction adds to the stack. -/
def Instruction.growth : Instruction → Int
  | word _ | symbol _ _ | frame _ | outer _ _ | get _ | labelAddress _ => 1
  | set _ | drop | two _ _ | storeKeep _ | branch _ _ | select _ _ _ | jumpTo => -1
  | keep _ | load _ | one _ _ | convert _ _ | jump _ | jumpAt _ _ => 0
  | store _ | clear => -2
  | copy => -3
  | call args hasResult => (if hasResult then 0 else -1) - args
  | callInner _ args hasResult => (if hasResult then 0 else -1) - args
  | callSymbol _ args hasResult | callNear _ _ args hasResult | callLibrary _ args hasResult =>
      (if hasResult then 1 else 0) - args
  | leave hasWord => if hasWord then -1 else 0
  | request r => (if r.shape.2 then 1 else 0) - r.shape.1

/-- A function in code. -/
structure FunctionInfo where
  symbol : String
  entry : Nat
  /-- How many words it takes. -/
  params : Nat
  /-- How many words it has in slots, those that it takes among them. -/
  slots : Nat
  /-- How many bytes its objects take. -/
  frameBytes : Nat
  /-- Whether it lies inside another function. -/
  isInner : Bool
  /-- The slot of the address of further arguments. -/
  further : Option Nat
  deriving Repr, Inhabited

/-- How many threads can have objects of their own. -/
def threadCopies : Nat := 64

/-- An object in the data of a module. -/
structure DataObject where
  symbol : String
  offset : Nat
  size : Nat
  /-- How far the copies for the threads are apart; zero for an object that they share. -/
  stride : Nat
  pieces : Array (Nat × WordType × Term)
  deriving Repr, Inhabited

/-- A compiled source text. -/
structure ObjectCode where
  code : Array Instruction
  functions : Array FunctionInfo
  data : Array DataObject
  dataBytes : Nat
  /-- Other names for functions and objects. -/
  aliases : List (String × String)
  /-- The names that can be found from outside. -/
  exports : List String
  /-- The names that other parts of a program have to define. -/
  imports : List String
  /-- Imported names that may be missing. -/
  weak : List String
  /-- Functions that are called when the module is loaded. -/
  onLoad : List String
  deriving Inhabited

end KernelForge.Compiler
