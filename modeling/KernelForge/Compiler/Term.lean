import KernelForge.Compiler.SourceType

/-!
# Terms

What source computes, after all types have been resolved: words, addresses and the places that jumps
go to. A statement is a term without a word. Constants are folded as terms are built. Local variables
are known by number; whether one lives in memory is decided when its function ends.
-/

namespace KernelForge.Compiler

open Code

/-- What the threads of a team, and the frames of functions, are asked. -/
inductive Request where
  /-- Starts a team: the function of its threads, the number of threads that is asked for (zero for
  any), and whether there is to be a team at all. -/
  | fork
  | barrier
  | threadNumber
  | threadCount
  /-- Whether this thread is the first of its team to come here. -/
  | isFirst
  /-- Waits for the turn of a number. -/
  | awaitTurn
  /-- Passes the turn on. -/
  | passTurn
  /-- Sets the number that has the first turn. -/
  | startTurns
  /-- So many bytes on top of the frame. -/
  | allocate
  /-- The top of the frame. -/
  | top
  /-- Sets the top of the frame. -/
  | setTop
  /-- The address of the arguments that follow the declared ones. -/
  | furtherArguments
  /-- The address of the caller's frame, so many calls away. -/
  | frameOf
  /-- A function inside another one with its surroundings, from its address. -/
  | closure
  /-- The object of this thread, from the address of the object of the first one and the distance to
  that of the next. -/
  | threadPlace
  /-- Makes the source stop. -/
  | trap
  deriving DecidableEq, Repr, Inhabited

/-- How many words a request takes, and whether it gives one. -/
def Request.shape : Request → Nat × Bool
  | fork => (3, false)
  | barrier | passTurn => (0, false)
  | threadNumber | threadCount | top | furtherArguments => (0, true)
  | isFirst => (1, true)
  | awaitTurn | startTurns | setTop => (1, false)
  | allocate | frameOf => (1, true)
  | closure | threadPlace => (2, true)
  | trap => (0, false)

/-- Computations on words and memory. -/
inductive Term where
  | nothing
  | word (type : WordType) (bits : Nat)
  /-- The address of a variable or function with a name of its own, and what is added to it. -/
  | symbol (name : String) (offset : Int)
  /-- The address of a local variable. -/
  | place (slot : Nat) (offset : Int)
  | get (slot : Nat)
  /-- Gives a variable a word, and that word. -/
  | set (slot : Nat) (value : Term)
  | load (type : WordType) (address : Term)
  /-- Writes a word to memory, and gives that word. -/
  | store (type : WordType) (address value : Term)
  | one (op : Prefix) (type : WordType) (a : Term)
  | two (op : Operator) (type : WordType) (a b : Term)
  | convert (source target : WordType) (a : Term)
  | choose (condition yes no : Term)
  | both (a b : Term)
  | either (a b : Term)
  /-- Drops the word of the first term. -/
  | sequence (a b : Term)
  | call (hasResult : Bool) (function args : Term)
  | request (request : Request) (args : Term)
  | arg (first rest : Term)
  /-- Copies so many bytes to an address from another. -/
  | copy (target source size : Term)
  /-- Fills so many bytes at an address with zeros. -/
  | clear (target size : Term)
  | label (number : Nat)
  | jump (number : Nat)
  /-- Jumps to an address of code that a label has. -/
  | jumpTo (address : Term)
  | labelAddress (number : Nat)
  /-- Jumps when a word is zero or, else, when it is not. -/
  | branch (onZero : Bool) (condition : Term) (number : Nat)
  | select (type : IntKind) (value : Term) (cases : List (Int × Int × Nat)) (otherwise : Nat)
  | return_ (value : Term)
  deriving Repr, Inhabited

namespace Term

/-- An integer. -/
def int (kind : IntKind) (value : Int) : Term := word (.int kind) (kind.word value)

/-- An address that is a number. -/
def address (value : Nat) : Term := word .address value

/-- The integer that a term is, if it is one. -/
def intValue? : Term → Option Int
  | word (.int kind) bits => some (kind.value bits)
  | _ => none

/-- Whether a term leaves a word. -/
def hasWord : Term → Bool
  | nothing | copy _ _ _ | clear _ _ | label _ | jump _ | jumpTo _ | branch _ _ _ | select _ _ _ _
  | return_ _ | arg _ _ => false
  | sequence _ b => b.hasWord
  | choose _ yes _ => yes.hasWord
  | call hasResult _ _ => hasResult
  | request r _ => r.shape.2
  | _ => true

/-- Whether a term has no effect and always gives the same. -/
def isConstant : Term → Bool
  | nothing | word _ _ | symbol _ _ | labelAddress _ => true
  | _ => false

/-- Whether a term has no effect. -/
def isPure : Term → Bool
  | nothing | word _ _ | symbol _ _ | place _ _ | get _ | labelAddress _ => true
  | load _ a | one _ _ a | convert _ _ a => a.isPure
  | two op type a b =>
      a.isPure && b.isPure && ((op ≠ .div && op ≠ .mod) || type matches .float _ || b.isConstant)
  | choose c a b => c.isPure && a.isPure && b.isPure
  | both a b | either a b => a.isPure && b.isPure
  | _ => false

/-- One term after another. -/
def andThen : Term → Term → Term
  | nothing, b => b
  | a, nothing => if a.hasWord then sequence a nothing else a
  | a, b => sequence a b

/-- Terms one after another. -/
def all (terms : List Term) : Term := terms.foldr andThen nothing

/-- A list of arguments. -/
def args (terms : List Term) : Term := terms.foldr arg nothing

/-- A word of another type. -/
def converted (source target : WordType) (a : Term) : Term :=
  if source = target then a
  else
    match a, source, target with
    | word _ bits, .float s, .int t => int t (s.toLimits t bits)
    | word _ bits, s, t => word t (s.convert t bits)
    | symbol name offset, .int _, .int t => if t.bits = 64 then symbol name offset else convert source target a
    | a, .int s, .int t =>
        if s.bits = t.bits && (s = .bool) = (t = .bool) then
          match a with
          | place _ _ => a
          | a => convert source target a
        else convert source target a
    | a, s, t => convert s t a

/-- The truth value of a word. -/
def truthOf (type : WordType) (a : Term) : Term :=
  match a with
  | word _ bits => int .int (Operator.truthWord (type.truth bits))
  | symbol _ _ | place _ _ => int .int 1
  | two op t x y => if op.isComparison then two op t x y
      else two .ne type a (word type 0)
  | one .not t x => one .not t x
  | both x y => both x y
  | either x y => either x y
  | a => two .ne type a (word type 0)

/-- An operation on one word. -/
def applyOne (op : Prefix) (type : WordType) (a : Term) : Term :=
  match op, a with
  | op, word _ bits =>
      if op.isTest then int .int (op.apply type bits) else word type (op.apply type bits)
  | .not, symbol _ _ | .not, place _ _ => int .int 0
  | op, a => one op type a

/-- The integer of a word of an address type, with sign. -/
def offsetOf (bits : Nat) : Int := IntKind.long.value bits

/-- An operation on two words. -/
def applyTwo (op : Operator) (type : WordType) (a b : Term) : Term :=
  match a, b with
  | word _ x, word _ y =>
      match op.result? type x y with
      | some bits =>
          if op.isComparison then int .int bits
          else
            match type with
            | .float kind =>
                if kind.isNaN bits && !kind.isNaN x && !kind.isNaN y then
                  word type (kind.magnitude bits)
                else word type bits
            | .int _ => word type bits
      | none => two op type a b
  | symbol name offset, word _ y =>
      if type.bytes = 8 then
        match op with
        | .add => symbol name (offset + offsetOf y)
        | .sub => symbol name (offset - offsetOf y)
        | .eq => if y = 0 then int .int 0 else two op type a b
        | .ne => if y = 0 then int .int 1 else two op type a b
        | _ => two op type a b
      else two op type a b
  | word _ x, symbol name offset =>
      if type.bytes = 8 && op = .add then symbol name (offset + offsetOf x) else two op type a b
  | symbol m i, symbol n j =>
      if m = n && type.bytes = 8 then
        match op with
        | .sub => word type (IntKind.long.word (i - j))
        | .eq => int .int (Operator.truthWord (i = j))
        | .ne => int .int (Operator.truthWord (i ≠ j))
        | .lt => int .int (Operator.truthWord (i < j))
        | .le => int .int (Operator.truthWord (i ≤ j))
        | .gt => int .int (Operator.truthWord (j < i))
        | .ge => int .int (Operator.truthWord (j ≤ i))
        | _ => two op type a b
      else two op type a b
  | place v offset, word _ y =>
      if type.bytes = 8 then
        match op with
        | .add => place v (offset + offsetOf y)
        | .sub => place v (offset - offsetOf y)
        | _ => two op type a b
      else two op type a b
  | a, word _ y =>
      if y = 0 && type = .address && (op = .add || op = .sub) then a else two op type a b
  | a, b => two op type a b

/-- One of two terms; `c` is a truth value. -/
def chosen (c yes no : Term) : Term :=
  match c.intValue? with
  | some n => if n ≠ 0 then yes else no
  | none => choose c yes no

/-- Whether a term holds a place that jumps can go to. -/
def hasLabel : Term → Bool
  | label _ => true
  | set _ a | one _ _ a | convert _ _ a | load _ a | jumpTo a | return_ a | request _ a | branch _ a _
  | select _ a _ _ => a.hasLabel
  | store _ a b | two _ _ a b | both a b | either a b | sequence a b | arg a b | clear a b | call _ a b =>
      a.hasLabel || b.hasLabel
  | choose a b c | copy a b c => a.hasLabel || b.hasLabel || c.hasLabel
  | _ => false

/-- One of two statements; one that can never be reached is left out. -/
def decided (c yes no : Term) : Term :=
  match c.intValue? with
  | some n =>
      let dead := if n ≠ 0 then no else yes
      if dead.hasLabel then choose c yes no else if n ≠ 0 then yes else no
  | none => choose c yes no

/-- Adds a number of bytes to an address. -/
def plus (a : Term) (offset : Nat) : Term :=
  if offset = 0 then a else applyTwo .add .address a (address offset)

/-- The address of a variable or function with a name of its own. -/
def ofSymbol (name : String) : Term := symbol name 0

end Term

/-- A local variable of a function. -/
structure Local where
  name : String
  size : Nat
  alignment : Nat
  /-- The type of its word, when it is one. -/
  scalar : Option WordType
  /-- The function that it belongs to. -/
  owner : Nat
  /-- Whether it has an address. -/
  inMemory : Bool
  deriving Repr, Inhabited

end KernelForge.Compiler
