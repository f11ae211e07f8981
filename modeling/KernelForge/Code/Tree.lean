import KernelForge.Code.CType

/-!
# The tree of kernel source

Expressions, statements and translation units. Type names are resolved when a tree is built, so the
tree holds no names of types. Parentheses are kept, because the printer writes a tree exactly as it
stands. A loop whose iterations are shared among threads, and a block that every thread runs, are
statements of their own.
-/

namespace KernelForge.Code

/-- Operators with one operand that yield a value. -/
inductive UnaryOp where
  | negate
  | plus
  | logicalNot
  | complement
  deriving DecidableEq, Repr

/-- Operators with two operands that are both evaluated. -/
inductive BinaryOp where
  | mul
  | div
  | rem
  | add
  | sub
  | shiftLeft
  | shiftRight
  | lt
  | gt
  | le
  | ge
  | eq
  | ne
  | bitAnd
  | bitXor
  | bitOr
  deriving DecidableEq, Repr

/-- Operators that may leave their second operand unevaluated. -/
inductive LogicOp where
  | and
  | or
  deriving DecidableEq, Repr

/-- Expressions. -/
inductive Expr where
  | intLit (value : Nat) (kind : IntKind)
  /-- The number `digits * 10 ^ exponent`. -/
  | floatLit (digits : Nat) (exponent : Int) (kind : FloatKind)
  | var (name : String)
  | paren (inner : Expr)
  | unary (op : UnaryOp) (operand : Expr)
  | deref (pointer : Expr)
  | addressOf (place : Expr)
  | index (pointer offset : Expr)
  | binary (op : BinaryOp) (left right : Expr)
  | logic (op : LogicOp) (left right : Expr)
  | cond (test yes no : Expr)
  | assign (place value : Expr)
  /-- Assignment combined with an operator. -/
  | update (op : BinaryOp) (place value : Expr)
  /-- Counting up or down by one, yielding the new or the old value. -/
  | count (up : Bool) (yieldsOld : Bool) (place : Expr)
  | cast (type : CType) (operand : Expr)
  | call (callee : Expr) (args : List Expr)
  | comma (first second : Expr)
  | sizeOf (type : CType)
  deriving Repr, Inhabited

/-- A declared variable with what it starts as. -/
structure Variable where
  name : String
  type : CType
  isConst : Bool
  init : Option Expr
  deriving Repr, Inhabited

/-- Statements. -/
inductive Stmt where
  | empty
  | expr (e : Expr)
  | declare (vars : List Variable)
  | block (body : List Stmt)
  | ifElse (test : Expr) (yes no : Stmt)
  | while (test : Expr) (body : Stmt)
  | doWhile (body : Stmt) (test : Expr)
  | for (init : Stmt) (test step : Option Expr) (body : Stmt)
  | return (value : Option Expr)
  | break
  | continue
  /-- Runs the body for every `int` from zero below the bound, in any order. -/
  | parallelFor (index : String) (bound : Expr) (body : Stmt)
  /-- Runs the body once on every thread of a team. -/
  | parallel (body : Stmt)
  deriving Repr, Inhabited

/-- A parameter of a function. -/
structure Parameter where
  name : String
  type : CType
  isConst : Bool
  deriving DecidableEq, Repr, Inhabited

/-- A function with its body. -/
structure Function where
  name : String
  result : CType
  params : List Parameter
  body : List Stmt
  /-- Hidden from other modules. -/
  isStatic : Bool
  deriving Repr, Inhabited

end KernelForge.Code
