import KernelForge.Compiler.Constant

/-!
# Conditions of directives

The expression of a conditional directive is computed on integers of 64 bits, with or without sign.
Names that are left after macros have been replaced stand for zero. Operands that an operator leaves
out may divide by zero.
-/

namespace KernelForge.Compiler

open Code

/-- A value of a condition. -/
structure ConditionValue where
  value : Int
  isUnsigned : Bool
  deriving DecidableEq, Repr, Inhabited

namespace ConditionValue

/-- A value brought into its range. -/
def ofInt (isUnsigned : Bool) (value : Int) : ConditionValue :=
  ⟨(if isUnsigned then IntKind.unsignedLong else .long).wrap value, isUnsigned⟩

/-- A truth value. -/
def ofBool (b : Bool) : ConditionValue := ⟨if b then 1 else 0, false⟩

/-- Whether a value counts as true. -/
def truth (v : ConditionValue) : Bool := v.value ≠ 0

end ConditionValue

/-- Reading a condition: the value of what was read, and the lexemes that are left. -/
abbrev ConditionStep := Except String (ConditionValue × List Lexeme)

/-- How tightly an operator of a condition binds. -/
def conditionPriority : String → Option Nat
  | "*" | "/" | "%" => some 11
  | "+" | "-" => some 10
  | "<<" | ">>" => some 9
  | "<" | ">" | "<=" | ">=" => some 8
  | "==" | "!=" => some 7
  | "&" => some 6
  | "^" => some 5
  | "|" => some 4
  | "&&" => some 3
  | "||" => some 2
  | "?" => some 1
  | "," => some 0
  | _ => none

/-- An operator on two values. -/
def conditionOperation (op : String) (live : Bool) (a b : ConditionValue) :
    Except String ConditionValue :=
  let isUnsigned := a.isUnsigned || b.isUnsigned
  let x := (ConditionValue.ofInt isUnsigned a.value).value
  let y := (ConditionValue.ofInt isUnsigned b.value).value
  let number (n : Int) : Except String ConditionValue := .ok (.ofInt isUnsigned n)
  let bits (f : Nat → Nat → Nat) : Except String ConditionValue :=
    number (f (IntKind.unsignedLong.wrap x).toNat (IntKind.unsignedLong.wrap y).toNat)
  let shift (left : Bool) (n : Int) : Except String ConditionValue :=
    let up := if 0 ≤ n then left else !left
    let n := min n.natAbs 64
    .ok (.ofInt a.isUnsigned (if up then a.value * twoPow n else a.value.fdiv (twoPow n)))
  match op with
  | "*" => number (x * y)
  | "/" | "%" =>
      if y = 0 then if live then .error "division by zero in a condition" else number 0
      else number (if op = "/" then x.tdiv y else x.tmod y)
  | "+" => number (x + y)
  | "-" => number (x - y)
  | "<<" => shift true b.value
  | ">>" => shift false b.value
  | "<" => .ok (.ofBool (x < y))
  | ">" => .ok (.ofBool (y < x))
  | "<=" => .ok (.ofBool (x ≤ y))
  | ">=" => .ok (.ofBool (y ≤ x))
  | "==" => .ok (.ofBool (x = y))
  | "!=" => .ok (.ofBool (x ≠ y))
  | "&" => bits (· &&& ·)
  | "^" => bits (· ^^^ ·)
  | "|" => bits (· ||| ·)
  | "," => .ok b
  | _ => .error "an unknown operator in a condition"

/-- The value of a lexeme that stands for a number. -/
def conditionConstant (a : Lexeme) : Except String ConditionValue :=
  match a.kind with
  | .number =>
      match numberConstant? a.text with
      | some (.integer n _ suffix) =>
          if suffix.isImaginary then .error "an imaginary number in a condition"
          else
            let n := n % twoPow 64
            let isUnsigned := suffix.isUnsigned || IntKind.long.greatest < n
            .ok (.ofInt isUnsigned n)
      | some _ => .error "a floating-point number in a condition"
      | none => .error "a malformed number"
  | .character =>
      match characterConstant? true a.text with
      | some (n, _) => .ok ⟨n, false⟩
      | none => .error "a malformed character"
  | .name => .ok ⟨0, false⟩
  | _ => .error "an unexpected lexeme in a condition"

mutual

/-- An operand with the operators before it. -/
def conditionOperand : Nat → Bool → List Lexeme → ConditionStep
  | 0, _, _ => .error "a condition is too long"
  | _, _, [] => .error "a condition ends too early"
  | fuel + 1, live, a :: rest =>
      if a.kind = .mark then
        match a.text with
        | "(" => do
            let (v, rest) ← conditionFrom fuel live 0 rest
            match rest with
            | b :: rest => if b.text = ")" then return (v, rest) else throw "a parenthesis is missing"
            | [] => throw "a parenthesis is missing"
        | "+" => conditionOperand fuel live rest
        | "-" => do
            let (v, rest) ← conditionOperand fuel live rest
            return (.ofInt v.isUnsigned (-v.value), rest)
        | "~" => do
            let (v, rest) ← conditionOperand fuel live rest
            return (.ofInt v.isUnsigned (-v.value - 1), rest)
        | "!" => do
            let (v, rest) ← conditionOperand fuel live rest
            return (.ofBool !v.truth, rest)
        | _ => .error "an operand is missing in a condition"
      else do return (← conditionConstant a, rest)

/-- An expression whose operators bind at least as tightly as `least`. -/
def conditionFrom : Nat → Bool → Nat → List Lexeme → ConditionStep
  | 0, _, _, _ => .error "a condition is too long"
  | fuel + 1, live, least, input => do
      let (v, rest) ← conditionOperand fuel live input
      conditionMore fuel live least v rest

/-- Continues an expression behind its first operand. -/
def conditionMore : Nat → Bool → Nat → ConditionValue → List Lexeme → ConditionStep
  | 0, _, _, _, _ => .error "a condition is too long"
  | _, _, _, v, [] => .ok (v, [])
  | fuel + 1, live, least, v, op :: rest =>
      match if op.kind = .mark then conditionPriority op.text else none with
      | none => .ok (v, op :: rest)
      | some priority =>
          if priority < least then .ok (v, op :: rest)
          else if op.text = "?" then do
            let (yes, rest) ← conditionFrom fuel (live && v.truth) 0 rest
            match rest with
            | colon :: rest =>
                if colon.text ≠ ":" then throw "a colon is missing in a condition"
                let (no, rest) ← conditionFrom fuel (live && !v.truth) 1 rest
                let chosen := if v.truth then yes else no
                conditionMore fuel live least
                  (.ofInt (yes.isUnsigned || no.isUnsigned) chosen.value) rest
            | [] => throw "a colon is missing in a condition"
          else if op.text = "&&" then do
            let (w, rest) ← conditionFrom fuel (live && v.truth) (priority + 1) rest
            conditionMore fuel live least (.ofBool (v.truth && w.truth)) rest
          else if op.text = "||" then do
            let (w, rest) ← conditionFrom fuel (live && !v.truth) (priority + 1) rest
            conditionMore fuel live least (.ofBool (v.truth || w.truth)) rest
          else do
            let (w, rest) ← conditionFrom fuel live (priority + 1) rest
            conditionMore fuel live least (← conditionOperation op.text live v w) rest

end

/-- Whether a condition holds. -/
def conditionHolds (input : List Lexeme) : Except String Bool := do
  let (v, rest) ← conditionFrom (4 * input.length + 4) true 0 input
  if rest.isEmpty then return v.truth else throw "something follows a condition"

end KernelForge.Compiler
