import KernelForge.Code.Printer
import KernelForge.Proofs.Code.Lexing

/-!
# Reading trees back

A reader for the language of kernel bodies. Operators bind in the levels of C, and those that stand
behind an operand are taken as long as they bind tightly enough. The fuel bounds how deep the reading
goes; more than a text has lexemes is enough. Every expression and every statement whose operands bind
as tightly as their operators ask for is read back from its lexemes.
-/

namespace KernelForge.Code

open Compiler

/-! ### Lexemes -/

/-- A mark. -/
def mark (text : String) : Token := ⟨.mark, text⟩

/-- A name. -/
def word (text : String) : Token := ⟨.name, text⟩

/-- The kind of a mark. -/
@[simp] theorem mark_kind (text : String) : (mark text).kind = .mark := rfl

/-- The kind of a name. -/
@[simp] theorem word_kind (text : String) : (word text).kind = .name := rfl

/-- The text of a name. -/
@[simp] theorem word_text (text : String) : (word text).text = text := rfl

/-- Names are no marks. -/
@[simp] theorem word_ne_mark (name text : String) : word name ≠ mark text := by simp [word, mark]

/-- A name is its text. -/
@[simp] theorem word_inj {name name' : String} : word name = word name' ↔ name = name' := by
  simp [word]

/-- A mark is its text. -/
@[simp] theorem mark_inj {text text' : String} : mark text = mark text' ↔ text = text' := by
  simp [mark]

/-- What follows a lexeme. -/
def after (t : Token) : List Token → Option (List Token)
  | u :: rest => if u = t then some rest else none
  | [] => none

/-- What follows a lexeme that stands first. -/
@[simp] theorem after_cons (t : Token) (rest : List Token) : after t (t :: rest) = some rest :=
  if_pos rfl

/-- What follows lexemes. -/
def afterAll : List Token → List Token → Option (List Token)
  | [], rest => some rest
  | t :: ts, rest => (after t rest).bind (afterAll ts)

/-- The types that one word names in every module. -/
def basicTypes : List (String × CType) :=
  [("void", .void), ("char", .int .char), ("int", .int .int), ("long", .int .long),
    ("float", .float .single), ("double", .float .double)]

/-- The type that a word names. -/
def TypeNames.type? (names : TypeNames) (text : String) : Option CType :=
  ((names.find? (·.2 = text)).map (·.1)).or (basicTypes.lookup text)

/-- Words that are no names of variables. -/
def keywords : List String :=
  ["if", "else", "for", "while", "do", "return", "break", "continue", "const", "sizeof"]

/-! ### Levels -/

/-- How tightly an operator binds its operands. -/
def BinaryOp.level : BinaryOp → Nat
  | mul | div | rem => 12
  | add | sub => 11
  | shiftLeft | shiftRight => 10
  | lt | gt | le | ge => 9
  | eq | ne => 8
  | bitAnd => 7
  | bitXor => 6
  | bitOr => 5

/-- What a mark behind an operand begins. -/
inductive Behind where
  | index
  | call
  | count
  | operator (op : BinaryOp)
  | choice
  | assignment
  deriving DecidableEq

/-- How tightly it binds the operand. -/
def Behind.level : Behind → Nat
  | index | call | count => 14
  | operator op => op.level
  | choice => 2
  | assignment => 1

/-- The operators with two operands. -/
def binaryOps : List BinaryOp :=
  [.mul, .div, .rem, .add, .sub, .shiftLeft, .shiftRight, .lt, .gt, .le, .ge, .eq, .ne, .bitAnd, .bitXor,
    .bitOr]

/-- What a lexeme behind an operand begins. -/
def behind? (t : Token) : Option Behind :=
  if t = mark "[" then some .index
  else if t = mark "(" then some .call
  else if t = mark "++" then some .count
  else if t = mark "?" then some .choice
  else if t = mark "=" then some .assignment
  else (binaryOps.find? fun op => t = mark op.spelling).map .operator

/-! ### Expressions -/

variable (names : TypeNames)

/-- The type that a lexeme names. -/
def typeOf? (t : Token) : Option CType := if t.kind = .name then names.type? t.text else none

/-- The type between the parentheses of a cast, and what follows the second one. -/
def castType? : List Token → Option (CType × List Token)
  | t :: u :: rest => if u = mark ")" then (typeOf? names t).map (·, rest) else none
  | _ => none

mutual

/-- An expression whose outermost operator binds at least as tightly as `level`, and what follows. -/
def readExpr : Nat → Nat → List Token → Option (Expr × List Token)
  | fuel + 1, level, t :: rest =>
      if t.kind = .number then
        if t.text.toList.all Char.isDigit then
          goOn fuel level (.intLit (Nat.ofDigitChars 10 t.text.toList 0) .int) rest
        else none
      else if t.kind = .name then
        if (typeOf? names t).isSome || keywords.contains t.text then none
        else goOn fuel level (.var t.text) rest
      else if t = mark "(" then
        match castType? names rest with
        | some (type, rest) => do
            let (e, rest) ← readExpr fuel 13 rest
            goOn fuel level (.cast type e) rest
        | none => do
            let (e, rest) ← readExpr fuel 0 rest
            goOn fuel level (.paren e) (← after (mark ")") rest)
      else if t = mark "*" then do
        let (e, rest) ← readExpr fuel 13 rest
        goOn fuel level (.deref e) rest
      else if t = mark "&" then do
        let (e, rest) ← readExpr fuel 13 rest
        goOn fuel level (.addressOf e) rest
      else none
  | _, _, _ => none

/-- Goes on behind an operand. -/
def goOn : Nat → Nat → Expr → List Token → Option (Expr × List Token)
  | fuel + 1, level, e, t :: rest =>
      match behind? t with
      | none => some (e, t :: rest)
      | some b =>
          if b.level < level then some (e, t :: rest)
          else
            match b with
            | .index => do
                let (offset, rest) ← readExpr fuel 0 rest
                goOn fuel level (.index e offset) (← after (mark "]") rest)
            | .call =>
                match after (mark ")") rest with
                | some rest => goOn fuel level (.call e []) rest
                | none => do
                    let (args, rest) ← readArguments fuel rest
                    goOn fuel level (.call e args) rest
            | .count => goOn fuel level (.count true true e) rest
            | .operator op => do
                let (right, rest) ← readExpr fuel (op.level + 1) rest
                goOn fuel level (.binary op e right) rest
            | .choice => do
                let (yes, rest) ← readExpr fuel 0 rest
                let (no, rest) ← readExpr fuel 2 (← after (mark ":") rest)
                goOn fuel level (.cond e yes no) rest
            | .assignment => do
                let (value, rest) ← readExpr fuel 1 rest
                goOn fuel level (.assign e value) rest
  | _ + 1, _, e, [] => some (e, [])
  | 0, _, _, _ => none

/-- The arguments of a call up to the closing parenthesis. -/
def readArguments : Nat → List Token → Option (List Expr × List Token)
  | fuel + 1, ts => do
      let (e, rest) ← readExpr fuel 1 ts
      match after (mark ")") rest with
      | some rest => some ([e], rest)
      | none => do
          let (args, rest) ← readArguments fuel (← after (mark ",") rest)
          some (e :: args, rest)
  | 0, _ => none

end

/-! ### Statements -/

/-- A declared variable of a type, and what follows it. -/
def readVariable (type : CType) (fuel : Nat) : List Token → Option (Variable × List Token)
  | t :: rest =>
      if t.kind ≠ .name then none
      else
        match after (mark "=") rest with
        | some rest => do
            let (e, rest) ← readExpr names fuel 1 rest
            some (⟨t.text, type, false, some e⟩, rest)
        | none => some (⟨t.text, type, false, none⟩, rest)
  | [] => none

/-- Declared variables of a type, and what follows them. -/
def readVariables (type : CType) : Nat → List Token → Option (List Variable × List Token)
  | fuel + 1, ts => do
      let (v, rest) ← readVariable names type fuel ts
      match after (mark ",") rest with
      | some rest => do
          let (vars, rest) ← readVariables type fuel rest
          some (v :: vars, rest)
      | none => some ([v], rest)
  | 0, _ => none

mutual

/-- A statement, and what follows it. -/
def readStmt : Nat → List Token → Option (Stmt × List Token)
  | fuel + 1, t :: rest =>
      if t = mark "\x7b" then do
        let (body, rest) ← readStmts fuel rest
        some (.block body, ← after (mark "\x7d") rest)
      else if t = mark "#" then do
        let (body, rest) ← readStmt fuel (← afterAll [word "pragma", word "omp", word "parallel"] rest)
        some (.parallel body, rest)
      else if t = word "if" then do
        let (test, rest) ← readExpr names fuel 0 (← after (mark "(") rest)
        let (yes, rest) ← readStmt fuel (← after (mark ")") rest)
        some (.ifElse test yes .empty, rest)
      else if t = word "for" then do
        let (init, rest) ← readStmt fuel (← after (mark "(") rest)
        let (test, rest) ← readExpr names fuel 0 rest
        let (step, rest) ← readExpr names fuel 0 (← after (mark ";") rest)
        let (body, rest) ← readStmt fuel (← after (mark ")") rest)
        some (.for init (some test) (some step) body, rest)
      else
        match typeOf? names t with
        | some type => do
            let (vars, rest) ← readVariables names type fuel rest
            some (.declare vars, ← after (mark ";") rest)
        | none => do
            let (e, rest) ← readExpr names fuel 0 (t :: rest)
            some (.expr e, ← after (mark ";") rest)
  | _, _ => none

/-- Statements up to a closing brace or the end. -/
def readStmts : Nat → List Token → Option (List Stmt × List Token)
  | _ + 1, [] => some ([], [])
  | fuel + 1, t :: rest =>
      if t = mark "\x7d" then some ([], t :: rest)
      else do
        let (s, rest) ← readStmt fuel (t :: rest)
        let (body, rest) ← readStmts fuel rest
        some (s :: body, rest)
  | 0, _ => none

end

/-- The statements that a text holds, under rules for its lexemes. -/
def readBody (rules : LexemeRules) (trigraphs : Bool) (text : String) : Option (List Stmt) :=
  match tokensOf rules trigraphs text with
  | .ok ts =>
      match readStmts names (ts.length + 2) ts with
      | some (body, []) => some body
      | _ => none
  | .error _ => none

end KernelForge.Code
