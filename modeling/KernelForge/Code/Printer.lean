import KernelForge.Code.Tree

/-!
# Writing trees as source

Products are written tight and quotients and sums with blanks around the operator. Parentheses appear
where the tree has them. Types that a module has named are written by their names, which `names`
lists. A statement is a list of lines; what it governs is moved right by one level. A call with many
arguments takes two lines.
-/

namespace KernelForge.Code

/-- The names that a module has given to types. -/
abbrev TypeNames := List (CType × String)

/-- The name or spelling of a type. -/
def CType.spelling (names : TypeNames) (type : CType) : String :=
  match names.lookup type with
  | some name => name
  | none =>
      match type with
      | void => "void"
      | int kind => kind.spelling
      | float kind => kind.spelling
      | pointer target isConst =>
          (if isConst then "const " else "") ++ target.spelling names ++ "*"
      | array element _ => element.spelling names ++ "*"
      | function result => result.spelling names

def UnaryOp.spelling : UnaryOp → String
  | negate => "-"
  | plus => "+"
  | logicalNot => "!"
  | complement => "~"

def BinaryOp.spelling : BinaryOp → String
  | mul => "*"
  | div => "/"
  | rem => "%"
  | add => "+"
  | sub => "-"
  | shiftLeft => "<<"
  | shiftRight => ">>"
  | lt => "<"
  | gt => ">"
  | le => "<="
  | ge => ">="
  | eq => "=="
  | ne => "!="
  | bitAnd => "&"
  | bitXor => "^"
  | bitOr => "|"

/-- The operator between its operands. -/
def BinaryOp.between : BinaryOp → String
  | mul => "*"
  | op => " " ++ op.spelling ++ " "

def LogicOp.spelling : LogicOp → String
  | and => "&&"
  | or => "||"

/-- The digits of a literal with the letters for its type. -/
def intLiteral (value : Nat) : IntKind → String
  | .unsignedInt => toString value ++ "U"
  | .long => toString value ++ "L"
  | .unsignedLong => toString value ++ "UL"
  | .longLong => toString value ++ "LL"
  | .unsignedLongLong => toString value ++ "ULL"
  | _ => toString value

/-- A decimal literal with an exponent. -/
def floatLiteral (digits : Nat) (exponent : Int) (kind : FloatKind) : String :=
  toString digits ++ "e" ++ toString exponent ++ (if kind = .single then "f" else "")

mutual

/-- An expression on one line. -/
def Expr.text (names : TypeNames) : Expr → String
  | .intLit value kind => intLiteral value kind
  | .floatLit digits exponent kind => floatLiteral digits exponent kind
  | .var name => name
  | .paren inner => "(" ++ inner.text names ++ ")"
  | .unary op operand => op.spelling ++ operand.text names
  | .deref pointer => "*" ++ pointer.text names
  | .addressOf place => "&" ++ place.text names
  | .index pointer offset => pointer.text names ++ "[" ++ offset.text names ++ "]"
  | .binary op left right => left.text names ++ op.between ++ right.text names
  | .logic op left right => left.text names ++ " " ++ op.spelling ++ " " ++ right.text names
  | .cond test yes no => test.text names ++ " ? " ++ yes.text names ++ " : " ++ no.text names
  | .assign place value => place.text names ++ " = " ++ value.text names
  | .update op place value =>
      place.text names ++ " " ++ op.spelling ++ "= " ++ value.text names
  | .count up yieldsOld place =>
      let mark := if up then "++" else "--"
      if yieldsOld then place.text names ++ mark else mark ++ place.text names
  | .cast type operand => "(" ++ type.spelling names ++ ")" ++ operand.text names
  | .call callee args =>
      callee.text names ++ "(" ++ ", ".intercalate (Expr.texts names args) ++ ")"
  | .comma first second => first.text names ++ ", " ++ second.text names
  | .sizeOf type => "sizeof(" ++ type.spelling names ++ ")"

/-- Expressions, each on its own. -/
def Expr.texts (names : TypeNames) : List Expr → List String
  | [] => []
  | e :: rest => e.text names :: Expr.texts names rest

end

/-- A variable with its initial value, without the type. -/
def Variable.text (names : TypeNames) (v : Variable) : String :=
  match v.init with
  | some e => v.name ++ " = " ++ e.text names
  | none => v.name

/-- A declaration of variables of one type. -/
def declarationText (names : TypeNames) (vars : List Variable) : String :=
  match vars with
  | [] => ""
  | first :: _ =>
      (if first.isConst then "const " else "") ++ first.type.spelling names ++ " " ++
        ", ".intercalate (vars.map (·.text names))

/-- What stands between `for (` and the first semicolon. -/
def Stmt.headText (names : TypeNames) : Stmt → String
  | .expr e => e.text names
  | .declare vars => declarationText names vars
  | _ => ""

/-- How many arguments of a call that is a statement stand on its first line. -/
def firstArguments : Nat := 6

/-- The lines of an expression as a statement. The arguments of a call that are too many for one line
go on below the first of them. -/
def Expr.lines (names : TypeNames) : Expr → List String
  | .call callee args =>
      let head := callee.text names ++ "("
      let (first, rest) := (Expr.texts names args).splitAt firstArguments
      if rest.isEmpty then [head ++ ", ".intercalate first ++ ");"]
      else
        [head ++ ", ".intercalate first ++ ",",
          "".pushn ' ' head.length ++ ", ".intercalate rest ++ ");"]
  | e => [e.text names ++ ";"]

/-- Moves lines right by one level. -/
def shifted (lines : List String) : List String := lines.map ("    " ++ ·)

/-- An expression, or nothing. -/
def optionalText (names : TypeNames) : Option Expr → String
  | some e => e.text names
  | none => ""

mutual

/-- The lines of a statement. -/
def Stmt.lines (names : TypeNames) : Stmt → List String
  | .empty => [";"]
  | .expr e => e.lines names
  | .declare vars => [declarationText names vars ++ ";"]
  | .block body => ["\x7b"] ++ shifted (Stmt.allLines names body) ++ ["\x7d"]
  | .ifElse test yes no =>
      let head := ("if (" ++ test.text names ++ ")") :: shifted (yes.lines names)
      match no with
      | .empty => head
      | other => head ++ "else" :: shifted (other.lines names)
  | .while test body => ("while (" ++ test.text names ++ ")") :: shifted (body.lines names)
  | .doWhile body test =>
      "do" :: shifted (body.lines names) ++ ["while (" ++ test.text names ++ ");"]
  | .for init test step body =>
      ("for (" ++ init.headText names ++ "; " ++ optionalText names test ++ "; " ++
        optionalText names step ++ ")") :: shifted (body.lines names)
  | .return (some e) => ["return " ++ e.text names ++ ";"]
  | .return none => ["return;"]
  | .break => ["break;"]
  | .continue => ["continue;"]
  | .parallelFor index bound body =>
      ["#pragma omp parallel for",
        "for (int " ++ index ++ " = 0; " ++ index ++ " < " ++ bound.text names ++ "; " ++ index ++
          "++)"] ++ shifted (body.lines names)
  | .parallel body => "#pragma omp parallel" :: body.lines names

/-- The lines of statements in order. -/
def Stmt.allLines (names : TypeNames) : List Stmt → List String
  | [] => []
  | s :: rest => s.lines names ++ Stmt.allLines names rest

end

/-- Statements as text, a line feed between the lines. -/
def bodyText (names : TypeNames) (body : List Stmt) : String :=
  "\n".intercalate (Stmt.allLines names body)

end KernelForge.Code
