import KernelForge.Compiler.Primary

/-!
# Expressions

Operators bind in levels. Of a choice whose condition is constant, and of the operands of `&&` and
`||` that are never computed, no warnings are given. Operands of `sizeof` and the alternatives that a
generic choice leaves out are read but not computed.
-/

namespace KernelForge.Compiler

open Code

namespace Compile

/-- The size of a type as a value. -/
def sizeValue (type : SourceType) : Compile Value := do
  if type.isVoid || type.isFunction then
    extension "the size of something that is no object"
    warn "pointer-arith" "the size of something that is no object"
    return Value.ofInt SourceType.sizeType 1
  else if type.isCounted then
    return Value.ofTerm SourceType.sizeType (← strideOf type)
  else return Value.ofInt SourceType.sizeType (← sizeOf type)

/-- A type in parentheses, with what has to be computed for it. -/
def typeInParentheses (g : Grammar) : Compile (SourceType × Term) := do
  expect "("
  let type ← g .typeName
  expect ")"
  return (type, ← takeSetup)

/-- Whether a type in parentheses is next. -/
def atTypeInParentheses : Compile Bool := do
  if ← atMark "(" then beginsType (← peekAt 1) else return false

/-- An object that braces behind a type give values to. -/
def literalObject (g : Grammar) (type : SourceType) : Compile Value := do
  since .c99 "an object without a name"
  if type.isFunction || type.isVoid then refuse "an object of a type without objects"
  if type.isCounted then refuse "an object of computed length with an initial value"
  let isStatic := (← function?).isNone
  let (full, pieces) ← g (.initial type isStatic)
  if isStatic then
    let image ← imageOf full pieces
    let symbol ← newSymbol ".object"
    addGlobal symbol { (default : Global) with
      symbol := symbol, type := full, isStatic := true, isDefined := true, isUsed := true, image := image }
    return Value.object full (.ofSymbol symbol)
  else
    if !(← isComplete full) then refuse "an object of incomplete type"
    let slot ← newVariable "" full 1
    keepInMemory slot
    let code ← initialCode slot full pieces
    return Value.object full (code.andThen (.place slot 0))

/-- The operand of `sizeof`. -/
def sizeOperand (g : Grammar) : Compile Value := do
  if ← atTypeInParentheses then
    let (type, setup) ← typeInParentheses g
    if ← atMark "\x7b" then
      let v ← postfixes g 100000 (← literalObject g type)
      sizeValue v.type
    else
      let v ← sizeValue type
      return if setup matches .nothing then v else after setup v
  else
    let v ← g .prefixed
    if v.form matches .digits _ _ _ _ then refuse "the size of digits of a word"
    match v.form with
    | .variable_ slot => markRead slot
    | _ => pure ()
    let size ← sizeValue v.type
    return if v.type.isCounted then after (effectOf v) size else size

/-- The operand of `_Alignof`. -/
def alignmentOperand (g : Grammar) : Compile Value := do
  let answer (n : Nat) : Value := Value.ofInt SourceType.sizeType n
  if ← atTypeInParentheses then
    let (type, _) ← typeInParentheses g
    if !type.isVoid && !type.isFunction && !(← isComplete type) then refuse "the alignment of an incomplete type"
    return answer ((← get).records.alignment type)
  else
    extension "the alignment of an expression"
    let v ← g .prefixed
    match v.form with
    | .variable_ slot =>
        markRead slot
        return answer (← variableOf slot).info.alignment
    | .place (.symbol name 0) =>
        let natural := (← get).records.alignment v.type
        let found := (← global? v.name).filter fun x => x.symbol = name
        return answer (match found with
          | some x => max x.image.alignment natural
          | none => natural)
    | _ => return answer ((← get).records.alignment v.type)

/-- A choice by the type of an expression. -/
def genericChoice (g : Grammar) : Compile Value := do
  since .c11 "a generic choice"
  expect "("
  let subject ← read (← g .assignment)
  let type := subject.type.plain
  expect ","
  let found ← alternatives type 10000 none none []
  match found with
  | some v => return v
  | none => refuse "no alternative for a type"
where
  /-- The alternatives up to the closing parenthesis. -/
  alternatives (type : SourceType) :
      Nat → Option Value → Option Value → List SourceType → Compile (Option Value)
    | 0, _, _, _ => refuse "too many alternatives"
    | fuel + 1, chosen, otherwise, seen => do
        let isDefault ← acceptKeyword "default"
        if isDefault && otherwise.isSome then refuse "two alternatives for other types"
        let given ← if isDefault then pure none else do pure (some (← g .typeName))
        expect ":"
        let v ← match given with
          | some t =>
              if t.isFunction || !(← isComplete t) && !t.isVoid || t.isVariablyModified then
                refuse "an alternative for a type without objects"
              if seen.any t.compatible then refuse "two alternatives for one type"
              if t.compatible type then g .assignment else quietly (g .assignment)
          | none => g .assignment
        let matched := given.any type.compatible
        let chosen := if matched then some v else chosen
        let otherwise := if isDefault then some v else otherwise
        let seen := given.toList ++ seen
        if ← accept "," then alternatives type fuel chosen otherwise seen
        else
          expect ")"
          return chosen <|> otherwise

/-- The next of the further arguments. -/
def nextArgument (g : Grammar) : Compile Value := do
  expect "("
  let list ← argumentList (← g .assignment)
  expect ","
  let type ← g .typeName
  expect ")"
  let setup ← takeSetup
  if type.isFunction || !(← isComplete type) then refuse "an argument of a type without objects"
  let (first, list) ← repeatableAddress list
  let slot ← newTemporary .address
  let step := Term.sequence (.set slot (.load .address (list.plus 8)))
    (.sequence (.store .address (list.plus 8) ((Term.get slot).plus argumentStep)) .nothing)
  let address := match type.scalar? with
    | some _ => Term.get slot
    | none => Term.load .address (.get slot)
  return Value.readOnly type (setup.andThen (first.andThen (step.andThen address)))

/-- How far a member is from the start of a structure. -/
def memberOffset (g : Grammar) : Compile Value := do
  expect "("
  let type ← g .typeName
  expect ","
  let start ← memberOf (Value.object type (.address 0)) (← expectName)
  let found ← path 10000 start
  let address ← match found.form with
    | .digits _ _ _ _ => refuse "the offset of digits of a word"
    | _ => addressOf found
  let t := Term.converted .address (.int .unsignedLong) address
  return { Value.ofTerm SourceType.sizeType t with isExact := t.isConstant }
where
  /-- The rest of the path to a member. -/
  path : Nat → Value → Compile Value
    | 0, _ => refuse "a path is too long"
    | fuel + 1, v => do
        if ← accept "." then path fuel (← memberOf v (← expectName))
        else if ← accept "[" then
          let i ← g .expression
          expect "]"
          path fuel (← elementOf v i)
        else
          expect ")"
          return v

/-- Lanes of vectors in an order that another vector gives. -/
def shuffled (args : List Value) : Compile Value := do
  let shape (v : Value) : Option (SourceType × Nat) :=
    match v.type.plain with
    | .vector element n => some (element, n)
    | _ => none
  let pick (vectors : List Value) (mask : Value) : Compile Value := do
    match vectors, shape mask with
    | first :: _, some (index, n) =>
        match shape first with
        | none => refuse "no vector"
        | some (element, m) =>
            let s := (element.scalar?).getD (.int .int)
            let i := (index.scalar?).getD (.int .int)
            let sources ← vectors.mapM fun v => do repeatableAddress (← addressOf v)
            let (setup, order) ← repeatableAddress (← addressOf mask)
            let slot ← newVariable "" (.vector element n) 1
            keepInMemory slot
            let total := m * vectors.length
            let lanes ← (List.range n).mapM fun lane => do
              let wanted := Term.applyTwo .and .address
                (Term.converted i .address (.load i (order.plus (lane * i.bytes)))) (.address (total - 1))
              let (keep, wanted) ← repeatableAddress wanted
              let offset := Term.applyTwo .mul .address
                (Term.applyTwo .and .address wanted (.address (m - 1))) (.address s.bytes)
              let laneOf (a : Term) : Term := .load s (Term.applyTwo .add .address a offset)
              let value := match sources with
                | [(_, a)] => laneOf a
                | (_, a) :: (_, b) :: _ =>
                    Term.chosen (Term.applyTwo .lt .address wanted (.address m)) (laneOf a) (laneOf b)
                | [] => .nothing
              return keep.andThen (Term.sequence (.store s (.place slot (lane * s.bytes : Nat)) value) .nothing)
            let setups := Term.all (sources.map (·.1) ++ [setup])
            return Value.readOnly (.vector element n) (setups.andThen ((Term.all lanes).andThen (.place slot 0)))
    | _, _ => refuse "no vector"
  let args ← args.mapM read
  match args with
  | [v, mask] => pick [v] mask
  | [v, w, mask] => pick [v, w] mask
  | _ => refuse "a wrong number of arguments"

/-- Lanes of two vectors in an order that constants give. -/
def shuffledByNumbers (args : List Value) : Compile Value := do
  match args with
  | v :: w :: order =>
      match v.type.plain with
      | .vector element m =>
          let s := (element.scalar?).getD (.int .int)
          let (first, a) ← repeatableAddress (← addressOf v)
          let (second, b) ← repeatableAddress (← addressOf w)
          let type := SourceType.vector element order.length
          let slot ← newVariable "" type 1
          keepInMemory slot
          let lanes ← order.zipIdx.mapM fun (i, lane) => do
            let n := ((← read i).intValue?).getD 0
            let k := if n < 0 then 0 else n.toNat
            let value := if k < m then Term.load s (a.plus (k * s.bytes)) else .load s (b.plus ((k - m) * s.bytes))
            return Term.sequence (.store s (.place slot (lane * s.bytes : Nat)) value) .nothing
          return Value.readOnly type (first.andThen (second.andThen ((Term.all lanes).andThen (.place slot 0))))
      | _ => refuse "no vector"
  | _ => refuse "a wrong number of arguments"

/-- Every lane of a vector as another type. -/
def convertedLanes (v : Value) (type : SourceType) : Compile Value := do
  match v.type.plain, type.plain with
  | .vector element n, .vector target m =>
      if m ≠ n then refuse "vectors of different lengths"
      let s := (element.scalar?).getD (.int .int)
      let t := (target.scalar?).getD (.int .int)
      vectorLanes element n target [← read v] fun args =>
        match args with
        | [x] => return Term.converted s t x
        | _ => refuse "an operand is missing"
  | _, _ => refuse "no vector"

/-- A primary expression that begins with a keyword. -/
def keywordPrimary (g : Grammar) (word : String) : Compile Value := do
  match word with
  | "_Generic" => genericChoice g
  | "__builtin_va_arg" => nextArgument g
  | "__builtin_offsetof" => memberOffset g
  | "__builtin_choose_expr" =>
      expect "("
      let c ← constantInt g
      expect ","
      let yes ← if c = 0 then quietly (g .assignment) else g .assignment
      expect ","
      let no ← if c = 0 then g .assignment else quietly (g .assignment)
      expect ")"
      return if c = 0 then no else yes
  | "__builtin_types_compatible_p" =>
      expect "("
      let a ← g .typeName
      expect ","
      let b ← g .typeName
      expect ")"
      let same := match a.plain, b.plain with
        | .enum m _, .enum n _ => decide (m = n)
        | .enum _ _, _ | _, .enum _ _ => false
        | _, _ => a.alike b
      return Value.ofInt (.int .int) (if same then 1 else 0)
  | "__builtin_complex" =>
      expect "("
      let args ← allArguments g
      match args with
      | [a, b] =>
          let a ← read a
          let b ← read b
          match a.type.plain, b.type.plain with
          | .float k, .float l =>
              if k ≠ l then refuse "parts of different types"
              let (first, re) ← repeatable (.float k) a.term
              let (second, im) ← repeatable (.float k) b.term
              return { Value.ofTerm (.complex (.float k)) .nothing with
                form := .pair (first.andThen second) re im }
          | _, _ => refuse "parts that are no floating-point numbers"
      | _ => refuse "a wrong number of arguments"
  | "__builtin_shuffle" =>
      expect "("
      shuffled (← allArguments g)
  | "__builtin_shufflevector" =>
      expect "("
      shuffledByNumbers (← allArguments g)
  | "__builtin_convertvector" =>
      expect "("
      let v ← g .assignment
      expect ","
      let type ← g .typeName
      expect ")"
      convertedLanes v type
  | "__builtin_assoc_barrier" =>
      expect "("
      let v ← read (← g .assignment)
      expect ")"
      return v
  | "__builtin_has_attribute" =>
      skipParentheses
      return Value.ofInt (.int .bool) 0
  | "true" => return Value.ofInt (.int .bool) 1
  | "false" => return Value.ofInt (.int .bool) 0
  | "nullptr" | "__null" =>
      return { Value.ofTerm (.pointer .void) (.address 0) with isNull := true }
  | _ => refuse ("expected an expression before " ++ word)

/-- A primary expression with what follows it. -/
def primary (g : Grammar) : Compile Value := do
  let a ← peek
  match a.kind with
  | .number =>
      skip
      postfixes g 100000 (← numberValue a.text)
  | .character =>
      skip
      postfixes g 100000 (← characterValue a.text)
  | .text =>
      match ← textConstants with
      | some t => postfixes g 100000 (← textValue t)
      | none => refuse "a malformed text"
  | .name =>
      skip
      if (← atMark "(") && (← find? a.text).isNone && ! ["__func__", "__FUNCTION__", "__PRETTY_FUNCTION__"].contains a.text then
        postfixes g 100000 { ← undeclaredCall g a.text with op := "call" }
      else postfixes g 100000 (← nameValue a.text)
  | .keyword =>
      skip
      postfixes g 100000 (← keywordPrimary g a.text)
  | .mark =>
      if a.text = "(" then
        skip
        if ← atMark "\x7b" then
          if (← function?).isNone then refuse "statements outside of functions"
          extension "statements in an expression"
          let v ← g .blockValue
          expect ")"
          postfixes g 100000 v
        else
          let v ← g .expression
          expect ")"
          postfixes g 100000 (if v.op = "text" then v else { v with op := "" })
      else refuse ("expected an expression before " ++ a.text)
  | _ => refuse ("expected an expression before " ++ a.text)

/-- The real or imaginary part of a number. -/
def partOfNumber (isReal : Bool) (v : Value) : Compile Value := do
  extension "a part of a complex number"
  match v.type.part? with
  | some part =>
      let type := part.qualify v.type.qualifiers
      if v.isObject then
        match v.form with
        | .variable_ slot => markRead slot
        | _ => pure ()
        let address ← addressOf v
        let size := (partScalar v.type).bytes
        return { v with type := type, form := .place (if isReal then address else address.plus size), op := "" }
      else
        let (setup, re, im) ← pairOf v
        return Value.ofTerm part (setup.andThen (if isReal then re else im))
  | none =>
      let r ← read v
      if !r.type.isReal then refuse "a part of something that is no number"
      if isReal then return r
      else
        let s := (r.type.scalar?).getD (.int .int)
        return Value.ofTerm r.type (r.term.andThen (.word s 0))

/-- An expression with operators in front. -/
def prefixed (g : Grammar) : Compile Value := do
  let a ← peek
  if a.kind = .mark then
    match a.text with
    | "&" =>
        skip
        return { ← reference (← g .cast) with op := "&" }
    | "&&" =>
        skip
        extension "the address of a label"
        let name ← expectName
        return Value.ofTerm (.pointer .void) (.labelAddress (← useLabel name))
    | "*" =>
        skip
        let v ← dereference (← g .cast)
        return v
    | "+" | "-" | "~" | "!" =>
        skip
        unary a.text (← g .cast)
    | "++" =>
        skip
        increment "+" false (← g .prefixed)
    | "--" =>
        skip
        increment "-" false (← g .prefixed)
    | _ => primary g
  else if a.kind = .keyword then
    match a.text with
    | "sizeof" =>
        skip
        sizeOperand g
    | "_Alignof" =>
        skip
        alignmentOperand g
    | "__extension__" =>
        skip
        leniently (g .cast)
    | "__real__" =>
        skip
        partOfNumber true (← g .cast)
    | "__imag__" =>
        skip
        partOfNumber false (← g .cast)
    | _ => primary g
  else primary g

/-- An expression with types in parentheses in front. -/
def castExpression (g : Grammar) : Compile Value := do
  if ← atTypeInParentheses then
    let (type, setup) ← typeInParentheses g
    if ← atMark "\x7b" then
      let v ← literalObject g type
      postfixes g 100000 (if setup matches .nothing then v else after setup v)
    else
      let v ← castTo type (← g .cast)
      return if setup matches .nothing then v else after setup v
  else prefixed g

/-- How tightly an operator on two operands binds; zero for what is no such operator. -/
def bindingOf : String → Nat
  | "||" => 1
  | "&&" => 2
  | "|" => 3
  | "^" => 4
  | "&" => 5
  | "==" | "!=" => 6
  | "<" | ">" | "<=" | ">=" => 7
  | "<<" | ">>" => 8
  | "+" | "-" => 9
  | "*" | "/" | "%" => 10
  | _ => 0

/-- One of the two operators that may leave their second operand out. -/
def logical (isAnd : Bool) (left : Value) (t : Term) (right : Value) : Compile Value := do
  let op := if isAnd then "&&" else "||"
  checkNesting op left right
  let u ← truth (← read right)
  let known (n : Int) (isExact : Bool) : Value :=
    { Value.ofInt (.int .int) n with isExact := isExact, isNull := isExact && n = 0, op := op }
  match t.intValue? with
  | some n =>
      if (n ≠ 0) = isAnd then
        let isExact := left.isExact && right.isExact && u.intValue?.isSome
        return { Value.ofTerm (.int .int) u with
          isExact := isExact, isNull := isExact && u.intValue? = some 0, op := op }
      else return known (if n = 0 then 0 else 1) left.isExact
  | none => return { Value.ofTerm (.int .int) (if isAnd then .both t u else .either t u) with op := op }

/-- Reads operators that bind at least as tightly as a level, behind their first operand. -/
def operators (g : Grammar) : Nat → Nat → Value → Compile Value
  | 0, _, _ => refuse "an expression is too long"
  | fuel + 1, level, left => do
      let a ← peek
      let binding := if a.kind = .mark then bindingOf a.text else 0
      if binding = 0 || binding < level then return left
      else
        skip
        let right : Compile Value := do
          let first ← g .cast
          operators g fuel (binding + 1) first
        if binding ≤ 2 then
          let read ← read left
          let t ← truth read
          let isAnd := binding = 2
          let isKnown := t.intValue?.any fun n => (n ≠ 0) ≠ isAnd
          let right ← if isKnown then quietly right else right
          operators g fuel level (← logical isAnd { read with op := left.op } t right)
        else
          let right ← right
          operators g fuel level (← binary a.text left right)

/-- An expression without assignments. -/
def choiceExpression (g : Grammar) : Compile Value := do
  let first ← g .cast
  let condition ← operators g 100000 1 first
  if ← accept "?" then
    let c ← read condition
    if c.op = "=" then warn "parentheses" "an assignment as a condition"
    if ← accept ":" then
      extension "a choice without its second operand"
      let (setup, kept) ← match c.form, c.type.scalar? with
        | .term t, some s => do
            let (setup, t) ← repeatable s t
            pure (setup, { c with form := Form.term t })
        | .pair setup re im, _ => pure (setup, { c with form := Form.pair .nothing re im })
        | _, _ => refuse "a condition that is no number"
      let t ← truth kept
      let no ← g .choice
      return after setup (← conditional t c.isExact kept no)
    else
      let t ← truth c
      let known := t.intValue?
      let yes ← if known = some 0 then quietly (g .expression) else g .expression
      expect ":"
      let no ← if known.any (· ≠ 0) then quietly (g .choice) else g .choice
      conditional t c.isExact yes no
  else return condition

/-- The marks of assignments that compute, with what they compute. -/
def computingMarks : List (String × String) :=
  [("+=", "+"), ("-=", "-"), ("*=", "*"), ("/=", "/"), ("%=", "%"), ("&=", "&"), ("|=", "|"), ("^=", "^"),
    ("<<=", "<<"), (">>=", ">>")]

/-- An expression without commas. -/
def assignmentExpression (g : Grammar) : Compile Value := do
  let left ← choiceExpression g
  let a ← peek
  if a.kind ≠ .mark then return left
  else if a.text = "=" then
    skip
    let right ← g .assignment
    assign left right
  else
    match computingMarks.lookup a.text with
    | some op =>
        skip
        let right ← g .assignment
        assignWith op left right
    | none => return left

/-- Whether a term only gives a word that nobody takes. -/
def isWasted : Term → Bool
  | .sequence _ b => isWasted b
  | .word _ _ | .symbol _ _ | .place _ _ | .get _ | .load _ _ | .one _ _ _ | .two _ _ _ _ => true
  | .convert _ _ a => isWasted a
  | .choose c yes no => c.isPure && isWasted yes && isWasted no
  | .both a b | .either a b => a.isPure && isWasted b
  | _ => false

/-- Warns about a value that nobody takes. -/
def checkUnused (v : Value) : Compile Unit := do
  if !v.type.isVoid && v.op ≠ "=" && v.op ≠ "call" then
    let isVolatile := v.type.qualifiers.isVolatile
    let wasted := match v.form with
      | .term t => isWasted t
      | .variable_ _ => !isVolatile
      | .place t | .digits t _ _ _ => t.isPure && !isVolatile
      | .pair setup _ _ => setup matches .nothing
    if wasted then warn "unused-value" "a value that is not used"

/-- The value of the last of several expressions. -/
def commaExpression (g : Grammar) : Compile Value := do
  let first ← g .assignment
  if ← atMark "," then rest 100000 first else return first
where
  /-- The further expressions. -/
  rest : Nat → Value → Compile Value
    | 0, _ => refuse "an expression is too long"
    | fuel + 1, left => do
        if ← accept "," then
          checkUnused left
          let effect ← castTo .void left
          let right ← read (← g .assignment)
          let joined := after effect.term right
          rest fuel { joined with isExact := false, isNull := false, op := if right.op = "=" then "=" else "," }
        else return left

end Compile

end KernelForge.Compiler
