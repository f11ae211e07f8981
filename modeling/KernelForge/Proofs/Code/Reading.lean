import KernelForge.Proofs.Code.Reader

/-!
# Readable trees are read back

Expressions and statements are readable if their names are left free by types and keywords and every
operand binds as tightly as its operator asks for. Reading the lexemes of a readable expression comes
to going on behind it, by induction on the expression: what is read inside it ends where it should,
because what follows binds less tightly. Readable statements are read whole, whatever follows them.
-/

namespace KernelForge.Code

open Compiler

variable (names : TypeNames)

/-! ### What can be read back -/

/-- A plain word that is no keyword. -/
structure IsWord (text : String) : Prop where
  plain : isPlainName text
  keyword : text ∉ keywords

/-- A word that is left for variables and functions. -/
structure TypeNames.IsFree (text : String) : Prop extends IsWord text where
  type : names.type? text = none

/-- A type is written by a word that names it. -/
structure TypeNames.Spells (type : CType) : Prop extends IsWord (type.spelling names) where
  type : names.type? (type.spelling names) = some type

/-- How tightly the outermost operator of an expression binds. -/
def Expr.level : Expr → Nat
  | .intLit .. | .floatLit .. | .var _ | .paren _ => 15
  | .index .. | .call .. => 14
  | .count _ yieldsOld _ => if yieldsOld then 14 else 13
  | .unary .. | .deref _ | .addressOf _ | .cast .. | .sizeOf _ => 13
  | .binary op .. => op.level
  | .logic .and .. => 4
  | .logic .or .. => 3
  | .cond .. => 2
  | .assign .. | .update .. => 1
  | .comma .. => 0

/-- What an expression does not take in binds less tightly than this. -/
def Expr.bound : Expr → Nat
  | .binary op .. => op.level + 1
  | .cond .. => 2
  | .assign .. => 1
  | .deref _ | .addressOf _ | .cast .. => 13
  | _ => 15

/-- Expressions that can be read back: names are free, and every operand binds as tightly as its
operator asks for. -/
inductive Expr.Readable : Expr → Prop
  | intLit (value : Nat) : Readable (.intLit value .int)
  | var {name : String} (hname : names.IsFree name) : Readable (.var name)
  | paren {inner : Expr} (h : Readable inner) : Readable (.paren inner)
  | deref {pointer : Expr} (h : Readable pointer) (hlevel : 13 ≤ pointer.level) :
      Readable (.deref pointer)
  | addressOf {place : Expr} (h : Readable place) (hlevel : 14 ≤ place.level) :
      Readable (.addressOf place)
  | index {pointer offset : Expr} (hpointer : Readable pointer) (hoffset : Readable offset)
      (hlevel : 14 ≤ pointer.level) : Readable (.index pointer offset)
  | binary {op : BinaryOp} {left right : Expr} (hleft : Readable left) (hright : Readable right)
      (hlevel : op.level ≤ left.level) (hlevel' : op.level < right.level) :
      Readable (.binary op left right)
  | cond {test yes no : Expr} (htest : Readable test) (hyes : Readable yes) (hno : Readable no)
      (hlevel : 3 ≤ test.level) (hlevel' : 2 ≤ no.level) : Readable (.cond test yes no)
  | assign {place value : Expr} (hplace : Readable place) (hvalue : Readable value)
      (hlevel : 13 ≤ place.level) : Readable (.assign place value)
  | count {place : Expr} (h : Readable place) (hlevel : 14 ≤ place.level) :
      Readable (.count true true place)
  | cast {type : CType} {operand : Expr} (htype : names.Spells type)
      (h : Readable operand) (hlevel : 13 ≤ operand.level) : Readable (.cast type operand)
  | call {callee : Expr} {args : List Expr} (hcallee : Readable callee)
      (hargs : ∀ a ∈ args, Readable a) (hlevel : 14 ≤ callee.level) : Readable (.call callee args)

/-- Variables of a type that can be read back. -/
structure Variable.Readable (type : CType) (v : Variable) : Prop where
  name : names.IsFree v.name
  type : v.type = type
  isConst : v.isConst = false
  init : ∀ e ∈ v.init, e.Readable names

/-- Statements that can be read back. -/
inductive Stmt.Readable : Stmt → Prop
  | expr {e : Expr} (h : e.Readable names) : Readable (.expr e)
  | declare {type : CType} {v : Variable} {vars : List Variable} (htype : names.Spells type)
      (h : ∀ w ∈ v :: vars, w.Readable names type) : Readable (.declare (v :: vars))
  | block {body : List Stmt} (h : ∀ s ∈ body, Readable s) : Readable (.block body)
  | ifElse {test : Expr} {yes : Stmt} (htest : test.Readable names) (hyes : Readable yes) :
      Readable (.ifElse test yes .empty)
  | for {vars : List Variable} {test step : Expr} {body : Stmt} (hinit : Readable (.declare vars))
      (htest : test.Readable names) (hstep : step.Readable names) (hbody : Readable body) :
      Readable (.for (.declare vars) (some test) (some step) body)
  | parallel {body : Stmt} (h : Readable body) : Readable (.parallel body)

mutual

/-- The lexemes of a readable expression. -/
def Expr.tokens : Expr → List Token
  | .intLit value _ => [⟨.number, toString value⟩]
  | .var name => [word name]
  | .paren inner => mark "(" :: (inner.tokens ++ [mark ")"])
  | .deref pointer => mark "*" :: pointer.tokens
  | .addressOf place => mark "&" :: place.tokens
  | .index pointer offset => pointer.tokens ++ mark "[" :: (offset.tokens ++ [mark "]"])
  | .binary op left right => left.tokens ++ mark op.spelling :: right.tokens
  | .cond test yes no =>
      test.tokens ++ mark "?" :: (yes.tokens ++ mark ":" :: no.tokens)
  | .assign place value => place.tokens ++ mark "=" :: value.tokens
  | .count _ _ place => place.tokens ++ [mark "++"]
  | .cast type operand =>
      mark "(" :: word (type.spelling names) :: mark ")" :: operand.tokens
  | .call callee args =>
      callee.tokens ++ mark "(" :: ([mark ","].intercalate (Expr.tokenLists args) ++ [mark ")"])
  | _ => []

/-- The lexemes of expressions, each on its own. -/
def Expr.tokenLists : List Expr → List (List Token)
  | [] => []
  | e :: rest => e.tokens :: Expr.tokenLists rest

end

/-- The lexemes of a declared variable. -/
def Variable.tokens (v : Variable) : List Token :=
  word v.name ::
    match v.init with
    | some e => mark "=" :: e.tokens names
    | none => []

mutual

/-- The lexemes of a readable statement. -/
def Stmt.tokens : Stmt → List Token
  | .expr e => e.tokens names ++ [mark ";"]
  | .declare [] => []
  | .declare (v :: vars) =>
      word (v.type.spelling names) ::
        ([mark ","].intercalate ((v :: vars).map (·.tokens names)) ++ [mark ";"])
  | .block body => mark "\x7b" :: (Stmt.allTokens body ++ [mark "\x7d"])
  | .ifElse test yes _ => word "if" :: mark "(" :: (test.tokens names ++ mark ")" :: yes.tokens)
  | .for init (some test) (some step) body =>
      word "for" :: mark "(" ::
        (init.tokens ++
          (test.tokens names ++ mark ";" :: (step.tokens names ++ mark ")" :: body.tokens)))
  | .parallel body => mark "#" :: word "pragma" :: word "omp" :: word "parallel" :: body.tokens
  | _ => []

/-- The lexemes of statements in order. -/
def Stmt.allTokens : List Stmt → List Token
  | [] => []
  | s :: rest => s.tokens ++ Stmt.allTokens rest

end

variable {names}

/-- Words are free that are neither keywords nor names of types. -/
theorem TypeNames.IsFree.of_ne {text : String} (hplain : isPlainName text) (hword : text ∉ keywords)
    (hbasic : text ∉ basicTypes.map (·.1)) (hnames : text ∉ names.map (·.2)) : names.IsFree text := by
  refine ⟨⟨hplain, hword⟩, ?_⟩
  have hfind : names.find? (·.2 = text) = none := by
    rw [List.find?_eq_none]
    intro p hp heq
    exact hnames (List.mem_map.mpr ⟨p, hp, by simpa using heq⟩)
  have hlookup : basicTypes.lookup text = none := by
    rw [List.lookup_eq_none_iff]
    intro p hp
    have hne : text ≠ p.1 := fun heq => hbasic (heq ▸ List.mem_map_of_mem hp)
    simpa using hne
  rw [TypeNames.type?, hfind, hlookup]
  rfl

/-- What comes behind binds less tightly than a level. -/
def Closes (level : Nat) (rest : List Token) : Prop :=
  ∀ t ∈ rest.head?, ∀ b, behind? t = some b → b.level < level

/-- What closes a level closes all that bind more tightly. -/
theorem Closes.mono {level level' : Nat} {rest : List Token} (h : Closes level rest)
    (hle : level ≤ level') : Closes level' rest :=
  fun t ht b hb => (h t ht b hb).trans_le hle

/-- A lexeme that begins nothing behind an operand closes every level. -/
theorem closes_cons {level : Nat} {t : Token} (h : behind? t = none) (rest : List Token) :
    Closes level (t :: rest) := by
  intro u hu b hb
  obtain rfl : t = u := by simpa using hu
  rw [h] at hb
  cases hb

/-- A mark that binds less tightly than a level closes it. -/
theorem closes_behind {level : Nat} {t : Token} {b : Behind} (h : behind? t = some b)
    (hb : b.level < level) (rest : List Token) : Closes level (t :: rest) := by
  intro u hu b' hb'
  obtain rfl : t = u := by simpa using hu
  rw [h] at hb'
  obtain rfl := Option.some.inj hb'
  exact hb

/-- What binds less tightly is left behind. -/
theorem goOn_of_closes {fuel level : Nat} {e : Expr} {rest : List Token} (h : Closes level rest)
    (hfuel : 0 < fuel) : goOn names fuel level e rest = some (e, rest) := by
  obtain _ | fuel := fuel
  · omega
  cases rest with
  | nil => rfl
  | cons t rest =>
    rw [goOn]
    cases hb : behind? t with
    | none => rfl
    | some b => exact if_pos (h t (by simp) b hb)

/-- Binary operators stand between the choice and the operators in front of an operand. -/
theorem BinaryOp.level_bounds (op : BinaryOp) : 5 ≤ op.level ∧ op.level ≤ 12 := by
  cases op <;> decide

/-- Nothing behind an operand binds like the operators in front of one. -/
theorem Behind.level_bounds (b : Behind) : 1 ≤ b.level ∧ b.level ≠ 13 ∧ b.level ≤ 14 := by
  cases b with
  | operator op =>
    have := op.level_bounds
    simp only [level]
    omega
  | _ => decide

/-- The mark of an operator is read as that operator. -/
theorem behind?_operator (op : BinaryOp) : behind? (mark op.spelling) = some (.operator op) := by
  cases op <;> rfl

/-- Lexemes that begin an expression. -/
def BeginsExpr (names : TypeNames) (t : Token) : Prop :=
  t.kind = .number ∨ (t.kind = .name ∧ names.IsFree t.text) ∨ t ∈ [mark "(", mark "*", mark "&"]

namespace BeginsExpr

variable {t : Token}

/-- No other mark begins an expression. -/
theorem ne_mark (h : BeginsExpr names t) (text : String) (htext : text ∉ ["(", "*", "&"]) :
    t ≠ mark text := by
  rintro rfl
  rcases h with hnumber | ⟨hname, -⟩ | hmark
  · cases hnumber
  · cases hname
  · exact htext (by simpa [mark] using hmark)

/-- No keyword begins one. -/
theorem ne_word (h : BeginsExpr names t) (text : String) (htext : text ∈ keywords) :
    t ≠ word text := by
  rintro rfl
  rcases h with hnumber | ⟨-, hfree⟩ | hmark
  · cases hnumber
  · exact hfree.keyword htext
  · simp [mark, word] at hmark

/-- Neither does a type. -/
theorem typeOf?_eq_none (h : BeginsExpr names t) : typeOf? names t = none := by
  rcases h with hnumber | ⟨hname, hfree⟩ | hmark
  · simp [typeOf?, hnumber]
  · simp [typeOf?, hname, hfree.type]
  · simp only [List.mem_cons, List.not_mem_nil, or_false] at hmark
    rcases hmark with rfl | rfl | rfl <;> rfl

end BeginsExpr

namespace Expr.Readable

variable {e : Expr}

/-- Readable expressions have no comma outside parentheses. -/
theorem one_le_level (h : e.Readable names) : 1 ≤ e.level := by
  induction h with
  | @binary op =>
    have := op.level_bounds
    simp only [level]
    omega
  | _ => simp [level]

/-- An expression takes in whatever binds more tightly than its operator. -/
theorem level_le_bound (h : e.Readable names) : e.level ≤ e.bound := by
  cases h <;> simp [level, bound]

/-- What binds at most as tightly as an expression that is no choice is not taken in by it. -/
theorem lt_bound (h : e.Readable names) (b : Behind) (hb : b.level ≤ e.level) (hlevel : 3 ≤ e.level) :
    b.level < e.bound := by
  have := b.level_bounds
  cases h <;> simp only [level, bound] at hb hlevel ⊢ <;> omega

/-- What a readable expression begins with. -/
theorem head (h : e.Readable names) : ∃ t ts, e.tokens names = t :: ts ∧ BeginsExpr names t := by
  induction h with
  | intLit value => exact ⟨_, _, by rw [tokens], .inl rfl⟩
  | var hname => exact ⟨_, _, by rw [tokens], .inr (.inl ⟨rfl, hname⟩)⟩
  | paren => exact ⟨_, _, by rw [tokens], .inr (.inr (by simp))⟩
  | deref => exact ⟨_, _, by rw [tokens], .inr (.inr (by simp))⟩
  | addressOf => exact ⟨_, _, by rw [tokens], .inr (.inr (by simp))⟩
  | cast => exact ⟨_, _, by rw [tokens], .inr (.inr (by simp))⟩
  | index _ _ _ ih | binary _ _ _ _ ih | cond _ _ _ _ _ ih | assign _ _ _ ih | count _ _ ih
  | call _ _ _ ih =>
    obtain ⟨t, ts, hts, ht⟩ := ih
    exact ⟨t, _, by rw [tokens, hts, List.cons_append], ht⟩

/-- An expression in parentheses is no cast. -/
theorem castType?_eq_none (h : e.Readable names) (rest : List Token) :
    castType? names (e.tokens names ++ rest) = none := by
  obtain ⟨t, ts, hts, ht⟩ := h.head
  rw [hts, List.cons_append]
  cases hall : ts ++ rest with
  | nil => rfl
  | cons u more => simp [castType?, ht.typeOf?_eq_none]

/-- No readable expression begins with another mark. -/
theorem after_eq_none (h : e.Readable names) (text : String) (htext : text ∉ ["(", "*", "&"])
    (rest : List Token) : after (mark text) (e.tokens names ++ rest) = none := by
  obtain ⟨t, ts, hts, ht⟩ := h.head
  rw [hts, List.cons_append]
  exact if_neg (ht.ne_mark text htext)

end Expr.Readable

/-- Reading an expression comes to going on behind it, with fuel for what has not been read. -/
def Expr.Reads (names : TypeNames) (e : Expr) : Prop :=
  ∀ ⦃level fuel : Nat⦄ ⦃rest : List Token⦄, level ≤ e.level → Closes e.bound rest →
    (e.tokens names).length < fuel →
      ∃ fuel', fuel ≤ fuel' + (e.tokens names).length ∧
        readExpr names fuel level (e.tokens names ++ rest) = goOn names fuel' level e rest

namespace Expr.Reads

variable {e left : Expr} {level fuel : Nat}

/-- An expression is read whole where nothing behind it binds as tightly as it is read. -/
theorem whole {rest : List Token} (h : e.Reads names) (hbound : e.level ≤ e.bound)
    (hlevel : level ≤ e.level) (hclose : Closes level rest) (hfuel : (e.tokens names).length < fuel) :
    readExpr names fuel level (e.tokens names ++ rest) = some (e, rest) := by
  obtain ⟨fuel', hle, heq⟩ := h hlevel (hclose.mono (hlevel.trans hbound)) hfuel
  rw [heq, goOn_of_closes hclose (by omega)]

/-- An expression that begins with a lexeme of its own: what follows it is read at once. -/
theorem front {t : Token} {more : List Token} (htokens : e.tokens names = t :: more)
    (hread : ∀ ⦃level fuel : Nat⦄ ⦃rest : List Token⦄, Closes e.bound rest → more.length < fuel →
      readExpr names (fuel + 1) level (t :: (more ++ rest)) = goOn names fuel level e rest) :
    e.Reads names := by
  intro level fuel rest _ hrest hfuel
  obtain _ | fuel := fuel
  · omega
  rw [htokens, List.length_cons] at hfuel ⊢
  exact ⟨fuel, by omega, hread hrest (by omega)⟩

/-- An expression that begins with an operand: the operand is read first, and what makes it the
expression stands behind. -/
theorem behind (h : left.Reads names) (hleft : left.Readable names) {t : Token} {b : Behind}
    {more : List Token} (htokens : e.tokens names = left.tokens names ++ t :: more)
    (hb : behind? t = some b) (hlevel : e.level = b.level) (htight : b.level ≤ left.level)
    (hthree : 3 ≤ left.level)
    (hread : ∀ ⦃level fuel : Nat⦄ ⦃rest : List Token⦄, ¬ b.level < level → Closes e.bound rest →
      more.length < fuel →
        goOn names (fuel + 1) level left (t :: (more ++ rest)) = goOn names fuel level e rest) :
    e.Reads names := by
  intro level fuel rest hle hrest hfuel
  rw [hlevel] at hle
  rw [htokens, List.length_append, List.length_cons] at hfuel ⊢
  obtain ⟨fuel', hleft', heq⟩ := h (hle.trans htight)
    (closes_behind hb (hleft.lt_bound b htight hthree) (more ++ rest)) (by omega : _ < fuel)
  obtain _ | fuel' := fuel'
  · omega
  refine ⟨fuel', by omega, ?_⟩
  rw [List.append_assoc, List.cons_append, heq]
  exact hread (not_lt.mpr hle) hrest (by omega)

end Expr.Reads

/-- Arguments are read up to the closing parenthesis. -/
theorem readArguments_tokens {a : Expr} {args : List Expr}
    (hargs : ∀ e ∈ a :: args, e.Readable names ∧ e.Reads names) {fuel : Nat}
    (hfuel : ([mark ","].intercalate (Expr.tokenLists names (a :: args))).length + 1 < fuel)
    (rest : List Token) :
    readArguments names fuel
        ([mark ","].intercalate (Expr.tokenLists names (a :: args)) ++ mark ")" :: rest) =
      some (a :: args, rest) := by
  induction args generalizing a fuel with
  | nil =>
    obtain ⟨ha, hread⟩ := hargs a (by simp)
    simp only [Expr.tokenLists, List.intercalate_singleton] at hfuel ⊢
    obtain _ | fuel := fuel
    · omega
    rw [readArguments, hread.whole ha.level_le_bound ha.one_le_level
      (closes_cons rfl rest) (by omega)]
    simp
  | cons b args ih =>
    obtain ⟨ha, hread⟩ := hargs a (by simp)
    simp only [Expr.tokenLists, List.intercalate_cons_cons, List.length_append, List.append_assoc,
      List.cons_append, List.nil_append, List.length_cons] at hfuel ih ⊢
    obtain _ | fuel := fuel
    · omega
    rw [readArguments, hread.whole ha.level_le_bound ha.one_le_level
      (closes_cons rfl _) (by omega)]
    simp only [Option.bind_eq_bind, Option.bind_some, after_cons]
    rw [ih (fun e he => hargs e (by simp [he])) (by omega)]
    rfl

/-- Every readable expression is read from its lexemes. -/
theorem Expr.Readable.reads {e : Expr} (h : e.Readable names) : e.Reads names := by
  induction h with
  | intLit value =>
    have hdigits : (Nat.toDigits 10 value).all Char.isDigit := List.all_eq_true.mpr fun c hc =>
      Nat.isDigit_of_mem_toDigits (by decide) (by decide) hc
    refine .front (by rw [tokens]) fun level fuel rest _ _ => ?_
    simp [readExpr, hdigits, -List.all_eq_true]
  | var hname =>
    refine .front (by rw [tokens]) fun level fuel rest _ _ => ?_
    simp [readExpr, typeOf?, hname.type, hname.keyword]
  | @paren inner h ih =>
    refine .front (by rw [tokens]) fun level fuel rest _ hfuel => ?_
    rw [List.length_append] at hfuel
    have hcast := h.castType?_eq_none (mark ")" :: rest)
    have hread := ih.whole h.level_le_bound (Nat.zero_le _) (closes_cons (t := mark ")") rfl rest)
      (by omega : _ < fuel)
    simp [readExpr, hcast, hread]
  | deref h htight ih =>
    refine .front (by rw [tokens]) fun level fuel rest hrest hfuel => ?_
    have hread := ih.whole h.level_le_bound htight hrest hfuel
    simp [readExpr, hread]
  | addressOf h htight ih =>
    refine .front (by rw [tokens]) fun level fuel rest hrest hfuel => ?_
    have hread := ih.whole h.level_le_bound (Nat.le_of_succ_le htight) hrest hfuel
    simp [readExpr, hread]
  | cast htype h htight ih =>
    refine .front (by rw [tokens]) fun level fuel rest hrest hfuel => ?_
    simp only [List.length_cons] at hfuel
    have hread := ih.whole h.level_le_bound htight hrest (by omega : _ < fuel)
    simp [readExpr, castType?, typeOf?, htype.type, hread]
  | index hpointer hoffset htight ih ihoffset =>
    refine ih.behind hpointer (by rw [tokens]) (b := .index) rfl rfl htight (by omega)
      fun level fuel rest hlevel _ hfuel => ?_
    rw [List.length_append] at hfuel
    have hread := ihoffset.whole hoffset.level_le_bound (Nat.zero_le _)
      (closes_cons (t := mark "]") rfl rest) (by omega : _ < fuel)
    rw [goOn]
    simp [behind?, hlevel, hread]
  | @binary op left right hleft hright htight hrightLevel ih ihright =>
    have hop := op.level_bounds
    refine ih.behind hleft (by rw [tokens]) (behind?_operator op) rfl htight (by omega)
      fun level fuel rest hlevel hrest hfuel => ?_
    have hread := ihright.whole hright.level_le_bound hrightLevel hrest hfuel
    rw [goOn]
    simp [behind?_operator, hlevel, hread]
  | @cond test yes no htest hyes hno htight hnoLevel ih ihyes ihno =>
    refine ih.behind htest (by rw [tokens]) (b := .choice) rfl rfl (Nat.le_of_succ_le htight) htight
      fun level fuel rest hlevel hrest hfuel => ?_
    simp only [List.length_append, List.length_cons] at hfuel
    have hyesRead := ihyes.whole hyes.level_le_bound (Nat.zero_le _)
      (closes_cons (t := mark ":") rfl (no.tokens names ++ rest)) (by omega : _ < fuel)
    have hnoRead := ihno.whole hno.level_le_bound hnoLevel hrest (by omega : _ < fuel)
    rw [goOn]
    simp [behind?, hlevel, hyesRead, hnoRead]
  | assign hplace hvalue htight ih ihvalue =>
    refine ih.behind hplace (by rw [tokens]) (b := .assignment) rfl rfl (le_trans (by decide) htight)
      (le_trans (by decide) htight) fun level fuel rest hlevel hrest hfuel => ?_
    have hread := ihvalue.whole hvalue.level_le_bound hvalue.one_le_level hrest hfuel
    rw [goOn]
    simp [behind?, hlevel, hread]
  | count h htight ih =>
    refine ih.behind h (by rw [tokens]) (b := .count) rfl rfl htight (by omega)
      fun level fuel rest hlevel _ _ => ?_
    rw [goOn]
    simp [behind?, hlevel]
  | @call callee args hcallee hargs htight ih ihargs =>
    refine ih.behind hcallee (by rw [tokens]) (b := .call) rfl rfl htight (by omega)
      fun level fuel rest hlevel _ hfuel => ?_
    rw [goOn]
    cases args with
    | nil => simp [behind?, hlevel, tokenLists]
    | cons a args =>
      have hnone : after (mark ")") ([mark ","].intercalate (tokenLists names (a :: args)) ++
          mark ")" :: rest) = none := by
        have ha := (hargs a (by simp)).after_eq_none ")" (by decide)
        cases args <;> simp [tokenLists, ha]
      have hread := readArguments_tokens (fun a ha => ⟨hargs a ha, ihargs a ha⟩)
        (by simpa using hfuel : _ < fuel) rest
      simp [behind?, hlevel, hnone, hread]

/-- Every readable expression is read whole where nothing binds as tightly behind it. -/
theorem Expr.Readable.read {e : Expr} (h : e.Readable names) {t : Token} (ht : behind? t = none)
    (rest : List Token) {level fuel : Nat} (hlevel : level ≤ 1)
    (hfuel : (e.tokens names).length < fuel) :
    readExpr names fuel level (e.tokens names ++ t :: rest) = some (e, t :: rest) :=
  h.reads.whole h.level_le_bound (hlevel.trans h.one_le_level) (closes_cons ht rest) hfuel

/-! ### Statements -/

/-- The lexemes of variables in a declaration. -/
def variableTokens (names : TypeNames) (vars : List Variable) : List Token :=
  [mark ","].intercalate (vars.map (·.tokens names))

/-- A declared variable is read with what it starts as. -/
theorem Variable.Readable.read {type : CType} {v : Variable} (h : v.Readable names type) {t : Token}
    (ht : behind? t = none) {fuel : Nat} (hfuel : (v.tokens names).length ≤ fuel) (rest : List Token) :
    readVariable names type fuel (v.tokens names ++ t :: rest) = some (v, t :: rest) := by
  obtain ⟨name, _, _, init⟩ := v
  obtain ⟨-, rfl, rfl, hinit⟩ := h
  cases init with
  | none =>
    have hno : after (mark "=") (t :: rest) = none := by
      refine if_neg ?_
      rintro rfl
      cases ht
    simp [Variable.tokens, readVariable, hno]
  | some e =>
    simp only [Variable.tokens, List.length_cons] at hfuel
    have hread := (hinit e rfl).read ht rest le_rfl (by omega : _ < fuel)
    simp [Variable.tokens, readVariable, hread]

/-- Declared variables of a type are read up to the semicolon. -/
theorem readVariables_tokens {type : CType} {v : Variable} {vars : List Variable}
    (h : ∀ w ∈ v :: vars, w.Readable names type) {fuel : Nat}
    (hfuel : (variableTokens names (v :: vars)).length < fuel) (rest : List Token) :
    readVariables names type fuel (variableTokens names (v :: vars) ++ mark ";" :: rest) =
      some (v :: vars, mark ";" :: rest) := by
  induction vars generalizing v fuel with
  | nil =>
    obtain _ | fuel := fuel
    · omega
    simp only [variableTokens, List.map_cons, List.map_nil, List.intercalate_singleton] at hfuel ⊢
    rw [readVariables, (h v (by simp)).read rfl (by omega)]
    rfl
  | cons w vars ih =>
    obtain _ | fuel := fuel
    · omega
    simp only [variableTokens, List.map_cons, List.intercalate_cons_cons, List.length_append,
      List.append_assoc, List.cons_append, List.nil_append, List.length_cons] at hfuel ih ⊢
    rw [readVariables, (h v (by simp)).read rfl (by omega)]
    simp only [Option.bind_eq_bind, Option.bind_some, after_cons]
    rw [ih (fun u hu => h u (by simp [hu])) (by omega)]
    rfl

/-- What a readable statement begins with. -/
theorem Stmt.Readable.head {s : Stmt} (h : s.Readable names) :
    ∃ t ts, s.tokens names = t :: ts ∧ t ≠ mark "\x7d" := by
  cases h with
  | expr h =>
    obtain ⟨t, ts, hts, ht⟩ := h.head
    exact ⟨t, _, by rw [tokens, hts, List.cons_append], ht.ne_mark _ (by decide)⟩
  | declare => exact ⟨_, _, by rw [tokens], by simp [word, mark]⟩
  | block | ifElse | «for» | parallel => exact ⟨_, _, by rw [tokens], by decide⟩

/-- A statement is read from its lexemes, whatever follows it. -/
def Stmt.Reads (names : TypeNames) (s : Stmt) : Prop :=
  ∀ ⦃fuel : Nat⦄ (rest : List Token), (s.tokens names).length < fuel →
    readStmt names fuel (s.tokens names ++ rest) = some (s, rest)

/-- Every statement begins with a lexeme; what follows it is read at once. -/
theorem Stmt.Reads.front {s : Stmt} {t : Token} {more : List Token}
    (htokens : s.tokens names = t :: more)
    (hread : ∀ ⦃fuel : Nat⦄ (rest : List Token), more.length < fuel →
      readStmt names (fuel + 1) (t :: (more ++ rest)) = some (s, rest)) : s.Reads names := by
  intro fuel rest hfuel
  obtain _ | fuel := fuel
  · omega
  rw [htokens, List.length_cons] at hfuel
  rw [htokens]
  exact hread rest (by omega)

/-- Statements are read up to a closing brace or the end. -/
theorem readStmts_tokens {body : List Stmt} (h : ∀ s ∈ body, s.Readable names)
    (hread : ∀ s ∈ body, s.Reads names) {fuel : Nat}
    (hfuel : (Stmt.allTokens names body).length + 1 < fuel) (rest : List Token)
    (hrest : ∀ t ∈ rest.head?, t = mark "\x7d") :
    readStmts names fuel (Stmt.allTokens names body ++ rest) = some (body, rest) := by
  induction body generalizing fuel with
  | nil =>
    obtain _ | fuel := fuel
    · omega
    cases rest with
    | nil => rfl
    | cons t rest => exact if_pos (hrest t (by simp))
  | cons s body ih =>
    obtain ⟨t, ts, hts, ht⟩ := (h s (by simp)).head
    simp only [Stmt.allTokens, List.length_append, List.append_assoc] at hfuel ⊢
    obtain _ | fuel := fuel
    · omega
    have hlength : 0 < (s.tokens names).length := by simp [hts]
    have hfirst := hread s (by simp) (Stmt.allTokens names body ++ rest) (by omega : _ < fuel)
    have hothers := ih (fun r hr => h r (by simp [hr])) (fun r hr => hread r (by simp [hr]))
      (by omega : _ < fuel)
    rw [hts, List.cons_append] at hfirst ⊢
    rw [readStmts, if_neg ht, hfirst]
    simp [hothers]

/-- Every readable statement is read from its lexemes. -/
theorem Stmt.Readable.reads {s : Stmt} (h : s.Readable names) : s.Reads names := by
  induction h with
  | expr h =>
    obtain ⟨t, ts, hts, ht⟩ := h.head
    refine .front (by rw [tokens, hts, List.cons_append]) fun fuel rest hfuel => ?_
    have hread := h.read (t := mark ";") rfl rest (Nat.zero_le 1)
      (by simpa [hts] using hfuel : _ < fuel)
    rw [hts, List.cons_append] at hread
    rw [readStmt]
    simp [ht.ne_mark "\x7b" (by decide), ht.ne_mark "#" (by decide), ht.ne_word "if" (by decide),
      ht.ne_word "for" (by decide), ht.typeOf?_eq_none, hread]
  | @declare type v vars htype h =>
    obtain rfl := (h v (by simp)).type
    refine .front (by rw [tokens]) fun fuel rest hfuel => ?_
    have hne (text : String) (htext : text ∈ keywords) : v.type.spelling names ≠ text := by
      rintro rfl
      exact htype.keyword htext
    have htypeOf : typeOf? names (word (v.type.spelling names)) = some v.type := htype.type
    rw [List.length_append] at hfuel
    have hread := readVariables_tokens h (Nat.lt_of_add_right_lt hfuel) rest
    rw [variableTokens] at hread
    rw [readStmt]
    simp only [word_ne_mark, word_inj, hne "if" (by decide), hne "for" (by decide), if_false, htypeOf,
      List.append_assoc, List.cons_append, List.nil_append, hread, Option.bind_eq_bind,
      Option.bind_some, after_cons]
  | block h ih =>
    refine .front (by rw [tokens]) fun fuel rest hfuel => ?_
    have hread := readStmts_tokens h ih (by simpa using hfuel : _ < fuel) (mark "\x7d" :: rest) (by simp)
    simp [readStmt, hread]
  | @ifElse test yes htest hyes ih =>
    refine .front (by rw [tokens]) fun fuel rest hfuel => ?_
    simp only [List.length_append, List.length_cons] at hfuel
    have hread := htest.read (t := mark ")") rfl (yes.tokens names ++ rest) (Nat.zero_le 1)
      (by omega : _ < fuel)
    have hyesRead := ih rest (by omega : _ < fuel)
    simp [readStmt, hread, hyesRead]
  | @«for» vars test step body hinit htest hstep hbody ihinit ihbody =>
    refine .front (by rw [tokens]) fun fuel rest hfuel => ?_
    simp only [List.length_append, List.length_cons] at hfuel
    have hinitRead := ihinit (test.tokens names ++ mark ";" ::
      (step.tokens names ++ mark ")" :: (body.tokens names ++ rest))) (by omega : _ < fuel)
    have htestRead := htest.read (t := mark ";") rfl
      (step.tokens names ++ mark ")" :: (body.tokens names ++ rest)) (Nat.zero_le 1) (by omega : _ < fuel)
    have hstepRead := hstep.read (t := mark ")") rfl (body.tokens names ++ rest) (Nat.zero_le 1)
      (by omega : _ < fuel)
    have hbodyRead := ihbody rest (by omega : _ < fuel)
    simp [readStmt, hinitRead, htestRead, hstepRead, hbodyRead]
  | parallel h ih =>
    refine .front (by rw [tokens]) fun fuel rest hfuel => ?_
    simp only [List.length_cons] at hfuel
    have hread := ih rest (by omega : _ < fuel)
    simp [readStmt, afterAll, hread]

/-- Readable statements are read back from a text that is cut into their lexemes. -/
theorem readBody_of_tokensOf {rules : LexemeRules} {trigraphs : Bool} {text : String} {body : List Stmt}
    (h : ∀ s ∈ body, s.Readable names)
    (htext : tokensOf rules trigraphs text = .ok (Stmt.allTokens names body)) :
    readBody names rules trigraphs text = some body := by
  have hread := readStmts_tokens h (fun s hs => (h s hs).reads) (Nat.lt_succ_self _) [] (by simp)
  rw [List.append_nil] at hread
  simp [readBody, htext, hread]

end KernelForge.Code
