import KernelForge.Proofs.Code.Reading
import KernelForge.Text.Blank
import Mathlib.Data.List.Forall2

/-!
# Printed bodies are read back

What the printer writes for a readable tree is cut into the lexemes of the tree, line by line, and so it
is read back as that tree. Indenting the text moves its lines to the right and changes nothing about
their lexemes.
-/

namespace KernelForge.Code

open Compiler

/-! ### Pieces of text -/

/-- The digits of a number. -/
theorem toList_toString (n : Nat) :
    ∃ c digits, (toString n).toList = c :: digits ∧ ∀ d ∈ c :: digits, d.isDigit := by
  have hlist : (toString n).toList = Nat.toDigits 10 n := Nat.toList_repr
  obtain ⟨c, digits, hcons⟩ := List.exists_cons_of_ne_nil (Nat.toDigits_ne_nil (b := 10) (n := n))
  refine ⟨c, digits, hlist.trans hcons, fun d hd => ?_⟩
  exact Nat.isDigit_of_mem_toDigits (b := 10) (n := n) (by decide) (by decide) (hcons ▸ hd)

/-- A text on one line is cut into lexemes wherever it stands in front of what ends a word. -/
structure Writes (text : String) (ts : List Token) : Prop where
  oneLine : '\n' ∉ text.toList
  before : ∀ ⦃rest : List Char⦄ ⦃us : List Token⦄, EndsWord rest → Cuts rest us →
    Cuts (text.toList ++ rest) (ts ++ us)

/-- A text that begins with the end of a word ends words. -/
theorem endsWord_append {m : String} (a : String) {c : Char} {cs : List Char} (hm : m.toList = c :: cs)
    (hc : c ∈ wordEnds) : EndsWord (m ++ a).toList := by
  simpa [EndsWord, hm] using hc

namespace Writes

variable {a b : String} {ts us : List Token}

/-- A text on its own. -/
theorem cuts (h : Writes a ts) : Cuts a.toList ts := by
  simpa using @before _ _ h [] [] (by decide) .nil

/-- The empty text. -/
theorem empty : Writes "" [] := ⟨by decide, fun _ _ _ h => h⟩

/-- A text in front of one that ends a word. -/
theorem append (ha : Writes a ts) (hb : Writes b us) (hend : EndsWord b.toList) :
    Writes (a ++ b) (ts ++ us) where
  oneLine := by simp [ha.oneLine, hb.oneLine]
  before rest vs hrest h := by
    have hend' : EndsWord (b.toList ++ rest) := by
      cases hlist : b.toList with
      | nil => exact hrest
      | cons c cs => simpa [EndsWord, hlist] using hend
    simpa [List.append_assoc] using ha.before hend' (hb.before hrest h)

/-- Blanks in front of a text. -/
theorem padded {pad : String} (hpad : ∀ c ∈ pad.toList, c = ' ') (h : Writes a ts) :
    Writes (pad ++ a) ts where
  oneLine := by
    rw [String.toList_append]
    exact List.not_mem_append (fun hmem => absurd (hpad _ hmem) (by decide)) h.oneLine
  before rest us hrest hcuts := by
    rw [String.toList_append, List.append_assoc]
    generalize pad.toList = cs at hpad ⊢
    induction cs with
    | nil => exact h.before hrest hcuts
    | cons c cs ih =>
      obtain ⟨rfl, hcs⟩ := List.forall_mem_cons.mp hpad
      exact .blank (by simp) (ih hcs)

/-- A blank in front of a text. -/
theorem blank (h : Writes a ts) : Writes (" " ++ a) ts := h.padded (by simp)

/-- A mark in front of a text before which it ends. -/
theorem mark {m : String} (hm : m.toList ∈ plainMarks) (h : Writes a ts)
    (hend : ∀ rest, EndsWord rest → ∀ c ∈ (a.toList ++ rest).head?, markEnds m.toList c) :
    Writes (m ++ a) (Code.mark m :: ts) where
  oneLine := by
    have hno : ∀ m ∈ plainMarks, '\n' ∉ m := by decide
    rw [String.toList_append]
    exact List.not_mem_append (hno _ hm) h.oneLine
  before rest us hrest hcuts := by
    have := Cuts.mark hm (hend rest hrest) (h.before hrest hcuts)
    simpa [Code.mark] using this

/-- A mark of which nothing makes a longer one ends before whatever follows it. -/
theorem alone {m : String} (hm : m ∈ ["(", ")", "[", "]", "\x7b", "\x7d", ";", ",", "++"])
    (h : Writes a ts) :
    Writes (m ++ a) (Code.mark m :: ts) := by
  have hplain : m.toList ∈ plainMarks := by
    revert m
    decide
  refine mark hplain h fun _ _ c _ => ?_
  simp only [List.mem_cons, List.not_mem_nil, or_false] at hm
  rcases hm with rfl | rfl | rfl | rfl | rfl | rfl | rfl | rfl | rfl <;> rfl

/-- Such a mark on its own. -/
theorem single {m : String} (hm : m ∈ ["(", ")", "[", "]", "\x7b", "\x7d", ";", ",", "++"]) :
    Writes m [Code.mark m] := by
  have := alone hm empty
  rwa [String.append_empty] at this

/-- Such a mark behind a text. -/
theorem closed {m : String} (hm : m ∈ [")", "]", ";", ",", "++"]) (h : Writes a ts) :
    Writes (a ++ m) (ts ++ [Code.mark m]) := by
  have hboth : m ∈ ["(", ")", "[", "]", "\x7b", "\x7d", ";", ",", "++"] ∧ EndsWord m.toList := by
    revert m
    decide
  exact h.append (single hboth.1) hboth.2

/-- A mark with a blank behind it. -/
theorem mark_blank {m : String} (hm : m.toList ∈ plainMarks) (h : Writes a ts) :
    Writes (m ++ (" " ++ a)) (Code.mark m :: ts) := by
  refine mark hm h.blank fun _ _ c hc => ?_
  have hblank : ∀ mark ∈ plainMarks, markEnds mark ' ' = true := by decide
  obtain rfl : ' ' = c := by simpa using hc
  exact hblank _ hm

/-- Plain letters stand on one line. -/
theorem not_mem_plain {cs : List Char} (h : ∀ c ∈ cs, isPlain c) : '\n' ∉ cs := fun hmem =>
  absurd (h _ hmem) (by decide)

/-- A plain name. -/
theorem word (h : isPlainName a) : Writes a [Code.word a] := by
  obtain ⟨c, letters, hlist, hc, hletters, hlength⟩ := isPlainName_iff.mp h
  refine ⟨?_, fun rest us hrest hcuts => ?_⟩
  · rw [hlist]
    exact not_mem_plain (List.forall_mem_cons.mpr ⟨isPlain_of_begins hc, hletters⟩)
  · have := Cuts.name hc hletters hlength hrest hcuts
    rwa [← hlist, String.ofList_toList, ← List.cons_append, ← hlist] at this

/-- A decimal number. -/
theorem decimal (n : Nat) : Writes (toString n) [⟨.number, toString n⟩] := by
  obtain ⟨c, digits, hlist, hdigits⟩ := toList_toString n
  refine ⟨?_, fun rest us hrest hcuts => ?_⟩
  · rw [hlist]
    exact not_mem_plain fun c hc => isPlain_of_isDigit (hdigits c hc)
  · have := Cuts.number (hdigits c (by simp)) (fun d hd => hdigits d (List.mem_cons_of_mem _ hd))
      hrest hcuts
    rwa [← hlist, String.ofList_toList, ← List.cons_append, ← hlist] at this

/-- Two texts with a comma or a semicolon and a blank between them. -/
theorem apart (m op : String) (hop : op = m ++ " ") (hm : m ∈ [",", ";"]) (ha : Writes a ts)
    (hb : Writes b us) : Writes (a ++ op ++ b) (ts ++ Code.mark m :: us) := by
  rw [hop, String.append_assoc, String.append_assoc]
  simp only [List.mem_cons, List.not_mem_nil, or_false] at hm
  rcases hm with rfl | rfl <;>
    exact ha.append (mark_blank (by decide) hb) (endsWord_append _ rfl (by decide))

/-- Texts with commas between them. -/
theorem commas {texts : List String} {lists : List (List Token)} (h : List.Forall₂ Writes texts lists) :
    Writes (", ".intercalate texts) ([Code.mark ","].intercalate lists) := by
  induction h with
  | nil => exact empty
  | @cons text ts texts lists hfirst hrest ih =>
    cases hrest with
    | nil => simpa using hfirst
    | cons =>
      rw [List.intercalate_cons_cons, String.intercalate_cons_cons, List.append_assoc]
      exact hfirst.apart "," ", " rfl (by decide) ih

/-- A mark between blanks. -/
theorem between (m op : String) (hop : op = " " ++ m ++ " ") (hm : m.toList ∈ plainMarks)
    (ha : Writes a ts) (hb : Writes b us) : Writes (a ++ op ++ b) (ts ++ Code.mark m :: us) := by
  rw [hop, String.append_assoc, String.append_assoc, String.append_assoc]
  exact ha.append (mark_blank hm hb).blank (endsWord_append _ rfl (by decide))

/-- A text between two marks. -/
theorem enclosed {m n : String} (hm : m ∈ ["(", "["]) (hn : n ∈ [")", "]"]) (h : Writes a ts) :
    Writes (m ++ (a ++ n)) (Code.mark m :: (ts ++ [Code.mark n])) := by
  have hm' : m ∈ ["(", ")", "[", "]", "\x7b", "\x7d", ";", ",", "++"] := by
    revert m
    decide
  have hn' : n ∈ [")", "]", ";", ",", "++"] := by
    revert n
    decide
  exact alone hm' (h.closed hn')

/-- A keyword with a text in parentheses behind it. -/
theorem head (keyword op : String) (hop : op = keyword ++ (" " ++ "(")) (hkeyword : isPlainName keyword)
    (h : Writes a ts) :
    Writes (op ++ (a ++ ")")) (Code.word keyword :: Code.mark "(" :: (ts ++ [Code.mark ")"])) := by
  rw [hop, String.append_assoc, String.append_assoc]
  exact (word hkeyword).append (h.enclosed (by decide) (by decide)).blank
    (endsWord_append _ rfl (by decide))

end Writes

/-! ### Expressions -/

variable {names : TypeNames}

namespace Expr.Readable

variable {e : Expr}

/-- What a readable expression begins with; only in front of an operand stands a mark. -/
theorem text_head (h : e.Readable names) : ∃ c cs, (e.text names).toList = c :: cs ∧
    (isPlain c ∨ c = '(' ∨ e.level ≤ 13 ∧ (c = '*' ∨ c = '&')) := by
  induction h with
  | intLit value =>
    obtain ⟨c, digits, hlist, hdigits⟩ := toList_toString value
    exact ⟨c, digits, hlist, .inl (isPlain_of_isDigit (hdigits c (by simp)))⟩
  | var hname =>
    obtain ⟨c, letters, hlist, hc, -⟩ := isPlainName_iff.mp hname.plain
    exact ⟨c, letters, hlist, .inl (isPlain_of_begins hc)⟩
  | paren => exact ⟨'(', _, by simp only [text, String.toList_append]; rfl, by simp⟩
  | deref => exact ⟨'*', _, by simp only [text, String.toList_append]; rfl, by simp [level]⟩
  | addressOf => exact ⟨'&', _, by simp only [text, String.toList_append]; rfl, by simp [level]⟩
  | cast => exact ⟨'(', _, by simp only [text, String.toList_append]; rfl, by simp⟩
  | index _ _ htight ih | count _ htight ih | call _ _ htight ih =>
    obtain ⟨c, cs, hcs, hc⟩ := ih
    refine ⟨c, _, by simp only [text, String.toList_append, hcs, List.cons_append, if_true]; rfl, ?_⟩
    rcases hc with hc | hc | ⟨hlevel, -⟩
    · exact .inl hc
    · exact .inr (.inl hc)
    · omega
  | @binary op _ _ _ _ _ _ ih =>
    obtain ⟨c, cs, hcs, hc⟩ := ih
    refine ⟨c, _, by simp only [text, String.toList_append, hcs, List.cons_append]; rfl, ?_⟩
    exact hc.imp_right (.imp_right fun hmark => ⟨Nat.le_succ_of_le op.level_bounds.2, hmark.2⟩)
  | cond _ _ _ _ _ ih | assign _ _ _ ih =>
    obtain ⟨c, cs, hcs, hc⟩ := ih
    refine ⟨c, _, by simp only [text, String.toList_append, hcs, List.cons_append]; rfl, ?_⟩
    exact hc.imp_right (.imp_right fun hmark => ⟨by simp [level], hmark.2⟩)

/-- A star stands for itself in front of every operand. -/
theorem markEnds_star (h : e.Readable names) (rest : List Char) :
    ∀ c ∈ ((e.text names).toList ++ rest).head?, markEnds ['*'] c := by
  obtain ⟨c, cs, hcs, hc⟩ := h.text_head
  intro d hd
  obtain rfl : c = d := by simpa [hcs] using hd
  have hne : c ≠ '=' := by
    rintro rfl
    rcases hc with hc | hc | ⟨-, hc | hc⟩ <;> cases hc
  simpa [markEnds, longMarks, List.isPrefixOf_cons_cons] using hne

/-- An ampersand stands for itself in front of what no mark stands in front of. -/
theorem markEnds_ampersand (h : e.Readable names) (hlevel : 14 ≤ e.level) (rest : List Char) :
    ∀ c ∈ ((e.text names).toList ++ rest).head?, markEnds ['&'] c := by
  obtain ⟨c, cs, hcs, hc⟩ := h.text_head
  intro d hd
  obtain rfl : c = d := by simpa [hcs] using hd
  have hne : c ≠ '&' ∧ c ≠ '=' := by
    constructor
    · rintro rfl
      rcases hc with hc | hc | ⟨hle, -⟩
      · cases hc
      · cases hc
      · omega
    · rintro rfl
      rcases hc with hc | hc | ⟨-, hc | hc⟩ <;> cases hc
  simpa [markEnds, longMarks, List.isPrefixOf_cons_cons] using hne

/-- Expressions that are written as their lexemes, each on its own. -/
theorem forall₂_writes {args : List Expr} (h : ∀ a ∈ args, Writes (a.text names) (a.tokens names)) :
    List.Forall₂ Writes (texts names args) (tokenLists names args) := by
  induction args with
  | nil => exact .nil
  | cons a args ih => exact .cons (h a (by simp)) (ih fun b hb => h b (by simp [hb]))

/-- A readable expression is written as its lexemes. -/
theorem writes (h : e.Readable names) : Writes (e.text names) (e.tokens names) := by
  induction h with
  | intLit value => exact .decimal value
  | var hname => exact .word hname.plain
  | paren _ ih =>
    have := ih.enclosed (m := "(") (n := ")") (by decide) (by decide)
    simpa only [text, tokens, String.append_assoc] using this
  | deref h _ ih => exact ih.mark (by decide) fun rest _ => h.markEnds_star rest
  | addressOf h htight ih => exact ih.mark (by decide) fun rest _ => h.markEnds_ampersand htight rest
  | index _ _ _ ih ihoffset =>
    have hoffset := ihoffset.enclosed (m := "[") (n := "]") (by decide) (by decide)
    have := ih.append hoffset (endsWord_append _ rfl (by decide))
    simpa only [text, tokens, String.append_assoc] using this
  | @binary op left right hleft hright _ _ ih ihright =>
    by_cases hop : op = .mul
    · subst hop
      have hstar := ihright.mark (m := "*") (by decide) fun rest _ => hright.markEnds_star rest
      have := ih.append hstar (endsWord_append _ rfl (by decide))
      simpa only [text, tokens, String.append_assoc, BinaryOp.between, BinaryOp.spelling] using this
    · refine ih.between op.spelling op.between ?_ ?_ ihright
      · cases op <;> first | exact absurd rfl hop | rfl
      · cases op <;> decide
  | cond _ _ _ _ _ ih ihyes ihno =>
    have hno := ihyes.between ":" " : " rfl (by decide) ihno
    have htest := ih.between "?" " ? " rfl (by decide) hno
    simpa only [text, tokens, String.append_assoc] using htest
  | assign _ _ _ ih ihvalue => exact ih.between "=" " = " rfl (by decide) ihvalue
  | count _ _ ih =>
    simpa only [text, tokens, if_true] using ih.closed (m := "++") (by decide)
  | cast htype h _ ih =>
    have hoperand := ih.alone (m := ")") (by decide)
    have htypeWord := (Writes.word htype.plain).append hoperand (endsWord_append _ rfl (by decide))
    have := htypeWord.alone (m := "(") (by decide)
    simpa only [text, tokens, String.append_assoc, List.cons_append, List.nil_append] using this
  | call _ _ _ ih ihargs =>
    have hargs := (Writes.commas (forall₂_writes ihargs)).enclosed (m := "(") (n := ")")
      (by decide) (by decide)
    have := ih.append hargs (endsWord_append _ rfl (by decide))
    simpa only [text, tokens, String.append_assoc] using this

end Expr.Readable

/-! ### Lines -/

/-- A line ends with a character that is seen. -/
def EndsSeen (line : String) : Prop := ∃ cs c, line.toList = cs ++ [c] ∧ Text.isBlank c = false

/-- Lines that are written as lexemes, each ending with one. -/
inductive WritesLines : List String → List Token → Prop
  | nil : WritesLines [] []
  | cons {line : String} {lines : List String} {ts us : List Token} (h : Writes line ts)
      (hseen : EndsSeen line) (hlines : WritesLines lines us) : WritesLines (line :: lines) (ts ++ us)

/-- What stands in front of a line does not change how it ends. -/
theorem EndsSeen.append {line : String} (h : EndsSeen line) (a : String) : EndsSeen (a ++ line) := by
  obtain ⟨cs, c, hcs, hc⟩ := h
  exact ⟨a.toList ++ cs, c, by simp [hcs], hc⟩

/-- The pieces that lines of kernel bodies end with end with a character that is seen. -/
theorem endsSeen_piece {m : String} (hm : m ∈ [";", ",", ")", "\x7b", "\x7d", "parallel"]) :
    EndsSeen m := by
  have hseen : ∀ m ∈ [";", ",", ")", "\x7b", "\x7d", "parallel"],
      m.toList = m.toList.dropLast ++ [m.toList.getLast?.getD ' '] ∧
        m.toList.getLast?.getD ' ' ∈ [';', ',', ')', '{', '}', 'l'] := by decide
  obtain ⟨hlist, hlast⟩ := hseen m hm
  refine ⟨_, _, hlist, ?_⟩
  generalize m.toList.getLast?.getD ' ' = c at hlast
  simp only [List.mem_cons, List.not_mem_nil, or_false] at hlast
  rcases hlast with rfl | rfl | rfl | rfl | rfl | rfl <;>
    simp [Text.isBlank, Text.inRanges, Text.blankTable]

namespace WritesLines

variable {lines lines' : List String} {ts us : List Token}

/-- One line. -/
theorem single {line : String} (h : Writes line ts) (hseen : EndsSeen line) : WritesLines [line] ts := by
  simpa using WritesLines.cons h hseen .nil

/-- Lines below others. -/
theorem append (h : WritesLines lines ts) (h' : WritesLines lines' us) :
    WritesLines (lines ++ lines') (ts ++ us) := by
  induction h with
  | nil => exact h'
  | cons hline hseen _ ih =>
    rw [List.cons_append, List.append_assoc]
    exact .cons hline hseen ih

/-- Lines keep their lexemes when they are moved to the right. -/
theorem padded {pad : String} (hpad : ∀ c ∈ pad.toList, c = ' ') (h : WritesLines lines ts) :
    WritesLines (lines.map (pad ++ ·)) ts := by
  induction h with
  | nil => exact .nil
  | cons hline hseen _ ih => exact .cons (hline.padded hpad) (hseen.append pad) ih

/-- Lines keep their lexemes at the next level. -/
theorem shifted (h : WritesLines lines ts) : WritesLines (Code.shifted lines) ts :=
  h.padded (by simp)

/-- The lexemes of the lines with line feeds between them. -/
theorem cuts (h : WritesLines lines ts) : Cuts ("\n".intercalate lines).toList ts := by
  induction h with
  | nil => exact .nil
  | @cons line lines ts us hline _ hlines ih =>
    cases hlines with
    | nil => simpa using hline.cuts
    | cons =>
      rw [String.intercalate_cons_cons, String.append_assoc, String.toList_append]
      have := hline.cuts.line ih
      simpa using this

end WritesLines

/-- The blanks that fill a line up to a place. -/
theorem toList_pushn (n : Nat) : ∀ c ∈ ("".pushn ' ' n).toList, c = ' ' := by
  rw [String.pushn_eq_repeat_push]
  induction n with
  | zero => simp [Nat.repeat]
  | succ n ih => simpa [Nat.repeat, or_imp, forall_and] using ih

/-- A separated list in two parts. -/
theorem intercalate_append {α : Type} (sep : List α) (lists lists' : List (List α)) (h : lists ≠ [])
    (h' : lists' ≠ []) :
    sep.intercalate (lists ++ lists') = sep.intercalate lists ++ sep ++ sep.intercalate lists' := by
  induction lists with
  | nil => exact absurd rfl h
  | cons l lists ih =>
    cases lists with
    | nil => simp [List.intercalate_cons_of_ne_nil h']
    | cons l' lists =>
      rw [List.cons_append, List.intercalate_cons_of_ne_nil (by simp), ih (by simp),
        List.intercalate_cons_cons]
      simp only [List.append_assoc]

/-- An expression as a statement: a call with many arguments takes two lines. -/
theorem Expr.Readable.writesLines {e : Expr} (h : e.Readable names) :
    WritesLines (e.lines names) (e.tokens names ++ [mark ";"]) := by
  have hone : WritesLines [e.text names ++ ";"] (e.tokens names ++ [mark ";"]) :=
    .single (h.writes.closed (by decide)) ((endsSeen_piece (by decide)).append _)
  cases h with
  | @call callee args hcallee hargs _ =>
    have hall := forall₂_writes fun a ha => (hargs a ha).writes
    have hfirst := Writes.commas (List.forall₂_take firstArguments hall)
    have hothers := Writes.commas (List.forall₂_drop firstArguments hall)
    simp only [lines, List.splitAt_eq]
    split
    · rename_i hempty
      have hshort := List.drop_eq_nil_iff.mp (List.isEmpty_iff.mp hempty)
      simpa [text, List.take_of_length_le hshort, String.append_assoc] using hone
    · rename_i hempty
      have hlong : firstArguments < (tokenLists names args).length := by
        simpa [hall.length_eq] using hempty
      have hlists := intercalate_append [mark ","] ((tokenLists names args).take firstArguments)
        ((tokenLists names args).drop firstArguments)
        (List.ne_nil_of_length_pos (by simp only [List.length_take, firstArguments] at hlong ⊢; omega))
        (List.ne_nil_of_length_pos (by rw [List.length_drop]; omega))
      rw [List.take_append_drop] at hlists
      have hfirstLine := hcallee.writes.append
        ((hfirst.closed (m := ",") (by decide)).alone (m := "(") (by decide))
        (endsWord_append _ rfl (by decide))
      have hsecondLine := ((hothers.closed (m := ")") (by decide)).closed (m := ";") (by decide)).padded
        (toList_pushn (callee.text names ++ "(").length)
      have hlines := (WritesLines.single hfirstLine
        ((((endsSeen_piece (by decide)).append _).append "(").append _)).append
        (.single hsecondLine (((endsSeen_piece (by decide)).append _).append _))
      simpa [tokens, hlists, String.append_assoc] using hlines
  | _ => exact hone

/-- A readable variable is written as its lexemes. -/
theorem Variable.Readable.writes {type : CType} {v : Variable} (h : v.Readable names type) :
    Writes (v.text names) (v.tokens names) := by
  obtain ⟨name, _, _, init⟩ := v
  cases init with
  | none => exact .word h.name.plain
  | some e => exact (Writes.word h.name.plain).between "=" " = " rfl (by decide) (h.init e rfl).writes

/-- A readable declaration without its semicolon is written as its lexemes. -/
theorem declarationText_writes {type : CType} {v : Variable} {vars : List Variable}
    (htype : names.Spells type) (h : ∀ w ∈ v :: vars, w.Readable names type) :
    Writes (declarationText names (v :: vars))
      (word (v.type.spelling names) :: variableTokens names (v :: vars)) := by
  have hall {vars : List Variable} (h : ∀ w ∈ vars, w.Readable names type) :
      List.Forall₂ Writes (vars.map (·.text names)) (vars.map (·.tokens names)) := by
    induction vars with
    | nil => exact .nil
    | cons w vars ih => exact .cons (h w (by simp)).writes (ih fun u hu => h u (by simp [hu]))
  have hv := h v (by simp)
  have hlist := (Writes.word (hv.type ▸ htype.plain)).append (Writes.commas (hall h)).blank
    (endsWord_append _ rfl (by decide))
  simpa [declarationText, hv.isConst, variableTokens, String.append_assoc] using hlist

/-- Statements are written as their lexemes, one after the other. -/
theorem allLines_writes {body : List Stmt}
    (h : ∀ s ∈ body, WritesLines (s.lines names) (s.tokens names)) :
    WritesLines (Stmt.allLines names body) (Stmt.allTokens names body) := by
  induction body with
  | nil => exact .nil
  | cons s body ih => exact (h s (by simp)).append (ih fun r hr => h r (by simp [hr]))

namespace Stmt.Readable

/-- A readable statement is written as its lexemes. -/
theorem writesLines {s : Stmt} (h : s.Readable names) :
    WritesLines (s.lines names) (s.tokens names) := by
  induction h with
  | expr h => exact h.writesLines
  | declare htype h =>
    exact .single ((declarationText_writes htype h).closed (by decide))
      ((endsSeen_piece (by decide)).append _)
  | block h ih =>
    have hopen := Writes.single (m := "\x7b") (by decide)
    have hclose := Writes.single (m := "\x7d") (by decide)
    have := (WritesLines.single hopen (endsSeen_piece (by decide))).append
      ((allLines_writes ih).shifted.append (.single hclose (endsSeen_piece (by decide))))
    simpa [lines, tokens] using this
  | ifElse htest _ ih =>
    have hhead := htest.writes.head "if" "if (" rfl (by decide)
    have := WritesLines.cons hhead (((endsSeen_piece (by decide)).append _).append _) ih.shifted
    simpa [lines, tokens, String.append_assoc] using this
  | «for» hinit htest hstep _ _ ih =>
    cases hinit with
    | declare htype h =>
      have htwo := (declarationText_writes htype h).apart ";" "; " rfl (by decide) htest.writes
      have hthree := htwo.apart ";" "; " rfl (by decide) hstep.writes
      have hhead := hthree.head "for" "for (" rfl (by decide)
      have := WritesLines.cons hhead (((endsSeen_piece (by decide)).append _).append _) ih.shifted
      simpa [lines, tokens, headText, optionalText, variableTokens, String.append_assoc] using this
  | parallel _ ih =>
    have hpragma : Writes "#pragma omp parallel"
        [mark "#", word "pragma", word "omp", word "parallel"] := by
      have hparallel := Writes.word (a := "parallel") (by decide)
      have homp := (Writes.word (a := "omp") (by decide)).append hparallel.blank (by decide)
      have hwords := (Writes.word (a := "pragma") (by decide)).append homp.blank (by decide)
      exact hwords.mark (m := "#") (by decide) fun rest _ c hc => by
        obtain rfl : 'p' = c := by simpa using hc
        decide
    have hseen := (endsSeen_piece (m := "parallel") (by decide)).append "#pragma omp "
    exact WritesLines.cons hpragma hseen ih

end Stmt.Readable

/-- A readable body is read back from its text, under all rules for lexemes. -/
theorem readBody_bodyText {body : List Stmt} (h : ∀ s ∈ body, s.Readable names) (rules : LexemeRules)
    (trigraphs : Bool) : readBody names rules trigraphs (bodyText names body) = some body :=
  readBody_of_tokensOf h
    ((allLines_writes fun s hs => (h s hs).writesLines).cuts.tokensOf rules trigraphs)

/-- Readable bodies with one text are one body. -/
theorem bodyText_injective {body body' : List Stmt} (h : ∀ s ∈ body, s.Readable names)
    (h' : ∀ s ∈ body', s.Readable names) (htext : bodyText names body = bodyText names body') :
    body = body' := by
  have hread := readBody_bodyText h .usual false
  rw [htext, readBody_bodyText h' .usual false] at hread
  exact (Option.some.inj hread).symm

/-! ### Indented bodies -/

/-- A line is collected up to its line feed. -/
theorem linesFrom_append {cs : List Char} (h : '\n' ∉ cs) (line rest : List Char) :
    Text.linesFrom line (cs ++ rest) = Text.linesFrom (cs.reverse ++ line) rest := by
  induction cs generalizing line with
  | nil => rfl
  | cons c cs ih =>
    obtain ⟨hc, hcs⟩ := not_or.mp (List.mem_cons.not.mp h)
    rw [List.cons_append, Text.linesFrom, if_neg (Ne.symm hc), ih hcs]
    simp

namespace EndsSeen

variable {line : String}

/-- Such a line ends with no carriage return. -/
theorem dropReturn (h : EndsSeen line) : Text.dropReturn line.toList = line.toList := by
  obtain ⟨cs, c, hcs, hc⟩ := h
  rw [Text.dropReturn, if_neg]
  rw [hcs, List.getLast?_concat]
  rintro heq
  obtain rfl := Option.some.inj heq
  simp [Text.isBlank, Text.inRanges, Text.blankTable] at hc

/-- Indenting such a line puts blanks in front of it and takes none away behind it. -/
theorem indentLine (h : EndsSeen line) (depth : Nat) : Text.indentLine depth line.toList =
    (List.replicate depth Text.indentUnit).flatten ++ line.toList := by
  obtain ⟨cs, c, hcs, hc⟩ := h
  rw [Text.indentLine, if_neg (by simp [hcs, hc]), Text.trimEnd, hcs]
  simp [hc]

end EndsSeen

namespace WritesLines

variable {lines : List String} {ts : List Token}

/-- A text has the lines that it is made of. -/
theorem lines_eq (h : WritesLines lines ts) :
    Text.lines ("\n".intercalate lines).toList = lines.map String.toList := by
  induction h with
  | nil => rfl
  | @cons line lines _ _ hline hseen hlines ih =>
    cases hlines with
    | nil =>
      obtain ⟨cs, c, hcs, -⟩ := hseen
      have := linesFrom_append hline.oneLine [] []
      rw [List.append_nil] at this
      rw [String.intercalate_singleton, Text.lines, this]
      simp [Text.linesFrom, hcs]
    | @cons line' lines =>
      rw [String.intercalate_cons_cons, String.append_assoc, String.toList_append, Text.lines,
        linesFrom_append hline.oneLine, String.toList_append, List.map_cons, ← ih]
      have hfeed (rest : List Char) : Text.linesFrom (line.toList.reverse ++ []) ("\n".toList ++ rest) =
          Text.dropReturn line.toList :: Text.linesFrom [] rest := by
        change Text.linesFrom _ ('\n' :: rest) = _
        rw [Text.linesFrom, if_pos rfl, List.append_nil, List.reverse_reverse]
      rw [hfeed, hseen.dropReturn, Text.lines]

/-- Indenting a body moves all its lines to the right. -/
theorem indent_eq (h : WritesLines lines ts) (depth : Nat) :
    Text.indent depth ("\n".intercalate lines) = "\n".intercalate
      (lines.map (String.ofList (List.replicate depth Text.indentUnit).flatten ++ ·)) := by
  have hseen : ∀ line ∈ lines, EndsSeen line := by
    induction h with
    | nil => simp
    | cons _ hseen _ ih => exact List.forall_mem_cons.mpr ⟨hseen, ih⟩
  have hlines : (lines.map String.toList).map (Text.indentLine depth) = (lines.map
      (String.ofList (List.replicate depth Text.indentUnit).flatten ++ ·)).map String.toList := by
    simp only [List.map_map]
    refine List.map_congr_left fun line hline => ?_
    simp [(hseen line hline).indentLine depth]
  rw [Text.indent, h.lines_eq, hlines, ← String.toList_inj, String.toList_ofList,
    String.toList_intercalate]
  rfl

end WritesLines

/-- An indented body is still read back. -/
theorem readBody_indent {body : List Stmt} (h : ∀ s ∈ body, s.Readable names) (depth : Nat)
    (rules : LexemeRules) (trigraphs : Bool) :
    readBody names rules trigraphs (Text.indent depth (bodyText names body)) = some body := by
  have hlines := allLines_writes fun s hs => (h s hs).writesLines
  rw [bodyText, hlines.indent_eq depth]
  refine readBody_of_tokensOf h ((hlines.padded fun c hc => ?_).cuts.tokensOf rules trigraphs)
  rw [String.toList_ofList] at hc
  obtain ⟨_, hunit, hc⟩ := List.mem_flatten.mp hc
  rw [List.eq_of_mem_replicate hunit] at hc
  simpa [Text.indentUnit] using hc

end KernelForge.Code
