import KernelForge.Compiler.Lexeme
import Mathlib.Data.List.Chain
import Mathlib.Data.List.Find
import Mathlib.Tactic.FinCases

/-!
# Cutting plain texts into lexemes

Kernel bodies are plain texts: names and decimal numbers of ASCII letters, a few marks, and blanks. A
cut of such a text says piece by piece which lexemes it has. Every name and number ends before a letter
that cannot continue it, and every mark before a letter that makes no longer mark of it, so the cut is
what the compiler finds, under all rules and with or without trigraphs.
-/

namespace KernelForge.Compiler

/-- A lexeme without its place: its kind and its spelling. -/
structure Token where
  kind : LexemeKind
  text : String
  deriving DecidableEq, Repr

/-- What a lexeme is wherever it stands. -/
def Lexeme.token (a : Lexeme) : Token := ⟨a.kind, a.text⟩

/-- The lexemes of a text in order, without their places. -/
def tokensOf (rules : LexemeRules) (trigraphs : Bool) (text : String) :
    Except Refusal (List Token) := do
  let lines ← lexemeLines rules trigraphs text
  return lines.toList.flatten.map Lexeme.token

/-- The letters of plain names and numbers. -/
def isPlain (c : Char) : Bool := c.isAlphanum || c = '_'

/-- What begins a plain name is a plain letter. -/
theorem isPlain_of_begins {c : Char} (h : c.isAlpha ∨ c = '_') : isPlain c := by
  rcases h with h | h <;> simp [isPlain, Char.isAlphanum, h]

/-- Digits are plain letters. -/
theorem isPlain_of_isDigit {c : Char} (h : c.isDigit) : isPlain c := by
  simp [isPlain, Char.isAlphanum, h]

/-- Names of plain letters that are not too long. -/
def isPlainName (text : String) : Bool :=
  match text.toList with
  | [] => false
  | c :: letters => (c.isAlpha || c = '_') && letters.all isPlain && letters.length ≤ longestName

/-- What a plain name is made of. -/
theorem isPlainName_iff {text : String} : isPlainName text ↔ ∃ c letters, text.toList = c :: letters ∧
    (c.isAlpha ∨ c = '_') ∧ (∀ d ∈ letters, isPlain d) ∧ letters.length ≤ longestName := by
  unfold isPlainName
  cases text.toList <;> simp [and_assoc]

/-- The letters that stand behind plain names and numbers. -/
def wordEnds : List Char := [' ', '\n', '(', ')', '[', ']', '*', '+', ',', ';']

/-- Letters in front of which a name or a number ends. -/
def EndsWord (rest : List Char) : Prop := ∀ c ∈ rest.head?, c ∈ wordEnds

-- The one letter is looked at, not every letter there is.
instance : (rest : List Char) → Decidable (EndsWord rest)
  | [] => isTrue (by simp [EndsWord])
  | c :: rest => decidable_of_iff (c ∈ wordEnds) (by simp [EndsWord])

/-- The marks of plain texts. -/
def plainMarks : List (List Char) :=
  ["(", ")", "[", "]", "\x7b", "\x7d", ",", ";", "?", ":", "#", "*", "/", "%", "+", "-", "<", ">", "<=",
    ">=", "==", "!=", "&", "^", "|", "<<", ">>", "=", "++"].map String.toList

/-- Whether a mark ends before a letter: the two begin no longer mark, no comment and no trigraph. -/
def markEnds (mark : List Char) (c : Char) : Bool :=
  longMarks.all (fun long => !(mark ++ [c]).isPrefixOf long) &&
    !(mark = ['/'] && (c = '/' || c = '*')) && !(mark = ['?'] && c = '?')

/-- How a plain text is cut into lexemes. -/
inductive Cuts : List Char → List Token → Prop
  | nil : Cuts [] []
  | blank {c : Char} {rest : List Char} {ts : List Token} (hc : c ∈ [' ', '\n']) (h : Cuts rest ts) :
      Cuts (c :: rest) ts
  | name {c : Char} {letters rest : List Char} {ts : List Token} (hc : c.isAlpha ∨ c = '_')
      (hletters : ∀ d ∈ letters, isPlain d) (hlength : letters.length ≤ longestName)
      (hend : EndsWord rest) (h : Cuts rest ts) :
      Cuts (c :: (letters ++ rest)) (⟨.name, String.ofList (c :: letters)⟩ :: ts)
  | number {c : Char} {digits rest : List Char} {ts : List Token} (hc : c.isDigit)
      (hdigits : ∀ d ∈ digits, d.isDigit) (hend : EndsWord rest) (h : Cuts rest ts) :
      Cuts (c :: (digits ++ rest)) (⟨.number, String.ofList (c :: digits)⟩ :: ts)
  | mark {mark rest : List Char} {ts : List Token} (hmark : mark ∈ plainMarks)
      (hend : ∀ c ∈ rest.head?, markEnds mark c) (h : Cuts rest ts) :
      Cuts (mark ++ rest) (⟨.mark, String.ofList mark⟩ :: ts)

/-- Two plain texts on different lines. -/
theorem Cuts.line {cs ds : List Char} {ts us : List Token} (h : Cuts cs ts) (h' : Cuts ds us) :
    Cuts (cs ++ '\n' :: ds) (ts ++ us) := by
  have hword {rest : List Char} (hend : EndsWord rest) : EndsWord (rest ++ '\n' :: ds) := by
    cases rest with
    | nil => simp [EndsWord, wordEnds]
    | cons c rest => exact hend
  induction h with
  | nil => exact .blank (by simp) h'
  | blank hc _ ih => exact .blank hc ih
  | name hc hletters hlength hend _ ih =>
    rw [List.cons_append, List.append_assoc]
    exact .name hc hletters hlength (hword hend) ih
  | number hc hdigits hend _ ih =>
    rw [List.cons_append, List.append_assoc]
    exact .number hc hdigits (hword hend) ih
  | @mark mark rest _ hmark hend _ ih =>
    rw [List.append_assoc]
    refine .mark hmark (fun c hc => ?_) ih
    cases rest with
    | nil =>
      have hline : ∀ mark ∈ plainMarks, markEnds mark '\n' = true := by decide
      obtain rfl : '\n' = c := by simpa using hc
      exact hline _ hmark
    | cons d rest => exact hend c hc

/-! ### One lexeme -/

section Next

variable (rules : LexemeRules)

/-- Plain letters continue a name under all rules. -/
theorem continuesName_of_isPlain {c : Char} (h : isPlain c) : rules.continuesName c = true := by
  simp only [isPlain, Bool.or_eq_true, decide_eq_true_eq] at h
  rcases h with h | h <;> simp [LexemeRules.continuesName, h]

/-- What stands behind a word does not continue it, and is no backslash. -/
theorem wordEnds_spec {c : Char} (h : c ∈ wordEnds) :
    rules.continuesName c = false ∧ c ≠ '\\' ∧ c ≠ '"' ∧ c ≠ '\'' ∧ c ≠ '.' := by
  fin_cases h <;> exact ⟨rfl, by decide, by decide, by decide, by decide⟩

/-- Only a backslash begins a letter that is written by its number. -/
theorem numberedLetter?_eq_none {a : Letter} (rest : List Letter) (h : a.char ≠ '\\') :
    numberedLetter? (a :: rest) = none := by
  cases rest with
  | nil => rfl
  | cons b rest => simp [numberedLetter?, h]

/-- The letters of a plain name are all found. -/
theorem nameLetters_append {rest : List Letter} (hend : EndsWord (rest.map Letter.char))
    (found done : List Letter) (fuel : Nat) (hfound : ∀ a ∈ found, isPlain a.char)
    (hfuel : found.length ≤ fuel) :
    nameLetters rules fuel done (found ++ rest) = (done.reverse ++ found, rest) := by
  induction found generalizing done fuel with
  | nil =>
    cases fuel with
    | zero => simp [nameLetters]
    | succ fuel =>
      cases rest with
      | nil => simp [nameLetters]
      | cons a rest =>
        obtain ⟨hnot, hslash, -⟩ := wordEnds_spec rules (hend a.char (by simp))
        simp [nameLetters, hnot, numberedLetter?_eq_none rest hslash]
  | cons a found ih =>
    cases fuel with
    | zero => simp at hfuel
    | succ fuel =>
      have ha := continuesName_of_isPlain rules (hfound a (by simp))
      rw [List.cons_append, nameLetters, if_pos ha,
        ih (a :: done) fuel (fun b hb => hfound b (by simp [hb])) (by simpa using hfuel)]
      simp

/-- The digits of a plain number are all found. -/
theorem numberLetters?_append {rest : List Letter} (hend : EndsWord (rest.map Letter.char))
    (found done : List Letter) (last : Letter) (hlast : last.char.isDigit)
    (hfound : ∀ a ∈ found, a.char.isDigit) :
    numberLetters? rules (last :: done) (found ++ rest) = (found.reverse ++ last :: done, rest) := by
  have hexponent {c : Char} (h : c.isDigit) : "eEpP".toList.contains c = false := by
    simp only [List.contains_eq_mem, decide_eq_false_iff_not,
      show "eEpP".toList = ['e', 'E', 'p', 'P'] from rfl]
    intro hmem
    fin_cases hmem <;> exact absurd h (by decide)
  induction found generalizing done last with
  | nil =>
    cases rest with
    | nil => simp [numberLetters?]
    | cons a rest =>
      obtain ⟨hnot, -, -, hquote, hdot⟩ := wordEnds_spec rules (hend a.char (by simp))
      simp only [List.nil_append, numberLetters?, List.head?_cons, Option.any_some, hexponent hlast,
        Bool.and_false, Bool.false_eq_true, if_false, hnot, hquote, hdot, decide_false,
        Bool.or_self, Bool.false_and, List.reverse_nil]
  | cons a found ih =>
    have ha := hfound a (by simp)
    have hplain := continuesName_of_isPlain rules (isPlain_of_isDigit ha)
    rw [List.cons_append, numberLetters?]
    simp only [List.head?_cons, Option.any_some, hexponent hlast, Bool.and_false, Bool.false_eq_true,
      if_false, hplain, Bool.true_or, if_true]
    rw [ih (last :: done) a ha (fun b hb => hfound b (by simp [hb]))]
    simp

/-- What a plain mark begins with: nothing that begins another kind of lexeme. -/
theorem plainMarks_head {mark : List Char} (h : mark ∈ plainMarks) :
    ∃ c tail, mark = c :: tail ∧ c ∉ [' ', '\n', '\\', '"', '\'', '.'] ∧ isSpace c = false ∧
      rules.startsName c = false ∧ c.isDigit = false ∧ (c = '/' → tail = []) := by
  simp only [plainMarks, List.map_cons, List.map_nil] at h
  fin_cases h <;> exact ⟨_, _, rfl, by decide, rfl, rfl, rfl, by decide⟩

/-- A mark of several letters begins the text exactly if it begins the mark that ends there. -/
theorem isPrefixOf_take {mark rest long : List Char} (hlong : long ∈ longMarks)
    (hend : ∀ c ∈ rest.head?, markEnds mark c) :
    long.isPrefixOf ((mark ++ rest).take 4) = long.isPrefixOf mark := by
  have hlength : long.length ≤ 4 := by
    revert long
    decide
  rw [Bool.eq_iff_iff, List.isPrefixOf_iff_prefix, List.isPrefixOf_iff_prefix, List.prefix_take_iff]
  refine ⟨fun ⟨h, _⟩ => ?_, fun h => ⟨h.trans (List.prefix_append _ _), hlength⟩⟩
  by_cases hle : long.length ≤ mark.length
  · exact List.prefix_of_prefix_length_le h (List.prefix_append _ _) hle
  -- A longer one would begin with the mark and the letter behind it.
  · cases rest with
    | nil => exact absurd (List.append_nil mark ▸ h).length_le hle
    | cons c rest =>
      have hsame : mark ++ [c] <+: long :=
        List.prefix_of_prefix_length_le (by simp) h (by simp; omega)
      have hc := hend c (by simp)
      simp only [markEnds, Bool.and_eq_true, List.all_eq_true, Bool.not_eq_true'] at hc
      have hno := hc.1.1 long hlong
      rw [List.isPrefixOf_iff_prefix.mpr hsame] at hno
      cases hno

/-- A plain mark is found where it ends, whether second spellings are known or not. -/
theorem find?_longMarks {mark rest : List Char} (hmark : mark ∈ plainMarks)
    (hend : ∀ c ∈ rest.head?, markEnds mark c) (digraphs : Bool) :
    (longMarks.find? fun m => m.isPrefixOf ((mark ++ rest).take 4) && (digraphs || !isDigraph m)) =
      if mark.length = 1 then none else some mark := by
  rw [List.find?_congr fun m hm => by rw [isPrefixOf_take hm hend]]
  clear hend
  revert digraphs mark
  decide

/-- A plain name is the next lexeme. -/
theorem nextLexeme_name {a : Letter} {found rest : List Letter} (blank : Bool)
    (ha : a.char.isAlpha ∨ a.char = '_') (hfound : ∀ b ∈ found, isPlain b.char)
    (hlength : found.length ≤ longestName) (hend : EndsWord (rest.map Letter.char)) :
    nextLexeme rules blank a (found ++ rest) =
      (⟨.name, textOf (a :: found), a.line, blank, false, []⟩, rest) := by
  have hslash : a.char ≠ '\\' := by
    rintro h
    rw [h] at ha
    revert ha
    decide
  have hstarts : rules.startsName a.char = true := by
    rcases ha with h | h <;> simp [LexemeRules.startsName, h]
  rw [nextLexeme]
  simp only [numberedLetter?_eq_none _ hslash, Option.getD_none, hstarts, if_true,
    nameLetters_append rules hend found [a] longestName hfound hlength, List.reverse_singleton,
    List.singleton_append]
  cases rest with
  | nil => rfl
  | cons b rest =>
    obtain ⟨-, -, hdouble, hsingle, -⟩ := wordEnds_spec rules (hend b.char (by simp))
    simp [hdouble, hsingle]

/-- A digit begins no name, and is no backslash. -/
theorem digit_spec {c : Char} (h : c.isDigit) : c ≠ '\\' ∧ rules.startsName c = false := by
  have hval : 48 ≤ c.toNat ∧ c.toNat ≤ 57 := by
    simpa [Char.isDigit, UInt32.le_iff_toNat_le] using h
  have hne (d : Char) (hd : 57 < d.toNat ∨ d.toNat < 48) : c ≠ d := by
    rintro rfl
    omega
  have hbelow (lo : UInt32) (hlo : 57 < lo.toNat) : ¬ c.val ≥ lo := by
    rw [ge_iff_le, UInt32.le_iff_toNat_le, c.toNat_val]
    omega
  have hupper : c.isUpper = false := decide_eq_false fun h => hbelow 'A'.val (by decide) h.1
  have hlower : c.isLower = false :=
    Bool.and_eq_false_iff.mpr (.inl (decide_eq_false (hbelow 'a'.val (by decide))))
  have halpha : c.isAlpha = false := Bool.or_eq_false_iff.mpr ⟨hupper, hlower⟩
  have hwide : ¬ 0x80 ≤ c.toNat := by omega
  exact ⟨hne _ (by decide),
    by simp [LexemeRules.startsName, halpha, hne '_' (by decide), hne '$' (by decide), hwide]⟩

/-- A plain number is the next lexeme. -/
theorem nextLexeme_number {a : Letter} {found rest : List Letter} (blank : Bool)
    (ha : a.char.isDigit) (hfound : ∀ b ∈ found, b.char.isDigit)
    (hend : EndsWord (rest.map Letter.char)) :
    nextLexeme rules blank a (found ++ rest) =
      (⟨.number, textOf (a :: found), a.line, blank, false, []⟩, rest) := by
  obtain ⟨hslash, hstarts⟩ := digit_spec rules ha
  rw [nextLexeme]
  simp [numberedLetter?_eq_none _ hslash, hstarts, ha,
    numberLetters?_append rules hend found [] a ha hfound]

/-- Plain marks have their usual spelling, and those of one letter are marks by themselves. -/
theorem plainMarks_text {mark : List Char} (h : mark ∈ plainMarks) :
    usualSpelling (String.ofList mark) = String.ofList mark ∧
      ∀ c, mark = [c] → shortMarks.contains c = true := by
  simp only [plainMarks, List.map_cons, List.map_nil] at h
  fin_cases h <;> exact ⟨by decide, fun c hc => by cases hc <;> decide⟩

/-- A plain mark is the next lexeme. -/
theorem nextLexeme_mark {a : Letter} {found rest : List Letter} (blank : Bool)
    (hmark : a.char :: found.map Letter.char ∈ plainMarks)
    (hend : ∀ c ∈ (rest.map Letter.char).head?, markEnds (a.char :: found.map Letter.char) c) :
    nextLexeme rules blank a (found ++ rest) =
      (⟨.mark, textOf (a :: found), a.line, blank, false, []⟩, rest) := by
  obtain ⟨c, tail, hcons, hc, -, hstarts, hdigit, -⟩ := plainMarks_head rules hmark
  obtain ⟨rfl, rfl⟩ := List.cons.inj hcons
  simp only [List.mem_cons, List.not_mem_nil, or_false, not_or] at hc
  obtain ⟨-, -, hslash, hdouble, hsingle, hdot⟩ := hc
  have hahead : (a :: (found ++ rest).take 3).map Letter.char =
      (a.char :: found.map Letter.char ++ rest.map Letter.char).take 4 := by simp
  rw [nextLexeme]
  simp only [numberedLetter?_eq_none _ hslash, Option.getD_none, hstarts, hdigit, hdouble, hsingle,
    hdot, hahead, find?_longMarks hmark hend]
  obtain ⟨husual, hshort⟩ := plainMarks_text hmark
  cases found with
  | nil => simpa [textOf] using hshort a.char rfl
  | cons b found =>
    rw [List.map_cons] at husual
    simp [textOf, husual, -String.ofList_cons]

end Next

/-! ### A whole text -/

section Whole

variable {rules : LexemeRules} {a : Letter} {rest : List Letter}

/-- Plain letters are no blanks and begin no comment. -/
theorem isPlain_begins {c : Char} (h : isPlain c) : c ≠ '\n' ∧ isSpace c = false ∧ c ≠ '/' := by
  have hno : ∀ d ∈ ['\n', '/', ' ', '\t', '\x0b', '\x0c', '\x00'], c ≠ d := by
    rintro d hd rfl
    fin_cases hd <;> cases h
  simp only [List.mem_cons, List.not_mem_nil, or_false, forall_eq_or_imp, forall_eq] at hno
  simp [isSpace, hno]

/-- The rest of a text adds its lexemes to the lines and the current line that are done. -/
def CutsInto (rules : LexemeRules) (fuel : Nat) (lines : Array (List Lexeme)) (line : List Lexeme)
    (blank : Bool) (input : List Letter) (ts : List Token) : Prop :=
  ∃ found, cutLetters rules fuel lines line blank input = .ok found ∧
    found.toList.flatten.map Lexeme.token =
      (lines.toList.flatten ++ line.reverse).map Lexeme.token ++ ts

/-- A letter that begins a lexeme, and no comment, adds it to the current line. -/
theorem CutsInto.lexeme {a : Letter} {rest behind : List Letter} {lexeme : Lexeme} {fuel : Nat}
    {lines : Array (List Lexeme)} {line : List Lexeme} {blank : Bool} {ts : List Token}
    (h : CutsInto rules fuel lines (lexeme :: line) false behind ts)
    (hnext : nextLexeme rules blank a rest = (lexeme, behind))
    (hline : a.char ≠ '\n') (hspace : isSpace a.char = false)
    (hcomment : a.char = '/' → ∀ b ∈ rest.head?, b.char ≠ '*' ∧ b.char ≠ '/') :
    CutsInto rules (fuel + 1) lines line blank (a :: rest) (lexeme.token :: ts) := by
  have hstar : (a.char = '/' && rest.head?.any (·.char = '*')) = false := by
    cases rest <;> grind
  have hslash : (a.char = '/' && rules.lineComments && rest.head?.any (·.char = '/')) = false := by
    cases rest <;> grind
  obtain ⟨found, hfound, htokens⟩ := h
  refine ⟨found, ?_, by simpa using htokens⟩
  rw [cutLetters, if_neg hline, hspace, hstar, hslash, hnext]
  exact hfound

/-- The compiler cuts a plain text as its cut says, into whatever lines. -/
theorem Cuts.cutsInto {cs : List Char} {ts : List Token} (h : Cuts cs ts) (rules : LexemeRules)
    {input : List Letter} (hinput : input.map Letter.char = cs) {fuel : Nat} (hfuel : input.length < fuel)
    (lines : Array (List Lexeme)) (line : List Lexeme) (blank : Bool) :
    CutsInto rules fuel lines line blank input ts := by
  induction h generalizing input fuel lines line blank with
  | nil =>
    obtain rfl := List.map_eq_nil_iff.mp hinput
    refine ⟨_, by rw [cutLetters], ?_⟩
    cases line <;> simp
  | blank hc _ ih =>
    obtain ⟨a, rest, rfl, rfl, hrest⟩ := List.map_eq_cons_iff.mp hinput
    obtain _ | fuel := fuel
    · omega
    rw [List.length_cons, Nat.succ_lt_succ_iff] at hfuel
    simp only [List.mem_cons, List.not_mem_nil, or_false] at hc
    rcases hc with hc | hc
    · rw [CutsInto, cutLetters, hc]
      exact ih hrest hfuel lines line true
    · rw [CutsInto, cutLetters, if_pos hc]
      simpa [CutsInto] using ih hrest hfuel (lines.push line.reverse) [] false
  | name hc hletters hlength hend _ ih =>
    obtain ⟨a, tail, rfl, rfl, htail⟩ := List.map_eq_cons_iff.mp hinput
    obtain ⟨found, behind, rfl, rfl, rfl⟩ := List.map_eq_append_iff.mp htail
    obtain _ | fuel := fuel
    · omega
    simp only [List.length_cons, List.length_append, List.length_map] at hfuel hlength
    obtain ⟨hline, hspace, hslash⟩ := isPlain_begins (isPlain_of_begins hc)
    have hnext := nextLexeme_name rules blank hc
      (fun b hb => hletters _ (List.mem_map_of_mem hb)) hlength hend
    exact (ih rfl (by omega) lines _ false).lexeme hnext hline hspace fun h => absurd h hslash
  | number hc hdigits hend _ ih =>
    obtain ⟨a, tail, rfl, rfl, htail⟩ := List.map_eq_cons_iff.mp hinput
    obtain ⟨found, behind, rfl, rfl, rfl⟩ := List.map_eq_append_iff.mp htail
    obtain _ | fuel := fuel
    · omega
    simp only [List.length_cons, List.length_append] at hfuel
    obtain ⟨hline, hspace, hslash⟩ := isPlain_begins (isPlain_of_isDigit hc)
    have hnext := nextLexeme_number rules blank hc
      (fun b hb => hdigits _ (List.mem_map_of_mem hb)) hend
    exact (ih rfl (by omega) lines _ false).lexeme hnext hline hspace fun h => absurd h hslash
  | mark hmark hend _ ih =>
    obtain ⟨c, letters, rfl, hc, hspace, -, -, hslash⟩ := plainMarks_head rules hmark
    obtain ⟨a, tail, rfl, rfl, htail⟩ := List.map_eq_cons_iff.mp hinput
    obtain ⟨found, behind, rfl, rfl, rfl⟩ := List.map_eq_append_iff.mp htail
    obtain _ | fuel := fuel
    · omega
    simp only [List.length_cons, List.length_append] at hfuel
    have hnext := nextLexeme_mark rules blank hmark hend
    refine (ih rfl (by omega) lines _ false).lexeme hnext (fun h => hc (by simp [h])) hspace ?_
    -- No mark but the one of division has a slash, and it ends before a comment.
    intro h b hb
    obtain rfl := List.map_eq_nil_iff.mp (hslash h)
    have hends : markEnds ['/'] b.char = true := by
      simpa [h] using hend b.char (by simpa using ⟨b, hb, rfl⟩)
    simp only [markEnds, Bool.and_eq_true] at hends
    have hboth : b.char ≠ '/' ∧ b.char ≠ '*' := by simpa using hends.1.2
    exact hboth.symm

/-- Another letter stands in no plain name or number. -/
theorem not_mem_of_isPlain {d : Char} (hd : isPlain d = false) {word rest : List Char}
    (hword : ∀ c ∈ word, isPlain c) (hrest : d ∉ rest) : d ∉ word ++ rest := by
  rw [List.mem_append, not_or]
  exact ⟨fun h => by simp [hword d h] at hd, hrest⟩

/-- A plain text has no carriage returns, backslashes and marks of the byte order. -/
theorem Cuts.not_mem {cs : List Char} {ts : List Token} (h : Cuts cs ts) :
    ∀ d ∈ ['\r', '\\', '\ufeff'], d ∉ cs := by
  intro d hd
  have hplain : isPlain d = false := by fin_cases hd <;> rfl
  induction h with
  | nil => simp
  | blank hc _ ih =>
    have hne : d ≠ ' ' ∧ d ≠ '\n' := by fin_cases hd <;> decide
    fin_cases hc <;> simp [ih, hne]
  | name hc hletters _ _ _ ih =>
    exact not_mem_of_isPlain hplain (List.forall_mem_cons.mpr ⟨isPlain_of_begins hc, hletters⟩) ih
  | number hc hdigits _ _ ih =>
    exact not_mem_of_isPlain hplain
      (List.forall_mem_cons.mpr ⟨isPlain_of_isDigit hc, fun c h => isPlain_of_isDigit (hdigits c h)⟩) ih
  | mark hmark _ _ ih =>
    have hno : ∀ mark ∈ plainMarks, d ∉ mark := by fin_cases hd <;> decide
    simp [hno _ hmark, ih]

/-- No two letters side by side are question marks. -/
def NoTrigraph (cs : List Char) : Prop := cs.IsChain fun c d => ¬ (c = '?' ∧ d = '?')

/-- Letters without question marks may stand before a text. -/
theorem NoTrigraph.append {rest : List Char} (hrest : NoTrigraph rest) (word : List Char)
    (h : '?' ∉ word) : NoTrigraph (word ++ rest) := by
  induction word with
  | nil => exact hrest
  | cons c word ih =>
    obtain ⟨hc, hword⟩ := not_or.mp (List.mem_cons.not.mp h)
    exact List.isChain_cons.mpr ⟨fun _ _ hboth => hc hboth.1.symm, ih hword⟩

/-- No two question marks stand side by side in a plain text. -/
theorem Cuts.noTrigraph {cs : List Char} {ts : List Token} (h : Cuts cs ts) : NoTrigraph cs := by
  have hnot {word : List Char} (h : ∀ c ∈ word, isPlain c) : '?' ∉ word := fun hmem =>
    absurd (h '?' hmem) (by decide)
  induction h with
  | nil => exact .nil
  | @blank c _ _ hc _ ih => exact ih.append [c] (by fin_cases hc <;> decide)
  | @name c letters _ _ hc hletters _ _ _ ih =>
    exact ih.append (c :: letters)
      (hnot (List.forall_mem_cons.mpr ⟨isPlain_of_begins hc, hletters⟩))
  | @number c digits _ _ hc hdigits _ _ ih =>
    exact ih.append (c :: digits)
      (hnot (List.forall_mem_cons.mpr
        ⟨isPlain_of_isDigit hc, fun c h => isPlain_of_isDigit (hdigits c h)⟩))
  | @mark mark rest _ hmark hend _ ih =>
    by_cases hquestion : mark = ['?']
    · obtain rfl := hquestion
      refine List.isChain_cons.mpr ⟨fun d hd hboth => ?_, ih⟩
      have hends := hend d hd
      rw [hboth.2] at hends
      exact absurd hends (by decide)
    · have hno : ∀ mark ∈ plainMarks, mark ≠ ['?'] → '?' ∉ mark := by decide
      exact ih.append mark (hno mark hmark hquestion)

/-! ### Letters -/

/-- A text without carriage returns has plain line ends. -/
theorem plainLineEnds_eq {cs : List Char} (h : '\r' ∉ cs) (done : List Char) :
    plainLineEnds done cs = done.reverse ++ cs := by
  induction cs generalizing done with
  | nil => simp [plainLineEnds]
  | cons c cs ih =>
    obtain ⟨hc, hcs⟩ := not_or.mp (List.mem_cons.not.mp h)
    rw [plainLineEnds, ih hcs]
    · simp
    · rintro _ rfl
      exact absurd rfl hc

/-- A text without two question marks side by side has no trigraphs. -/
theorem replaceTrigraphs_eq {cs : List Char} (h : NoTrigraph cs) (done : List Char) :
    replaceTrigraphs done cs = done.reverse ++ cs := by
  induction cs generalizing done with
  | nil => simp [replaceTrigraphs]
  | cons c cs ih =>
    obtain ⟨hc, hcs⟩ := List.isChain_cons.mp h
    rw [replaceTrigraphs, ih hcs]
    · simp
    · rintro d rest rfl rfl
      exact hc '?' (by simp) ⟨rfl, rfl⟩

/-- A text without backslashes has a letter for each of its characters. -/
theorem map_numberLetters {cs : List Char} (h : '\\' ∉ cs) (done : Array Letter) (line : Nat) :
    (numberLetters done line 0 cs).toList.map Letter.char = done.toList.map Letter.char ++ cs := by
  induction cs generalizing done line with
  | nil => simp [numberLetters]
  | cons c cs ih =>
    obtain ⟨hc, hcs⟩ := not_or.mp (List.mem_cons.not.mp h)
    rw [numberLetters, if_neg (Ne.symm hc), ih hcs]
    simp

/-- The letters of a plain text are its characters. -/
theorem Cuts.letters {text : String} {ts : List Token} (h : Cuts text.toList ts) (trigraphs : Bool) :
    (Compiler.letters trigraphs text).map Letter.char = text.toList := by
  have hhead : text.toList.head? ≠ some '\ufeff' := fun hhead =>
    h.not_mem '\ufeff' (by simp) (List.mem_of_mem_head? hhead)
  have hreturn := h.not_mem '\r' (by simp)
  have hslash := h.not_mem '\\' (by simp)
  rw [Compiler.letters]
  simp only [if_neg hhead, plainLineEnds_eq hreturn, List.reverse_nil, List.nil_append,
    replaceTrigraphs_eq h.noTrigraph, ite_self]
  rw [map_numberLetters hslash]
  simp

/-- The compiler finds the lexemes that a cut names. -/
theorem Cuts.tokensOf {text : String} {ts : List Token} (h : Cuts text.toList ts)
    (rules : LexemeRules) (trigraphs : Bool) : Compiler.tokensOf rules trigraphs text = .ok ts := by
  obtain ⟨found, hfound, htokens⟩ :=
    h.cutsInto rules (h.letters trigraphs) (Nat.lt_succ_self _) #[] [] false
  rw [Compiler.tokensOf, lexemeLines, hfound]
  simpa using htokens

end Whole

end KernelForge.Compiler
