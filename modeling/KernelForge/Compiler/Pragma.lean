import KernelForge.Compiler.Grammar

/-!
# Directives for the compiler

Directives change warnings, the alignment of members and what can be found from outside; some are for
the loop that follows. Those for threads are kept apart.
-/

namespace KernelForge.Compiler

namespace Compile

/-- The lexemes of a directive, going on behind its line. -/
def directiveLexemes : Compile (List Lexeme) := do
  skip
  let input := (← get).input
  let inside := input.takeWhile fun a => a.kind ≠ .lineEnd
  modify fun s => { s with input := (input.drop inside.length).drop 1 }
  return inside

/-- Whether a directive for threads is next, not counting the mark in front of it. -/
def atThreadDirective : Compile Bool := do
  return (← peek).kind = .pragma && (← peekAt 1).text = "omp"

/-- The text between the quotes of the first text constant. -/
def quotedText? (input : List Lexeme) : Option String :=
  (input.find? fun a => a.kind = .text).map fun a => String.ofList ((a.text.toList.drop 1).dropLast)

/-- Changes what happens with warnings. -/
def changeWarnings (input : List Lexeme) : Compile Unit := do
  let s ← get
  let warnings := s.setting.warnings
  let keep (warnings : Warnings) : Compile Unit :=
    modify fun s => { s with setting := { s.setting with warnings := warnings } }
  match input with
  | a :: rest =>
      let name := ((quotedText? rest).map fun s => String.ofList (s.toList.drop 2)).getD ""
      match a.text with
      | "push" => set { s with choices := warnings :: s.choices }
      | "pop" =>
          match s.choices with
          | saved :: rest =>
              keep saved
              modify fun s => { s with choices := rest }
          | [] => pure ()
      | "ignored" => keep (warnings.choose name false)
      | "warning" => keep ((warnings.choose name true).chooseFailing name false)
      | "error" => keep (warnings.chooseFailing name true)
      | _ => pure ()
  | [] => pure ()

/-- Changes the alignment that members have at most. -/
def changePacking (input : List Lexeme) : Compile Unit := do
  let words := (input.filter fun a => a.kind ≠ .mark).map (·.text)
  let current := ((← get).packing.head?).getD none
  let set (stack : List (Option Nat)) : Compile Unit := modify fun s => { s with packing := stack }
  let rest := (← get).packing.drop 1
  let size (text : String) : Compile (Option Nat) := do
    match text.toNat? with
    | some n => if [1, 2, 4, 8, 16].contains n then return some n else return none
    | none => return none
  match words with
  | [] => set (none :: rest)
  | ["push"] => set (current :: current :: rest)
  | ["push", n] =>
      match ← size n with
      | some n => set (some n :: current :: rest)
      | none => warn "pragmas" "an alignment that is no small power of two"
  | ["push", _, n] => set ((← size n) :: current :: rest)
  | ["pop"] =>
      if rest.isEmpty then warn "pragmas" "nothing to take back" else set rest
  | ["pop", _] => if rest.isEmpty then pure () else set rest
  | [n] =>
      match ← size n with
      | some n => set (some n :: rest)
      | none => if n = "0" then set (none :: rest) else warn "pragmas" "an alignment that is no small power of two"
  | _ => warn "pragmas" "a malformed directive"

/-- Changes whether names can be found from outside. -/
def changeVisibility (input : List Lexeme) : Compile Unit := do
  match input.map (·.text) with
  | ["push", "(", kind, ")"] =>
      if ! ["default", "hidden", "internal", "protected"].contains kind then refuse "an unknown visibility"
      modify fun s => { s with visibility := (kind = "hidden" || kind = "internal") :: s.visibility }
  | ["pop"] =>
      if (← get).visibility.isEmpty then refuse "nothing to take back"
      modify fun s => { s with visibility := s.visibility.drop 1 }
  | _ => warn "pragmas" "a malformed directive"

/-- Follows a directive that is not for threads, and says whether it is for the next loop. -/
def followDirective (input : List Lexeme) : Compile Bool := do
  match input with
  | a :: rest =>
      match a.text, rest with
      | "pack", _ =>
          changePacking rest
          return false
      | "GCC", b :: more =>
          match b.text with
          | "diagnostic" =>
              changeWarnings more
              return false
          | "visibility" =>
              changeVisibility more
              return false
          | "ivdep" | "unroll" => return true
          | _ => return false
      | "weak", name :: _ =>
          modifyGlobal name.text fun g => { g with isWeak := true }
          return false
      | _, _ => return false
  | [] => return false

/-- Follows all directives that are next and not for threads. -/
def followDirectives : Nat → Compile Unit
  | 0 => refuse "too many directives"
  | fuel + 1 => do
      if (← peek).kind = .pragma && !(← atThreadDirective) then
        if ← followDirective (← directiveLexemes) then refuse "a directive for a loop that is missing"
        followDirectives fuel

end Compile

end KernelForge.Compiler
