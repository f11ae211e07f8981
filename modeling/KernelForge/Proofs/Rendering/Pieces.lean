import KernelForge.Template.Script
import Mathlib.Data.List.Induction
import Mathlib.Data.List.Nodup

/-!
# The pieces of a module

What a script writes are pieces: texts, helper functions and kernels. Which pieces these are, and
whether a kernel is refused, does not depend on how a target writes them, since only the names of the
kernels declared before matter. So a script has one outcome for all generators, and a generator only
puts the pieces into words.
-/

namespace KernelForge

/-- A piece of a module, before a target writes it. -/
inductive Piece where
  | text (lines : String)
  | function (result name params body : String)
  | kernel (name : String) (ndim : UInt64) (args : List Argument) (body : String)
  deriving DecidableEq

namespace Piece

/-- What a generator writes for a piece. -/
def source (generator : Generator) : Piece → String
  | text lines => lines
  | function result name params body => generator.function result name params body
  | kernel name ndim args body => generator.kernel name ndim args body

/-- The contracts after a piece: a kernel has one, and nothing else does. -/
def declare (contracts : NameMap Contract) : Piece → NameMap Contract
  | text _ | function _ _ _ _ => contracts
  | kernel name ndim args _ => contracts.insert name (.ofArguments ndim args)

/-- The contracts of the kernels among pieces. -/
def contracts (pieces : List Piece) : NameMap Contract := pieces.foldl declare .empty

/-- The last piece declares its contract after the others. -/
theorem contracts_concat (pieces : List Piece) (piece : Piece) :
    contracts (pieces ++ [piece]) = piece.declare (contracts pieces) := by
  rw [contracts, List.foldl_append]
  rfl

end Piece

/-! ### Drafts -/

namespace Draft

/-- Goes on with a piece. -/
def add (generator : Generator) (draft : Draft) (piece : Piece) : Draft :=
  { draft.emit (piece.source generator) with contracts := piece.declare draft.contracts }

/-- The module that a generator makes of pieces. -/
def ofPieces (generator : Generator) (floatType : ElementType) (pieces : List Piece) : Draft :=
  pieces.foldl (add generator) (start generator floatType)

variable {generator : Generator} {floatType : ElementType}

/-- The last piece is written after the others. -/
theorem ofPieces_concat (pieces : List Piece) (piece : Piece) :
    ofPieces generator floatType (pieces ++ [piece]) =
      (ofPieces generator floatType pieces).add generator piece := by
  rw [ofPieces, List.foldl_append]
  rfl

/-- The contracts of a module are those of its pieces. -/
theorem contracts_ofPieces (pieces : List Piece) :
    (ofPieces generator floatType pieces).contracts = Piece.contracts pieces := by
  induction pieces using List.reverseRecOn with
  | nil => rfl
  | append_singleton pieces piece ih =>
    rw [ofPieces_concat, Piece.contracts_concat, ← ih]
    rfl

end Draft

/-! ### Scripts -/

/-- Why a kernel is refused after pieces. -/
def Piece.refusal? (pieces : List Piece) (name : String) (ndim : UInt64) : Option TemplateError :=
  if 2 < ndim then
    some (.invalidKernel name (toString ndim.toNat ++ " dimensions, at most 2 supported"))
  else if (contracts pieces).contains name then some (.duplicateKernel name)
  else none

/-- The pieces that a script has written at its end, if it goes on after some. -/
def Script.pieces : Script → List Piece → Except TemplateError (List Piece)
  | done, pieces => .ok pieces
  | fail error, _ => .error error
  | emit text next, pieces => next.pieces (pieces ++ [.text text])
  | function result name params body next, pieces =>
      next.pieces (pieces ++ [.function result name params body])
  | kernel name ndim args body next, pieces =>
      match Piece.refusal? pieces name ndim with
      | none => (next none).pieces (pieces ++ [.kernel name ndim args body])
      | some error => (next (some error)).pieces pieces

/-- A kernel is refused, or goes into the module as a piece. -/
theorem Draft.kernel_ofPieces (generator : Generator) (floatType : ElementType)
    (pieces : List Piece) (name : String) (ndim : UInt64) (args : List Argument) (body : String) :
    (ofPieces generator floatType pieces).kernel generator name ndim args body =
      match Piece.refusal? pieces name ndim with
      | none => .ok (ofPieces generator floatType (pieces ++ [.kernel name ndim args body]))
      | some error => .error error := by
  rw [Draft.kernel, Piece.refusal?, contracts_ofPieces, ofPieces_concat]
  split
  · rfl
  · split
    · rfl
    · rw [add, contracts_ofPieces]
      rfl

/-- Every generator makes its module of the same pieces, or none does. -/
theorem Script.run_ofPieces (script : Script) (generator : Generator) (floatType : ElementType)
    (pieces : List Piece) :
    script.run generator (.ofPieces generator floatType pieces) =
      (script.pieces pieces).map (Draft.ofPieces generator floatType) := by
  induction script generalizing pieces with
  | done => rfl
  | fail error => rfl
  | emit text next ih =>
    rw [run, Script.pieces, ← ih, Draft.ofPieces_concat]
    rfl
  | function result name params body next ih =>
    rw [run, Script.pieces, ← ih, Draft.ofPieces_concat]
    rfl
  | kernel name ndim args body next ih =>
    rw [run, Script.pieces, Draft.kernel_ofPieces]
    cases Piece.refusal? pieces name ndim with
    | none => exact ih none _
    | some error => exact ih (some error) _

/-! ### Kernels and their contracts -/

namespace Piece

/-- The name of a kernel. -/
def kernelName? : Piece → Option String
  | text _ | function _ _ _ _ => none
  | kernel name _ _ _ => some name

/-- The names of the kernels among pieces. -/
def kernelNames (pieces : List Piece) : List String := pieces.filterMap kernelName?

/-- The last piece names its kernel after the others. -/
theorem kernelNames_concat (pieces : List Piece) (piece : Piece) :
    kernelNames (pieces ++ [piece]) = kernelNames pieces ++ piece.kernelName?.toList := by
  rw [kernelNames, List.filterMap_append]
  cases piece <;> rfl

/-- The names of kernels are those that are declared. -/
theorem mem_kernelNames {pieces : List Piece} {name : String} :
    name ∈ kernelNames pieces ↔ ∃ ndim args body, kernel name ndim args body ∈ pieces := by
  rw [kernelNames, List.mem_filterMap]
  constructor
  · rintro ⟨piece, hpiece, hname⟩
    cases piece with
    | text _ => cases hname
    | function _ _ _ _ => cases hname
    | kernel _ ndim args body =>
      cases hname
      exact ⟨ndim, args, body, hpiece⟩
  · rintro ⟨ndim, args, body, hpiece⟩
    exact ⟨_, hpiece, rfl⟩

/-- The kernels among pieces have contracts. -/
theorem contains_contracts (pieces : List Piece) (name : String) :
    (contracts pieces).contains name = true ↔ name ∈ kernelNames pieces := by
  induction pieces using List.reverseRecOn with
  | nil => exact ⟨nofun, nofun⟩
  | append_singleton pieces piece ih =>
    rw [contracts_concat, kernelNames_concat, List.mem_append, ← ih]
    cases piece with
    | text _ => simp [declare, kernelName?]
    | function _ _ _ _ => simp [declare, kernelName?]
    | kernel other _ _ _ =>
      simp only [declare, kernelName?, NameMap.contains, NameMap.get?_insert, Option.toList_some,
        List.mem_singleton]
      split
      · next heq => simp [heq]
      · next hne => simp [hne]

/-- Where no two kernels have one name, a name has a contract if a kernel has the name, and it is the
contract of this kernel. -/
theorem get?_contracts {pieces : List Piece} (h : (kernelNames pieces).Nodup) {name : String}
    {contract : Contract} :
    (contracts pieces).get? name = some contract ↔ ∃ ndim args body,
      kernel name ndim args body ∈ pieces ∧ contract = .ofArguments ndim args := by
  induction pieces using List.reverseRecOn with
  | nil => simp [contracts]
  | append_singleton pieces piece ih =>
    rw [kernelNames_concat, List.nodup_append] at h
    rw [contracts_concat]
    cases piece with
    | text _ => simp [declare, ih h.1]
    | function _ _ _ _ => simp [declare, ih h.1]
    | kernel other ndim args body =>
      have hnew : other ∉ kernelNames pieces := fun hmem =>
        h.2.2 other hmem other List.mem_cons_self rfl
      rw [declare, NameMap.get?_insert]
      split
      · next heq =>
        subst heq
        constructor
        · intro hcontract
          cases hcontract
          exact ⟨ndim, args, body, List.mem_append_right _ List.mem_cons_self, rfl⟩
        · rintro ⟨ndim', args', body', hmem, rfl⟩
          rcases List.mem_append.mp hmem with hmem | hmem
          · exact absurd (mem_kernelNames.mpr ⟨ndim', args', body', hmem⟩) hnew
          · cases List.mem_singleton.mp hmem
            rfl
      · next hne => simp [ih h.1, hne]

end Piece

/-! ### Kernels that are refused -/

namespace Piece

variable {pieces : List Piece} {name : String} {ndim : UInt64}

/-- A kernel is refused for its dimensions, or else because an earlier one has its name. -/
theorem refusal?_eq_some_iff {error : TemplateError} :
    refusal? pieces name ndim = some error ↔
      2 < ndim ∧ error =
          .invalidKernel name (toString ndim.toNat ++ " dimensions, at most 2 supported") ∨
        ¬2 < ndim ∧ name ∈ kernelNames pieces ∧ error = .duplicateKernel name := by
  rw [← contains_contracts, refusal?]
  constructor
  · intro h
    split at h
    · next hndim => exact .inl ⟨hndim, (Option.some.inj h).symm⟩
    · next hndim =>
      split at h
      · next hcontains => exact .inr ⟨hndim, hcontains, (Option.some.inj h).symm⟩
      · cases h
  · rintro (⟨hndim, rfl⟩ | ⟨hndim, hcontains, rfl⟩)
    · rw [if_pos hndim]
    · rw [if_neg hndim, if_pos hcontains]

/-- A kernel that is not refused keeps the names apart. -/
theorem nodup_kernelNames_concat (h : (kernelNames pieces).Nodup)
    (hrefusal : refusal? pieces name ndim = none) (args : List Argument) (body : String) :
    (kernelNames (pieces ++ [kernel name ndim args body])).Nodup := by
  have hnew : name ∉ kernelNames pieces := by
    intro hname
    by_cases hndim : 2 < ndim
    · cases hrefusal.symm.trans (refusal?_eq_some_iff.mpr (.inl ⟨hndim, rfl⟩))
    · cases hrefusal.symm.trans (refusal?_eq_some_iff.mpr (.inr ⟨hndim, hname, rfl⟩))
  rw [kernelNames_concat]
  refine List.nodup_append.mpr ⟨h, List.nodup_singleton name, fun other hother last hlast => ?_⟩
  cases List.mem_singleton.mp hlast
  exact ne_of_mem_of_not_mem hother hnew

end Piece

/-- A script declares no kernel twice. -/
theorem Script.nodup_kernelNames {script : Script} {pieces written : List Piece}
    (h : (Piece.kernelNames pieces).Nodup) (hwritten : script.pieces pieces = .ok written) :
    (Piece.kernelNames written).Nodup := by
  induction script generalizing pieces with
  | done =>
    cases hwritten
    exact h
  | fail error => cases hwritten
  | emit text next ih =>
    refine ih ?_ hwritten
    rw [Piece.kernelNames_concat]
    exact (List.append_nil _).symm ▸ h
  | function result name params body next ih =>
    refine ih ?_ hwritten
    rw [Piece.kernelNames_concat]
    exact (List.append_nil _).symm ▸ h
  | kernel name ndim args body next ih =>
    rw [Script.pieces] at hwritten
    split at hwritten
    · next hrefusal => exact ih none (Piece.nodup_kernelNames_concat h hrefusal args body) hwritten
    · exact ih _ h hwritten

end KernelForge
