import KernelForge.Source.Generator
import KernelForge.Template.Params

/-!
# Templates

A template is asked for a script: the pieces to write, in order. It sees the module's identifier, the
floating-point type, the target and the parameters. It learns whether a kernel was refused and may go
on all the same.

The pieces are written into a draft, which holds the text written so far and the contract of every
kernel declared in it. A kernel that is refused leaves the draft as it was.
-/

namespace KernelForge

/-- A module that is being written. -/
structure Draft where
  source : String
  contracts : NameMap Contract
  deriving DecidableEq

namespace Draft

/-- The beginning of a module. -/
def start (generator : Generator) (floatType : ElementType) : Draft :=
  ⟨generator.prelude floatType, .empty⟩

/-- A piece of a module: an empty line comes before it, and a line feed ends it. -/
def piece (text : String) : String :=
  "\n" ++ text ++ (if text.endsWith "\n" then "" else "\n")

variable (draft : Draft)

/-- Adds text. -/
def emit (text : String) : Draft := { draft with source := draft.source ++ piece text }

/-- Adds a helper function. -/
def function (generator : Generator) (result name params body : String) : Draft :=
  draft.emit (generator.function result name params body)

/-- Adds a kernel over at most two dimensions, of a name that is not taken. -/
def kernel (generator : Generator) (name : String) (ndim : UInt64) (args : List Argument)
    (body : String) : Except TemplateError Draft :=
  if 2 < ndim then
    .error (.invalidKernel name (toString ndim.toNat ++ " dimensions, at most 2 supported"))
  else if draft.contracts.contains name then .error (.duplicateKernel name)
  else
    .ok { draft.emit (generator.kernel name ndim args body) with
      contracts := draft.contracts.insert name (.ofArguments ndim args) }

end Draft

/-- What a template writes, step by step. -/
inductive Script where
  | done
  | fail (error : TemplateError)
  | emit (text : String) (next : Script)
  | function (result name params body : String) (next : Script)
  /-- Declares a kernel and goes on, knowing why it was refused if it was. -/
  | kernel (name : String) (ndim : UInt64) (args : List Argument) (body : String)
      (next : Option TemplateError → Script)

namespace Script

/-- Declares a last kernel; a refusal ends the script with its error. -/
def declare (name : String) (ndim : UInt64) (args : List Argument) (body : String)
    (next : Script := .done) : Script :=
  .kernel name ndim args body fun
    | none => next
    | some error => .fail error

/-- Goes on with a value, or ends with the error that stands in its place. -/
def withValue {α : Type} (value : Except TemplateError α) (next : α → Script) : Script :=
  match value with
  | .ok a => next a
  | .error error => .fail error

/-- Writes a script into a draft. -/
def run (generator : Generator) : Script → Draft → Except TemplateError Draft
  | done, draft => .ok draft
  | fail error, _ => .error error
  | emit text next, draft => next.run generator (draft.emit text)
  | function result name params body next, draft =>
      next.run generator (draft.function generator result name params body)
  | kernel name ndim args body next, draft =>
      match draft.kernel generator name ndim args body with
      | .ok draft => (next none).run generator draft
      | .error error => (next (some error)).run generator draft

end Script

/-- What a template is told besides its parameters. -/
structure Setting where
  module : String
  floatType : ElementType
  target : Target
  deriving DecidableEq

/-- A kernel module that does not depend on how the targets write it. -/
structure Template where
  script : Setting → Params → Script

end KernelForge
