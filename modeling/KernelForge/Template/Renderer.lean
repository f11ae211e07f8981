import KernelForge.Template.Builtin

/-!
# Rendering

A renderer joins a library of templates with a target and a precision. It gives every template the
floating-point type of its precision unless the parameters name one.
-/

namespace KernelForge

/-- Templates by module. -/
abbrev TemplateLibrary := NameMap Template

namespace TemplateLibrary

/-- The library of the built-in kernels. -/
def builtin : TemplateLibrary := NameMap.ofList Builtin.templates

/-- The template of a module. -/
def find (library : TemplateLibrary) (module : String) : Except TemplateError Template :=
  match library.get? module with
  | some template => .ok template
  | none => .error (.unknownTemplate module)

/-- The record text of a library: its modules in order. -/
def describe (library : TemplateLibrary) : String :=
  Text.recordText "TemplateLookup" [("modules", Text.listText (library.keys.map Text.quoted))]

end TemplateLibrary

/-- Renders the templates of a library for one target. -/
structure Renderer where
  generator : Generator
  precision : Precision
  templates : TemplateLibrary

/-- A rendered module and the contract of one of its kernels. -/
structure RenderedKernel where
  source : String
  contract : Contract
  deriving DecidableEq

namespace Renderer

/-- The renderer for a target. -/
def ofTarget (target : Target) (precision : Precision) (templates : TemplateLibrary) : Renderer :=
  ⟨.ofTarget target, precision, templates⟩

variable (renderer : Renderer)

/-- The parameters with the floating-point type filled in. -/
def complete (params : Params) : Params :=
  if params.contains Params.floatTypeName then params
  else params.insert Params.floatTypeName (.elementType renderer.precision.elementType)

/-- The script of a module, with the floating-point type that it is rendered for. -/
def script (module : String) (params : Params) : Except TemplateError (ElementType × Script) := do
  let template ← renderer.templates.find module
  let params := renderer.complete params
  let floatType ← params.floatType
  return (floatType, template.script ⟨module, floatType, renderer.generator.target⟩ params)

/-- Renders all kernels of a module. -/
def renderModule (module : String) (params : Params) : Except TemplateError Draft := do
  let (floatType, script) ← renderer.script module params
  script.run renderer.generator (.start renderer.generator floatType)

/-- Renders a module for one of its kernels. -/
def renderKernel (name module : String) (params : Params) :
    Except TemplateError RenderedKernel := do
  let draft ← renderer.renderModule module params
  match draft.contracts.get? name with
  | some contract => return ⟨draft.source, contract⟩
  | none => throw (.kernelNotDefined name module)

/-- The record text of a renderer. -/
def describe : String :=
  Text.recordText "Renderer"
    [("backend", renderer.generator.target.label), ("precision", renderer.precision.label),
      ("lookup", renderer.templates.describe)]

end Renderer

end KernelForge
