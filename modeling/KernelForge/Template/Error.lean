/-!
# Targets and what can go wrong while rendering

A template is rendered for one of two targets. Every way in which rendering fails has its own
constructor; `message` gives the wording.
-/

namespace KernelForge

/-- What source is rendered for. -/
inductive Target where
  | host
  | cuda
  deriving DecidableEq, Repr, Inhabited

namespace Target

/-- The lower-case word for a target. -/
def name : Target → String
  | host => "host"
  | cuda => "cuda"

/-- The capitalised word that record texts use. -/
def label : Target → String
  | host => "Host"
  | cuda => "Cuda"

end Target

/-- Why a template could not be rendered. -/
inductive TemplateError where
  /-- The rendered module declares no kernel of the requested name. -/
  | kernelNotDefined (name module : String)
  | unknownTemplate (module : String)
  | missingParam (name : String)
  | invalidParam (name reason : String)
  /-- The template has no source for the target. -/
  | unsupportedTarget (module : String) (target : Target)
  | duplicateKernel (name : String)
  | invalidKernel (name reason : String)
  deriving DecidableEq, Repr

/-- The wording of a rendering failure. -/
def TemplateError.message : TemplateError → String
  | kernelNotDefined name module =>
      "Kernel \"" ++ name ++ "\" not defined by template " ++ module
  | unknownTemplate module => "Unknown template module: " ++ module
  | missingParam name => "Missing template parameter: " ++ name
  | invalidParam name reason => "Invalid template parameter " ++ name ++ ": " ++ reason
  | unsupportedTarget module target =>
      "Template " ++ module ++ " is not available on the " ++ target.name ++ " backend"
  | duplicateKernel name => "Kernel \"" ++ name ++ "\" declared twice in one template"
  | invalidKernel name reason => "Invalid kernel " ++ name ++ ": " ++ reason

end KernelForge
