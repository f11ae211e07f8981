import KernelForge.Template.Script

/-!
# Recipes

A recipe is a template that is written down as a list of steps. Its texts may hold the names of
parameters between at signs, which are replaced by the parameters' values.
-/

namespace KernelForge

/-- One step of a recipe. -/
inductive RecipeStep where
  | emit (text : String)
  /-- Writes a comment with what the template is told. -/
  | banner
  | function (result name params body : String)
  /-- Declares a kernel, whose arguments may depend on the module's floating-point type. -/
  | kernel (name : String) (ndim : UInt64) (args : ElementType → List Argument) (body : String)
  /-- Ends the script unless the parameters pass a check. -/
  | require (check : Params → Except TemplateError Unit)

/-- Replaces the marked names of parameters, one parameter after the other. -/
def Params.substitute (params : Params) (text : String) : String :=
  params.entries.foldl (fun s e => s.replace ("@" ++ e.1 ++ "@") e.2.display) text

/-- The comment that names a module, its target and its floating-point type. -/
def Setting.banner (setting : Setting) : String :=
  "/* " ++ setting.module ++ " " ++ setting.target.name ++ " " ++ setting.floatType.name ++ " */"

/-- What the steps of a recipe write. -/
def RecipeStep.script (setting : Setting) (params : Params) : List RecipeStep → Script
  | [] => .done
  | step :: rest =>
      let next := script setting params rest
      match step with
      | .emit text => .emit (params.substitute text) next
      | .banner => .emit setting.banner next
      | .function result name parameters body =>
          .function result name parameters (params.substitute body) next
      | .kernel name ndim args body =>
          .declare name ndim (args setting.floatType) (params.substitute body) next
      | .require check => .withValue (check params) fun _ => next

/-- The template of a recipe. -/
def Template.ofRecipe (steps : List RecipeStep) : Template :=
  ⟨fun setting params => RecipeStep.script setting params steps⟩

end KernelForge
