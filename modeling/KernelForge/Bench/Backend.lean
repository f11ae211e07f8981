import KernelForge.Host.Backend
import KernelForge.Kernel.Recording

/-!
# The backend of a bench

A bench is for trying kernels out. It either compiles them on the host or only records what it is asked
for, and counts the renderings of the templates that are being tried.
-/

namespace KernelForge.Bench

/-- A function of a bench. -/
inductive Function where
  | recorded (f : RecordedFunction)
  | compiled (f : Host.HostFunction)
  deriving DecidableEq

/-- What the backend of a bench keeps. -/
structure State where
  host : Host.State
  recording : Recording
  /-- The runs of probes with their arguments. -/
  probed : List (String × List Scalar)
  /-- How often a template that is being tried was rendered. -/
  renders : Nat

/-- How a bench works. -/
structure Setup where
  /-- Whether functions are compiled. -/
  compiles : Bool
  renderer : Renderer
  /-- The modules whose renderings are counted. -/
  tried : List String
  config : HostConfig

/-- Work of the backend. -/
abbrev Work := BackendM State

/-- Changes what the backend keeps. -/
def modifyState (f : State → State) : Work Unit := modify fun w => { w with own := f w.own }

/-- Work on the host. -/
def onHost {α : Type} : Host.HostM α → Work α :=
  BackendM.onPart State.host fun host own => { own with host := host }

/-- Work of the recording backend. -/
def onRecording {α : Type} : BackendM Recording α → Work α :=
  BackendM.onPart State.recording fun recording own => { own with recording := recording }

namespace Setup

variable (setup : Setup)

/-- Renders, counting the modules that are being tried. -/
def render (name module : String) (params : Params) : Work RenderedKernel := do
  if setup.tried.contains module && (setup.renderer.script module params).toBool then
    modifyState fun own => { own with renders := own.renders + 1 }
  setup.renderer.renderIn name module params

/-- The backend of a bench. -/
def backend : Backend Function State where
  render := setup.render
  build name source slots :=
    if setup.compiles then
      .compiled <$> onHost ((Host.backend setup.renderer).build name source slots)
    else .recorded <$> onRecording (Recording.build name source slots)
  launch
    | .compiled f, dims, args => onHost ((Host.backend setup.renderer).launch f dims args)
    | .recorded f, dims, args => onRecording (Recording.launch f dims args)

end Setup

end KernelForge.Bench
