import KernelForge.Kernel.Provider

/-!
# The recording backend

A backend that compiles nothing. It keeps what it was asked to build and to launch, and can be told to
refuse a number of builds, so that what a session asks of its backend can be seen.
-/

namespace KernelForge

/-- A function of the recording backend: its name and the number of its build. -/
structure RecordedFunction where
  name : String
  build : Nat
  deriving DecidableEq, Repr

/-- What was asked for. -/
structure Recording where
  /-- How many builds are still refused. -/
  refusals : Nat
  /-- Names, source lengths in bytes and slots, in the order of the builds. -/
  builds : List (String × Nat × List SlotType)
  /-- Names, dimensions and arguments, in the order of the launches. -/
  launches : List (String × List UInt64 × List SlotValue)
  deriving DecidableEq

namespace Recording

/-- Nothing asked for yet. -/
def empty (refusals : Nat) : Recording := ⟨refusals, [], []⟩

/-- Keeps a build, or refuses it. -/
def build (name source : String) (slots : List SlotType) : BackendM Recording RecordedFunction := do
  let recording := (← get).own
  match recording.refusals with
  | refusals + 1 =>
      modify fun w => { w with own := { recording with refusals := refusals } }
      throw (.compilation (.rejected ("stub failure of " ++ name)))
  | 0 =>
      let builds := recording.builds ++ [(name, source.utf8ByteSize, slots)]
      modify fun w => { w with own := { recording with builds := builds } }
      return ⟨name, builds.length⟩

/-- Keeps a launch. -/
def launch (f : RecordedFunction) (dims : List UInt64) (args : List SlotValue) :
    BackendM Recording Unit :=
  modify fun w =>
    { w with own := { w.own with launches := w.own.launches ++ [(f.name, dims, args)] } }

/-- The backend that renders with a renderer and records the rest. -/
def backend (renderer : Renderer) : Backend RecordedFunction Recording where
  render := renderer.renderIn
  build := build
  launch := launch

end Recording

end KernelForge
