import KernelForge.Kernel.Arguments
import KernelForge.Kernel.Cache
import KernelForge.Template.Renderer

/-!
# Providing kernels

A backend renders, builds and launches. On top of it, a session registers kernel names, remembers what
was rendered under name, module and parameters, and remembers what was built under name, source and
argument list. A backend keeps a state of its own next to the store.
-/

namespace KernelForge

/-- The store, and what a backend keeps. -/
structure World (σ : Type) where
  store : Store
  own : σ

/-- Work of a backend; its state also changes when it fails. -/
abbrev BackendM (σ : Type) := ExceptT KernelError (StateM (World σ))

/-- Work on a part of what a backend keeps. -/
def BackendM.onPart {σ τ α : Type} (part : σ → τ) (update : τ → σ → σ) (work : BackendM τ α) :
    BackendM σ α := fun ⟨store, own⟩ =>
  let (result, ⟨store, changed⟩) := work ⟨store, part own⟩
  (result, ⟨store, update changed own⟩)

/-- How kernels are rendered, built to functions, and launched over dimensions. -/
structure Backend (Fn σ : Type) where
  render : String → String → Params → BackendM σ RenderedKernel
  build : String → String → List SlotType → BackendM σ Fn
  launch : Fn → List UInt64 → List SlotValue → BackendM σ Unit

/-- Renders with a renderer. -/
def Renderer.renderIn {σ : Type} (renderer : Renderer) (name module : String) (params : Params) :
    BackendM σ RenderedKernel :=
  match renderer.renderKernel name module params with
  | .ok rendered => pure rendered
  | .error error => throw (.template error)

/-- The name under which the kernel of a module is registered: what follows the last point. -/
def kernelName (module : String) : String :=
  String.ofList (module.toList.reverse.takeWhile (· ≠ '.')).reverse

/-- What a rendering is remembered under. -/
structure RenderKey where
  name : String
  module : String
  params : Params
  deriving DecidableEq

/-- What a built function is remembered under. -/
structure BuildKey where
  name : String
  source : String
  slots : List SlotType
  deriving DecidableEq

/-- Registered names with their modules, and what was rendered and built. -/
structure Provider (Fn : Type) where
  registry : NameMap String
  renders : BuildCache RenderKey RenderedKernel
  builds : BuildCache BuildKey Fn

namespace Provider

variable {Fn : Type}

/-- A provider that knows no kernel. -/
def empty : Provider Fn := ⟨.empty, .empty "render", .empty "build"⟩

/-- Binds the name of a module's kernel to the module. A name stays bound to its first module. -/
def register (provider : Provider Fn) (module : String) :
    Except KernelError (String × Provider Fn) :=
  let name := kernelName module
  match provider.registry.get? name with
  | none => .ok (name, { provider with registry := provider.registry.insert name module })
  | some existing =>
      if existing = module then .ok (name, provider)
      else .error (.registrationConflict name existing module)

/-- The record text of a provider over a backend. -/
def describe (provider : Provider Fn) (backend : String) : String :=
  Text.recordText "KernelProvider"
    [("backend", backend),
      ("registry", Text.mapText (provider.registry.entries.map fun e =>
        (Text.quoted e.1, Text.quoted e.2))),
      ("renders", provider.renders.describe), ("builds", provider.builds.describe)]

end Provider

/-- The world and the provider. -/
structure Session (Fn σ : Type) where
  world : World σ
  provider : Provider Fn

/-- Work of a session. -/
abbrev SessionM (Fn σ : Type) := ExceptT KernelError (StateM (Session Fn σ))

namespace Session

variable {Fn σ : Type}

/-- Where a session remembers renderings. -/
def renderSlot : CacheSlot (Session Fn σ) RenderKey RenderedKernel where
  get s := s.provider.renders
  set cache s := { s with provider := { s.provider with renders := cache } }

/-- Where a session remembers functions. -/
def buildSlot : CacheSlot (Session Fn σ) BuildKey Fn where
  get s := s.provider.builds
  set cache s := { s with provider := { s.provider with builds := cache } }

/-- Work of the backend. -/
def ofBackend {α : Type} (work : BackendM σ α) : SessionM Fn σ α := fun ⟨world, provider⟩ =>
  let (result, world) := work world
  (result, ⟨world, provider⟩)

/-- Goes on with a value, or fails. -/
def ofExcept {α : Type} (value : Except KernelError α) : SessionM Fn σ α := fun s => (value, s)

/-- Registers the kernel of a module and gives its name. -/
def register (module : String) : SessionM Fn σ String := fun s =>
  match s.provider.register module with
  | .ok (name, provider) => (.ok name, { s with provider := provider })
  | .error error => (.error error, s)

end Session

/-- A function bound to operands, over dimensions that are not empty. -/
structure BoundKernel (Fn : Type) where
  dims : List UInt64
  function : Fn
  args : List BoundArgument

namespace BoundKernel

variable {Fn σ : Type}

/-- Binds a function. -/
def create (dims : List UInt64) (function : Fn) (args : List BoundArgument) :
    Except KernelError (BoundKernel Fn) :=
  if dims.all (0 < ·) then .ok ⟨dims, function, args⟩
  else .error (.emptyLaunch ("dimensions " ++ Text.listText (dims.map toString)))

/-- Launches a bound function with the arguments as they are at this point. -/
def run (backend : Backend Fn σ) (kernel : BoundKernel Fn) (args : List Scalar) :
    BackendM σ Unit := do
  if args.isEmpty then
    let store := (← get).store
    backend.launch kernel.function kernel.dims (kernel.args.map (·.resolve store))
  else throw (.argumentMismatch (.unexpected "pointwise kernels take" args.length))

end BoundKernel

namespace Backend

variable {Fn σ : Type} (backend : Backend Fn σ)

/-- The function and contract of a kernel of a module, rendered and built on first use. -/
def function (name module : String) (params : Params) : SessionM Fn σ (Fn × Contract) := do
  let rendered ← Session.renderSlot.request ⟨name, module, params⟩
    (Session.ofBackend (backend.render name module params))
  let slots := rendered.contract.slotTypes
  let function ← Session.buildSlot.request ⟨name, rendered.source, slots⟩
    (Session.ofBackend (backend.build name rendered.source slots))
  return (function, rendered.contract)

/-- Binds a function to operands over dimensions. -/
def bind (function : Fn) (contract : Contract) (dims : List UInt64) (operands : Operands) :
    Except KernelError (BoundKernel Fn) := do
  BoundKernel.create dims function (← BoundArgument.list dims contract operands)

/-- A registered kernel bound to operands. -/
def kernel (name : String) (params : Params) (dims : List UInt64) (operands : Operands) :
    SessionM Fn σ (BoundKernel Fn) := do
  match (← get).provider.registry.get? name with
  | none => throw (.unknownKernel name)
  | some module =>
      let (function, contract) ← backend.function name module params
      Session.ofExcept (bind function contract dims operands)

end Backend

end KernelForge
