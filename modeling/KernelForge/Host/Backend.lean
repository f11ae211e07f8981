import KernelForge.Host.Function

/-!
# The host backend

Renders for the host, compiles every rendered source as a module of its own, and calls functions at
once.
-/

namespace KernelForge.Host

/-- The backend of the host with a renderer. -/
def backend (renderer : Renderer) : Backend HostFunction State where
  render := renderer.renderIn
  build name source slots := do resolveFunction (← compileModule source) name slots
  launch f _ args := callFunction f args

/-- The record text of the host backend. -/
def describeBackend (renderer : Renderer) (config : HostConfig) : String :=
  Text.recordText "HostBackend"
    [("renderer", renderer.describe), ("config", config.describe), ("allocator", "HostAllocator")]

end KernelForge.Host
