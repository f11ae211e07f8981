import KernelForge.Element.Scalar
import KernelForge.Text.Quoted
import KernelForge.Text.Blank
import KernelForge.Template.Params
import KernelForge.Template.Contract
import KernelForge.Source.Generator
import KernelForge.Template.Renderer
import KernelForge.Storage.Operand
import KernelForge.Code.Eval
import KernelForge.Config
import KernelForge.Kernel.Grid
import KernelForge.Kernel.Arguments
import KernelForge.Kernel.Cache
import KernelForge.Kernel.Tree
import KernelForge.Kernel.Combination
import KernelForge.Kernel.Packing
import KernelForge.Host.Algebra
import KernelForge.Template.Recipe
import KernelForge.Bench.Desk
import KernelForge.Bench.Plan
import KernelForge.Text.Hexadecimal
import KernelForge.Proofs.Interleaving.Effects
import KernelForge.Proofs.Interleaving.Holders
import KernelForge.Proofs.Interleaving.AtMostOnce
import KernelForge.Proofs.Provider.Keeps
import KernelForge.Proofs.Provider.Launch
import KernelForge.Proofs.Entry.Parameters
import KernelForge.Proofs.Entry.Reading
import KernelForge.Proofs.Interleaving.Pending
import KernelForge.Proofs.Interleaving.Alone
import KernelForge.Proofs.Storage.Buffers
import KernelForge.Proofs.Storage.Placing
import KernelForge.Proofs.Storage.Views
import KernelForge.Proofs.Provider.Attempts
import KernelForge.Proofs.Provider.Remembering
import KernelForge.Proofs.Cache.Reference
import KernelForge.Proofs.Interleaving.Solo
import KernelForge.Proofs.Storage.Addresses
import KernelForge.Proofs.Storage.Copies
import KernelForge.Proofs.Code.Stepping
import KernelForge.Proofs.Code.Moving
import KernelForge.Proofs.Packing.Elements
import KernelForge.Proofs.Storage.Exchange
import KernelForge.Proofs.Packing.Running
import KernelForge.Proofs.Provider.Registered
import KernelForge.Proofs.Packing.Requests
import KernelForge.Proofs.Packing.Restoring
import KernelForge.Proofs.Interleaving.Marks
import KernelForge.Proofs.Interleaving.Refusals
import KernelForge.Proofs.Provider.Bindings
import KernelForge.Proofs.Product.Blocks
import KernelForge.Proofs.Code.Calling
import KernelForge.Proofs.Product.Running
import KernelForge.Proofs.Product.Requests
import KernelForge.Proofs.Product.Reference
import KernelForge.Proofs.Product.Agreement
import KernelForge.Proofs.Device.Grids
import KernelForge.Proofs.Device.Threads
import KernelForge.Proofs.Elementwise.Operands
import KernelForge.Proofs.Elementwise.Requests
import KernelForge.Proofs.Elementwise.Covering
import KernelForge.Proofs.Provider.Freezing
import KernelForge.Proofs.Provider.Rotation
import KernelForge.Proofs.Provider.Lasting
import KernelForge.Proofs.Provider.Following
import KernelForge.Proofs.Host.Work
import KernelForge.Proofs.Exact.Machine
import KernelForge.Proofs.Exact.Elementwise
import KernelForge.Proofs.Exact.Packing
import KernelForge.Proofs.Exact.Products
import KernelForge.Proofs.Padding.Invariant
import KernelForge.Proofs.Padding.Views
import KernelForge.Proofs.Padding.Steps
import KernelForge.Proofs.Padding.Norms
import KernelForge.Proofs.Interleaving.Progress
import KernelForge.Proofs.Interleaving.Settling
import KernelForge.Proofs.Rendering.Targets
import KernelForge.Proofs.Provider.Expanding
import KernelForge.Proofs.Storage.Rectangles
import KernelForge.Proofs.Packing.Slots
import KernelForge.Proofs.Packing.Indices
import KernelForge.Proofs.Product.Overflow
import KernelForge.Proofs.Storage.Contents
import KernelForge.Proofs.Product.Bounds
import KernelForge.Proofs.Provider.Rejections
import KernelForge.Proofs.Elementwise.Combining
import KernelForge.Proofs.Packing.Scattering
import KernelForge.Proofs.Rendering.Calls
import KernelForge.Proofs.Parameters.Canonical
import KernelForge.Proofs.Tree.Flattening
import KernelForge.Proofs.Packing.Registering
import KernelForge.Proofs.Numeric.Conversion
import KernelForge.Proofs.Code.Bodies
