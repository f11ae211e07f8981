import KernelForge.Kernel.Error

/-!
# Launch grids

A device runs threads in blocks of equal size. The grid for a count of elements is the smallest number
of blocks that has a thread for every element.
-/

namespace KernelForge

/-- So many blocks of so many threads. -/
structure LaunchGrid where
  grid : UInt32
  block : UInt32
  deriving DecidableEq, Repr

namespace LaunchGrid

/-- The smallest grid that covers a count of elements. -/
def forElements (count : UInt64) (block : UInt32) : Except KernelError LaunchGrid :=
  if count = 0 then .error (.emptyLaunch "zero elements")
  else if block = 0 then .error (.emptyLaunch "zero threads per block")
  else
    let blocks := (count.toNat + block.toNat - 1) / block.toNat
    if blocks < twoPow 32 then .ok ⟨UInt32.ofNat blocks, block⟩
    else .error (.launchOverflow count block)

/-- All threads of a grid. -/
def threads (g : LaunchGrid) : UInt64 := g.grid.toUInt64 * g.block.toUInt64

end LaunchGrid

end KernelForge
