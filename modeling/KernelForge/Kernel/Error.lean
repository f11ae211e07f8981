import KernelForge.Storage.Error
import KernelForge.Storage.Matrix
import KernelForge.Template.Error

/-!
# What can go wrong with kernels

Every way in which building, binding and running kernels fails has its own constructor, and failures
of rendering and of storage are wrapped. `message` gives the wording.
-/

namespace KernelForge

/-- How operands of one operation disagree. -/
inductive TraitFault where
  /-- An operand of this kind is neither a matrix nor a bank. -/
  | notMatrix (kind : String)
  /-- The first operand's layout is not that of the second, which is given. -/
  | differs (name reference : String) (layout : Layout)
  | notFloating (type : ElementType)
  | notDense (density : Density)
  | mixedTypes (a b out : ElementType)
  deriving DecidableEq, Repr

/-- How sizes do not fit. -/
inductive ShapeFault where
  /-- Rows and columns of two factors and their product. -/
  | product (a b out : UInt64 × UInt64)
  | tooWide (what : String) (value : UInt64)
  deriving DecidableEq, Repr

/-- How arguments do not fit a kernel. -/
inductive ArgumentFault where
  | dimensionCount (given : Nat) (expected : UInt64)
  | tooWide (what : String) (value : UInt64)
  | missingOperand (name : String)
  | cannotFill (kind name : String) (slots : List SlotType)
  | slotTypes (given expected : List SlotType)
  | functionSlots (name : String) (expected given : List SlotType)
  /-- Arguments were given to a run that takes none. -/
  | unexpected (who : String) (given : Nat)
  | coefficients (expected given : Nat)
  deriving DecidableEq, Repr

/-- Which choice of vector library is not one. -/
inductive ConfigFault where
  | bothLibraries
  | noLibrary
  deriving DecidableEq, Repr

/-- Why a program cannot be run. -/
inductive RunFault where
  | notFound
  | notPermitted
  /-- A file stands where a directory is needed. -/
  | notDirectory
  | nameTooLong
  | tooManyArguments
  /-- Its name or an argument holds a character that ends texts. -/
  | nulByte
  deriving DecidableEq, Repr

/-- How compilation fails. -/
inductive CompileFault where
  | notRun (compiler : String) (reason : RunFault)
  | failed (compiler source : String)
  | rejected (reason : String)
  deriving DecidableEq, Repr

/-- Why a kernel could not be made or run. -/
inductive KernelError where
  | template (error : TemplateError)
  | storage (error : StorageError)
  | registrationConflict (name existing module : String)
  | unknownKernel (name : String)
  | incompatibleTraits (fault : TraitFault)
  | incompatibleShape (fault : ShapeFault)
  | config (fault : ConfigFault)
  | compilation (fault : CompileFault)
  | libraryLoad (path : String)
  | symbolNotFound (name : String)
  | argumentMismatch (fault : ArgumentFault)
  /-- A build asked for its own key. -/
  | reentrantBuild (cache : String)
  | emptyLaunch (what : String)
  | launchOverflow (count : UInt64) (block : UInt32)
  /-- Compiled code stopped. -/
  | crashed (name : String)
  deriving DecidableEq, Repr

/-- The structural text of a list of slots. -/
def slotsText (slots : List SlotType) : String := Text.listText (slots.map SlotType.describe)

/-- A number that a 32-bit argument cannot hold. -/
def overflowText (what : String) (value : UInt64) : String :=
  what ++ " " ++ toString value ++ " overflows i32"

def TraitFault.message : TraitFault → String
  | notMatrix kind => kind ++ " is not a matrix"
  | differs name reference layout =>
      name ++ " differs from " ++ reference ++ " (" ++ layout.describe ++ ")"
  | notFloating type => type.name ++ " is not a floating-point type"
  | notDense density => "a must be dense, got " ++ density.name
  | mixedTypes a b out =>
      "dtypes a=" ++ a.name ++ ", b=" ++ b.name ++ ", out=" ++ out.name ++
        " must be one floating-point type"

def ShapeFault.message : ShapeFault → String
  | product a b out =>
      let size (s : UInt64 × UInt64) : String := toString s.1 ++ "x" ++ toString s.2
      size a ++ " * " ++ size b ++ " -> " ++ size out
  | tooWide what value => overflowText what value

def ArgumentFault.message : ArgumentFault → String
  | dimensionCount given expected =>
      toString given ++ " dimensions given, kernel has " ++ toString expected
  | tooWide what value => overflowText what value
  | missingOperand name => "no operand supplied for argument " ++ name
  | cannotFill kind name slots =>
      kind ++ " operand cannot fill " ++ name ++ ": " ++ slotsText slots
  | slotTypes given expected =>
      "marshaled " ++ slotsText given ++ ", kernel expects " ++ slotsText expected
  | functionSlots name expected given =>
      name ++ " expects " ++ slotsText expected ++ ", got " ++ slotsText given
  | unexpected who given => who ++ " no run arguments, got " ++ toString given
  | coefficients expected given =>
      "axnpby expects " ++ toString expected ++ " coefficients, got " ++ toString given

def ConfigFault.message : ConfigFault → String
  | bothLibraries => "cblas_st and cblas_mt cannot both be set"
  | noLibrary => "must specify one of cblas_st or cblas_mt"

def RunFault.message : RunFault → String
  | notFound => "No such file or directory (os error 2)"
  | notPermitted => "Permission denied (os error 13)"
  | notDirectory => "Not a directory (os error 20)"
  | nameTooLong => "File name too long (os error 36)"
  | tooManyArguments => "Argument list too long (os error 7)"
  | nulByte => "nul byte found in provided data"

def CompileFault.message : CompileFault → String
  | notRun compiler reason => "failed to run " ++ compiler ++ ": " ++ reason.message
  | failed compiler source => compiler ++ " failed:\n\nSource:\n" ++ source
  | rejected reason => reason

/-- The wording of a failure. -/
def KernelError.message : KernelError → String
  | template error => "Codegen error: " ++ error.message
  | storage error => "Device error: " ++ error.message
  | registrationConflict name existing module =>
      "Kernel \"" ++ name ++ "\" is already registered from " ++ existing ++
        ", cannot rebind to " ++ module
  | unknownKernel name => "Kernel \"" ++ name ++ "\" is not registered"
  | incompatibleTraits fault => "Incompatible matrix types: " ++ fault.message
  | incompatibleShape fault => "Incompatible shapes: " ++ fault.message
  | config fault => "Invalid configuration: " ++ fault.message
  | compilation fault => "Compilation failed: " ++ fault.message
  | libraryLoad path => "Failed to load library " ++ path
  | symbolNotFound name => "Symbol '" ++ name ++ "' not found"
  | argumentMismatch fault => "Argument mismatch: " ++ fault.message
  | reentrantBuild cache => "Reentrant build in the " ++ cache ++ " cache"
  | emptyLaunch what => "Empty launch: " ++ what
  | launchOverflow count block =>
      "Launch of " ++ toString count ++ " elements in blocks of " ++ toString block ++
        " overflows the grid"
  | crashed name => "Function " ++ name ++ " crashed"

end KernelForge
