import KernelForge.Source.Parameter
import KernelForge.Template.Error
import KernelForge.Text.Blank

/-!
# Source generators

A generator writes what surrounds a kernel body for one target: the prelude of a module, the loop or
guard over the elements, and helper functions. The host generator pairs every kernel with an entry
function that takes an array of addresses, one for each slot's value, and unpacks it into a call.
-/

namespace KernelForge

/-- What a target needs around kernel bodies. -/
structure Generator where
  target : Target
  /-- The text at the top of every module. -/
  prelude : ElementType → String
  /-- A kernel from its name, dimension count, arguments and body. -/
  kernel : String → UInt64 → List Argument → String → String
  /-- A helper function from its result type, name, parameter list and body. -/
  function : String → String → String → String → String

/-- Text between braces on lines of their own, at a level of indentation. -/
def bracedBlock (margin : String) (block : String) : String :=
  margin ++ "\x7b\n" ++ block ++ "\n" ++ margin ++ "\x7d"

/-- The head of a loop that counts from zero. -/
def countingLoop (index bound : String) : String :=
  "for (int " ++ index ++ " = 0; " ++ index ++ " < " ++ bound ++ "; " ++ index ++ "++)"

/-- The declaration of the floating-point type of a module. -/
def floatTypedef (type : ElementType) : String :=
  "typedef " ++ type.cName ++ " " ++ floatTypeAlias ++ ";\n"

namespace Host

/-- Headers, stand-ins for the threading functions when threading is off, and the module's type. -/
def prelude (type : ElementType) : String :=
  "#include <stdint.h>\n" ++
  "#include <math.h>\n" ++
  "\n" ++
  "#ifdef _OPENMP\n" ++
  "#include <omp.h>\n" ++
  "#else\n" ++
  "static inline int omp_get_num_threads(void) \x7b return 1; \x7d\n" ++
  "static inline int omp_get_thread_num(void) \x7b return 0; \x7d\n" ++
  "#endif\n" ++
  "\n" ++
  floatTypedef type

/-- The parameter list of a definition; an empty one is spelled out. -/
def parameterList (params : List SourceParameter) : String :=
  if params.isEmpty then "void"
  else ", ".intercalate (params.map (·.declaration "restrict"))

/-- How the entry function reads the value of slot `i` for a parameter. -/
def entryArgument (p : SourceParameter) (i : Nat) : String :=
  if p.isAddress then
    "(" ++ p.type ++ ")(uintptr_t)*(const uint64_t*)_args[" ++ toString i ++ "]"
  else "*(const " ++ p.type ++ "*)_args[" ++ toString i ++ "]"

/-- The entry function of a kernel. -/
def entry (name : String) (params : List SourceParameter) : String :=
  let head := "void " ++ name ++ "_entry(void** _args)\n"
  let unpacked := params.mapIdx fun i p => entryArgument p i
  if unpacked.isEmpty then
    head ++ "\x7b\n    (void)_args;\n    " ++ name ++ "();\n\x7d\n"
  else
    head ++ "\x7b\n    " ++ name ++ "(\n        " ++
      ",\n        ".intercalate unpacked ++ "\n    );\n\x7d\n"

/-- The body of a kernel inside its loops, the outermost of which is shared among threads. -/
def looped (ndim : UInt64) (body : String) : String :=
  let shared := "    #pragma omp parallel for\n"
  if ndim = 0 then bracedBlock "    " (Text.indent 2 body)
  else if ndim = 1 then
    shared ++ "    " ++ countingLoop "_x" "_nx" ++ "\n" ++
      bracedBlock "    " (Text.indent 2 body)
  else
    shared ++ "    " ++ countingLoop "_y" "_ny" ++ "\n" ++
      bracedBlock "    " ("        " ++ countingLoop "_x" "_nx" ++ "\n" ++
        bracedBlock "        " (Text.indent 3 body))

/-- A kernel and its entry function. -/
def kernel (name : String) (ndim : UInt64) (args : List Argument) (body : String) : String :=
  let params := SourceParameter.ofKernel ndim args
  "void " ++ name ++ "(" ++ parameterList params ++ ")\n\x7b\n" ++ looped ndim body ++
    "\n\x7d\n\n" ++ entry name params

/-- A helper function. -/
def function (result name params body : String) : String :=
  "static inline " ++ result ++ " " ++ name ++ "(" ++ params ++ ")\n\x7b\n" ++
    Text.indent 1 body ++ "\n\x7d\n"

/-- The generator of C source for the host. -/
def generator : Generator := ⟨.host, prelude, kernel, function⟩

end Host

namespace Cuda

/-- The index of the thread along the one launched dimension. -/
def threadIndex : String := "    int _x = blockIdx.x*blockDim.x + threadIdx.x;\n"

/-- The body of a kernel behind the guard that selects the threads that run it. -/
def guarded (ndim : UInt64) (body : String) : String :=
  if ndim = 0 then
    "    if (blockIdx.x == 0 && threadIdx.x == 0)\n" ++ bracedBlock "    " (Text.indent 2 body)
  else if ndim = 1 then
    threadIndex ++ "    if (_x < _nx)\n" ++ bracedBlock "    " (Text.indent 2 body)
  else
    threadIndex ++ "    if (_x < _nx)\n" ++
      bracedBlock "    " ("        " ++ countingLoop "_y" "_ny" ++ "\n" ++
        bracedBlock "        " (Text.indent 3 body))

/-- A kernel function for the device. -/
def kernel (name : String) (ndim : UInt64) (args : List Argument) (body : String) : String :=
  let params := (SourceParameter.ofKernel ndim args).map (·.declaration "__restrict__")
  "extern \"C\" __global__ void " ++ name ++ "(" ++ ", ".intercalate params ++ ")\n\x7b\n" ++
    guarded ndim body ++ "\n\x7d\n"

/-- A helper function for the device. -/
def function (result name params body : String) : String :=
  "__device__ __forceinline__ " ++ result ++ " " ++ name ++ "(" ++ params ++ ")\n\x7b\n" ++
    Text.indent 1 body ++ "\n\x7d\n"

/-- The generator of CUDA source. -/
def generator : Generator := ⟨.cuda, floatTypedef, kernel, function⟩

end Cuda

/-- The generator of a target. -/
def Generator.ofTarget : Target → Generator
  | .host => Host.generator
  | .cuda => Cuda.generator

end KernelForge
