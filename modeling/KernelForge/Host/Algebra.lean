import KernelForge.Host.Backend
import KernelForge.Kernel.Combination

/-!
# Dense linear algebra

Products and norms by the routines of a library. With a library that works on one thread, a product
goes through the built-in kernel that gives every thread a block of columns; with any other library
the routine is called directly. Operands are checked before anything is rendered or built.
-/

namespace KernelForge.Host

open Code Compiler

/-- How products are computed. -/
inductive ProductStrategy where
  | partitioned
  | vendor
  deriving DecidableEq, Repr

/-- The word for a strategy in record texts. -/
def ProductStrategy.label : ProductStrategy → String
  | partitioned => "Partitioned"
  | vendor => "Vendor"

/-- The addresses of the routines of a library. -/
structure Routines where
  productDouble : UInt64
  productSingle : UInt64
  normDouble : UInt64
  normSingle : UInt64
  deriving DecidableEq, Repr

namespace Routines

/-- The product routine for an element type. -/
def product (routines : Routines) : ElementType → UInt64
  | .float32 => routines.productSingle
  | _ => routines.productDouble

/-- The norm routine for an element type. -/
def norm (routines : Routines) : ElementType → UInt64
  | .float32 => routines.normSingle
  | _ => routines.normDouble

end Routines

/-- A library in use. -/
structure Algebra where
  strategy : ProductStrategy
  routines : Routines
  deriving DecidableEq, Repr

/-- Libraries that can be opened but have no routines. The empty name opens the program itself. -/
def plainLibraries : List String :=
  ["", "libm.so.6", "libc.so.6", "libdl.so.2", "libpthread.so.0", "librt.so.1", "libutil.so.1", "libgcc_s.so.1",
    "ld-linux-x86-64.so.2", "libresolv.so.2", "libanl.so.1", "libnss_files.so.2", "libmvec.so.1",
    "libBrokenLocale.so.1", "libnsl.so.1", "libthread_db.so.1", "libcrypt.so.1", "libz.so.1"]

/-- The directories that libraries lie in. -/
def libraryDirectories : List String :=
  ["/lib/x86_64-linux-gnu/", "/usr/lib/x86_64-linux-gnu/", "/lib64/", "/usr/lib64/"]

/-- Whether a file is a library without routines. -/
def isPlainLibrary (text : String) : Bool :=
  plainLibraries.contains text ||
    (libraryDirectories.findSome? fun d => after? d text).any fun name =>
      !name.isEmpty && plainLibraries.contains name

/-- The module that a file belongs to; a plain library has none. -/
def openLibrary (path : FileName) : HostM (Option ModuleFile) := do
  let count := (← get).own.program.size
  let text := path.text?.getD ""
  match (List.range count).find? fun i => (ModuleFile.mk i).path = text with
  | some i => return some ⟨i⟩
  | none =>
      if isPlainLibrary text && path.text?.isSome then return none
      else throw (.libraryLoad text)

/-- The address of a routine. -/
def findRoutine (library : Option ModuleFile) (name : String) : HostM UInt64 := do
  let program := (← get).own.program
  match library.bind fun file => symbolAddress? program file name with
  | some address => return UInt64.ofNat address
  | none => throw (.symbolNotFound name)

namespace Algebra

/-- Opens the configured library. -/
def create (config : HostConfig) : HostM Algebra := do
  let (path, strategy) ← match config.vectorLibrary with
    | .ok (.singleThreaded path) => pure (path, ProductStrategy.partitioned)
    | .ok (.multiThreaded path) => pure (path, ProductStrategy.vendor)
    | .error error => throw error
  let library ← openLibrary path
  let productDouble ← findRoutine library "cblas_dgemm"
  let productSingle ← findRoutine library "cblas_sgemm"
  let normDouble ← findRoutine library "cblas_dnrm2"
  let normSingle ← findRoutine library "cblas_snrm2"
  return ⟨strategy, ⟨productDouble, productSingle, normDouble, normSingle⟩⟩

/-- The record text of a library in use. -/
def describe (algebra : Algebra) : String :=
  Text.recordText "CblasKernels" [("strategy", algebra.strategy.label)]

end Algebra

/-- The sizes of a product `out = a * b` and the leading dimensions of its operands. -/
structure ProductShape where
  rows : Int32
  columns : Int32
  inner : Int32
  leadingA : Int32
  leadingB : Int32
  leadingOut : Int32
  deriving DecidableEq, Repr

/-- A size as a 32-bit integer. -/
def sizeInt32 (what : String) (n : UInt64) : Except KernelError Int32 :=
  if n.toNat < twoPow 31 then .ok (Int32.ofNat n.toNat)
  else .error (.incompatibleShape (.tooWide what n))

/-- The shape of a product, when its operands are dense, of one floating-point type and fit. -/
def ProductShape.ofOperands (a b out : Matrix) : Except KernelError ProductShape := do
  if a.layout.density ≠ .dense then
    throw (.incompatibleTraits (.notDense a.layout.density))
  let type := a.elementType
  unless type.isFloat && b.elementType = type && out.elementType = type do
    throw (.incompatibleTraits (.mixedTypes type b.elementType out.elementType))
  let size (m : Matrix) : UInt64 × UInt64 := (m.layout.rows, m.layout.columns)
  unless a.layout.rows = out.layout.rows && a.layout.columns = b.layout.rows &&
      b.layout.columns = out.layout.columns do
    throw (.incompatibleShape (.product (size a) (size b) (size out)))
  return {
    rows := ← sizeInt32 "rows" a.layout.rows
    columns := ← sizeInt32 "columns" b.layout.columns
    inner := ← sizeInt32 "inner dimension" a.layout.columns
    leadingA := ← sizeInt32 "lda" a.layout.leading
    leadingB := ← sizeInt32 "ldb" b.layout.leading
    leadingOut := ← sizeInt32 "ldc" out.layout.leading }

/-- A product by one call of the library. -/
structure VendorProduct where
  routine : UInt64
  a : Matrix
  b : Matrix
  out : Matrix
  alpha : Binary64
  beta : Binary64
  shape : ProductShape
  deriving DecidableEq

/-- The norm of all elements of a matrix, padding included, and its last result. -/
structure NormKernel where
  routine : UInt64
  x : Matrix
  count : Int32
  result : Option Scalar
  deriving DecidableEq

/-- Refuses arguments of a run. -/
def expectNoArguments (who : String) (args : List Scalar) : HostM Unit :=
  if args.isEmpty then pure ()
  else throw (.argumentMismatch (.unexpected (who ++ " takes") args.length))

/-- The word of an `int`. -/
def intWord (n : Int32) : Nat := IntKind.int.word n.toInt

/-- The word of a floating-point number in the width of an element type. -/
def floatWord (type : ElementType) (x : Binary64) : Nat :=
  match type with
  | .float32 => x.toBinary32.bits.toNat
  | _ => x.bits.toNat

namespace VendorProduct

/-- The argument list of the routine. -/
def arguments (k : VendorProduct) : List Nat :=
  let type := k.a.elementType
  [Builtin.Product.rowMajor, Builtin.Product.noTranspose, Builtin.Product.noTranspose, intWord k.shape.rows,
    intWord k.shape.columns, intWord k.shape.inner, floatWord type k.alpha, k.a.address.toNat,
    intWord k.shape.leadingA, k.b.address.toNat, intWord k.shape.leadingB, floatWord type k.beta,
    k.out.address.toNat, intWord k.shape.leadingOut]

/-- Calls the routine. -/
def run (k : VendorProduct) (args : List Scalar) : HostM Unit := do
  expectNoArguments "mul" args
  let _ ← callAddress "mul" k.routine.toNat k.arguments

end VendorProduct

namespace NormKernel

/-- Calls the routine and gives the kernel with its result. -/
def run (k : NormKernel) (args : List Scalar) : HostM NormKernel := do
  expectNoArguments "nrm2" args
  let word ← callAddress "nrm2" k.routine.toNat [intWord k.count, k.x.address.toNat, intWord 1]
  match k.x.elementType with
  | .float32 => return { k with result := some (.float32 ⟨UInt32.ofNat word⟩) }
  | _ => return { k with result := some (.float64 ⟨UInt64.ofNat word⟩) }

end NormKernel

/-- A product in one of its two forms. -/
inductive ProductKernel (Fn : Type) where
  | partitioned (kernel : BoundKernel Fn)
  | vendor (kernel : VendorProduct)

namespace Algebra

variable (algebra : Algebra)

/-- The operands of the built-in product kernel. -/
def partitionedOperands (a b out : Matrix) (alpha beta : Binary64) (shape : ProductShape) :
    Operands :=
  let int (n : Int32) : Operand := .scalar (.int32 n)
  let float (x : Binary64) : Operand := .scalar ((Scalar.float64 x).cast a.elementType)
  .ofList [("gemm", .pointer (algebra.routines.product a.elementType)), ("M", int shape.rows),
    ("N", int shape.columns), ("K", int shape.inner), ("alpha", float alpha), ("a", .matrix a),
    ("lda", int shape.leadingA), ("b", .matrix b), ("ldb", int shape.leadingB),
    ("beta", float beta), ("c", .matrix out), ("ldc", int shape.leadingOut)]

/-- The product `out = alpha * a * b + beta * out`. -/
def product {Fn σ : Type} (backend : Backend Fn σ) (a b out : Matrix) (alpha beta : Binary64) :
    SessionM Fn σ (ProductKernel Fn) := do
  let shape ← Session.ofExcept (ProductShape.ofOperands a b out)
  match algebra.strategy with
  | .vendor =>
      return .vendor ⟨algebra.routines.product a.elementType, a, b, out, alpha, beta, shape⟩
  | .partitioned =>
      let params : Params :=
        NameMap.empty.insert Params.floatTypeName (.elementType a.elementType)
      let (function, contract) ←
        backend.function Builtin.Product.kernelName Builtin.Product.module params
      let operands := algebra.partitionedOperands a b out alpha beta shape
      return .partitioned (← Session.ofExcept (Backend.bind function contract [] operands))

/-- The norm of a matrix. -/
def norm (x : Matrix) : Except KernelError NormKernel := do
  x.layout.requireFloat
  return ⟨algebra.routines.norm x.elementType, x, ← sizeInt32 "element count" x.layout.elements,
    none⟩

end Algebra

end KernelForge.Host

namespace KernelForge.Host.Reference

/-! ### The routines by plain loops, as source of a module -/

/-- The product routine for an element type. -/
def product (name type : String) : String :=
  "void " ++ name ++ "(int order, int transa, int transb, int m, int n, int k,\n" ++
  "    " ++ type ++ " alpha, const " ++ type ++ "* a, int lda, const " ++ type ++ "* b, int ldb,\n" ++
  "    " ++ type ++ " beta, " ++ type ++ "* c, int ldc)\n" ++
  "\x7b\n" ++
  "    for (int i = 0; i < m; i++)\n" ++
  "        for (int j = 0; j < n; j++)\n" ++
  "        \x7b\n" ++
  "            " ++ type ++ " s = 0;\n" ++
  "            for (int p = 0; p < k; p++)\n" ++
  "                s += a[(long long)i*lda + p]*b[(long long)p*ldb + j];\n" ++
  "            " ++ type ++ "* r = c + (long long)i*ldc + j;\n" ++
  "            *r = (beta == 0 ? 0 : beta * *r) + alpha*s;\n" ++
  "        \x7d\n" ++
  "\x7d\n\n"

/-- The norm routine for an element type. -/
def norm (name type root : String) : String :=
  type ++ " " ++ name ++ "(int n, const " ++ type ++ "* x, int incx)\n" ++
  "\x7b\n" ++
  "    " ++ type ++ " s = 0;\n" ++
  "    for (int i = 0; i < n; i++)\n" ++
  "        s += x[(long long)i*incx]*x[(long long)i*incx];\n" ++
  "    return " ++ root ++ "(s);\n" ++
  "\x7d\n\n"

/-- A module with all four routines. -/
def source : String :=
  "#include <math.h>\n\n" ++ product "cblas_dgemm" "double" ++ product "cblas_sgemm" "float" ++
    norm "cblas_dnrm2" "double" "sqrt" ++ norm "cblas_snrm2" "float" "sqrtf"

end KernelForge.Host.Reference
