import KernelForge.Template.Script

/-!
# The built-in kernels

Linear combination, copy, gathering into and scattering from an exchange matrix, and a matrix product
that gives every thread a block of columns. The bodies of the kernels are trees, so that what they
compute can be stated; the texts are what the trees print as.
-/

namespace KernelForge.Builtin

open Code

/-- The element index of a kernel over one dimension. -/
def elementIndex : Expr := .var "_x"

/-- An `int` literal. -/
def intLit (n : Nat) : Expr := .intLit n .int

/-- An element of a matrix at the element index. -/
def elementOf (name : String) : Expr := .index (.var name) elementIndex

/-- The name of the `i`-th operand or coefficient. -/
def numbered (letter : String) (i : Nat) : String := letter ++ toString i

namespace Combination

def module : String := "frx.kernels.axnpby"
def kernelName : String := "axnpby"

/-- The number of operands that are added up. -/
def countParam : String := "n"

/-- The result, its factor, then every operand with its factor. -/
def arguments (floatType : ElementType) (n : Nat) : List Argument :=
  ⟨"y", .inOut, .matrix floatType false⟩ :: ⟨"beta", .input, .scalar floatType⟩ ::
    (List.range n).flatMap fun i =>
      [⟨numbered "x" i, .input, .matrix floatType false⟩,
        ⟨numbered "a" i, .input, .scalar floatType⟩]

/-- The sum of the weighted operands. -/
def sum (n : Nat) : Expr :=
  (List.range n).foldl
    (fun e i => .binary .add e
      (.binary .mul (.var (numbered "a" i)) (elementOf (numbered "x" i))))
    (intLit 0)

/-- The old result is not read when its factor is zero. -/
def body (floatType : ElementType) (n : Nat) : List Stmt :=
  [.declare [⟨"axn", floatType.cType, false, some (sum n)⟩],
    .expr (.assign (elementOf "y")
      (.cond (.paren (.binary .eq (.var "beta") (intLit 0)))
        (.var "axn")
        (.binary .add (.binary .mul (.var "beta") (elementOf "y")) (.var "axn"))))]

def template : Template where
  script setting params :=
    .withValue (params.count countParam) fun n =>
      .declare kernelName 1 (arguments setting.floatType n)
        (bodyText (moduleTypeNames setting.floatType) (body setting.floatType n))

end Combination

namespace Copy

def module : String := "frx.kernels.copy"
def kernelName : String := "copy"

def arguments (floatType : ElementType) : List Argument :=
  [⟨"dst", .output, .matrix floatType false⟩, ⟨"src", .input, .matrix floatType false⟩]

def body : List Stmt := [.expr (.assign (elementOf "dst") (elementOf "src"))]

def template : Template where
  script setting _ := .declare kernelName 1 (arguments setting.floatType) (bodyText [] body)

end Copy

namespace Packing

def packModule : String := "frx.kernels.pack"
def unpackModule : String := "frx.kernels.unpack"
def packKernelName : String := "pack"
def unpackKernelName : String := "unpack"

/-- The rows and columns of a block. -/
def rowsParam : String := "nrv"
def columnsParam : String := "ncv"

/-- The gathered view and its exchange matrix, of which one is read and the other written. -/
def arguments (floatType : ElementType) (view exchange : Intent) : List Argument :=
  [⟨"v", view, .exchangeView floatType⟩, ⟨"m", exchange, .matrix floatType true⟩]

/-- A loop over `int` values from zero below a bound. -/
def countedLoop (index : String) (bound : Nat) (body : Stmt) : Stmt :=
  .for (.declare [⟨index, .int .int, false, some (intLit 0)⟩])
    (some (.binary .lt (.var index) (intLit bound)))
    (some (.count true true (.var index))) body

/-- Element `(r, c)` of the block: its address is in the mapping, its row stride in the strides. -/
def viewElement : Expr :=
  .index (.index (.var "v_vix") elementIndex)
    (.binary .add
      (.binary .mul (.var "r") (.index (.var "v_vstri") elementIndex)) (.var "c"))

/-- Its place in the exchange matrix: the block is a column, flattened row by row. -/
def exchangeElement (columns : Nat) : Expr :=
  .index (.var "m")
    (.binary .add
      (.binary .mul
        (.paren (.binary .add (.binary .mul (.var "r") (intLit columns)) (.var "c")))
        (.var "ldm"))
      elementIndex)

/-- Runs a statement for every element of a block. -/
def blockLoop (rows columns : Nat) (statement : Stmt) : List Stmt :=
  [countedLoop "r" rows (countedLoop "c" columns statement)]

/-- Copies a block into its column. -/
def packBody (rows columns : Nat) : List Stmt :=
  blockLoop rows columns (.expr (.assign (exchangeElement columns) viewElement))

/-- Copies a column back into its block. -/
def unpackBody (rows columns : Nat) : List Stmt :=
  blockLoop rows columns (.expr (.assign viewElement (exchangeElement columns)))

/-- A kernel over the blocks of a view. -/
def template (name : String) (view exchange : Intent) (body : Nat → Nat → List Stmt) : Template where
  script setting params :=
    .withValue (params.count columnsParam) fun columns =>
      .withValue (params.count rowsParam) fun rows =>
        .declare name 1 (arguments setting.floatType view exchange)
          (bodyText [] (body rows columns))

def pack : Template := template packKernelName .input .output packBody
def unpack : Template := template unpackKernelName .output .input unpackBody

end Packing

namespace Product

def module : String := "frx.kernels.par_gemm"
def kernelName : String := "par_gemm"

/-- The library's codes for matrices that are stored by rows and not transposed. -/
def rowMajor : Nat := 101
def noTranspose : Nat := 111

/-- The declaration of the type of the library routine. -/
def routineType : String :=
  "typedef void (*gemm_t)(int, int, int, int, int, int,\n" ++
  "                       fpdtype_t, const fpdtype_t*, int, const fpdtype_t*, int,\n" ++
  "                       fpdtype_t, fpdtype_t*, int);"

/-- The type of the library routine, which is known by its address. -/
def routine : CType := .pointer (.function .void) false

/-- The names that the module gives to types. -/
def typeNames : TypeNames := [(routine, "gemm_t")]

def partitionName : String := "frx_partition"

/-- The range of columns for the calling thread: equal chunks, the last ones cut at the end. -/
def partitionBody : List Stmt :=
  let smaller (a b : Expr) (place : Expr) : Stmt :=
    .expr (.assign place (.cond (.binary .lt a b) a b))
  [.declare [⟨"nth", .int .int, false, some (.call (.var "omp_get_num_threads") [])⟩,
      ⟨"tid", .int .int, false, some (.call (.var "omp_get_thread_num") [])⟩],
    .declare [⟨"chunk", .int .int, false,
      some (.binary .div
        (.paren (.binary .sub (.binary .add (.var "n") (.var "nth")) (intLit 1)))
        (.var "nth"))⟩],
    smaller (.binary .mul (.var "tid") (.var "chunk")) (.var "n") (.deref (.var "begin")),
    smaller (.binary .add (.deref (.var "begin")) (.var "chunk")) (.var "n")
      (.deref (.var "end"))]

def arguments (floatType : ElementType) : List Argument :=
  let scalar (name : String) (type : ElementType) : Argument := ⟨name, .input, .scalar type⟩
  let matrix (name : String) (intent : Intent) : Argument :=
    ⟨name, intent, .matrix floatType false⟩
  [⟨"gemm", .input, .pointer⟩, scalar "M" .int32, scalar "N" .int32, scalar "K" .int32,
    scalar "alpha" floatType, matrix "a" .input, scalar "lda" .int32, matrix "b" .input,
    scalar "ldb" .int32, scalar "beta" floatType, matrix "c" .inOut, scalar "ldc" .int32]

/-- The product of a block of columns by the library routine. -/
def blockCall : Expr :=
  .call (.var "fn") [intLit rowMajor, intLit noTranspose, intLit noTranspose, .var "M",
    .binary .sub (.var "end") (.var "begin"), .var "K", .var "alpha", .var "a", .var "lda",
    .binary .add (.var "b") (.var "begin"), .var "ldb", .var "beta",
    .binary .add (.var "c") (.var "begin"), .var "ldc"]

/-- What every thread of a team does: it multiplies its own block of columns, unless there are none. -/
def threadBody : List Stmt :=
  [.declare [⟨"begin", .int .int, false, none⟩, ⟨"end", .int .int, false, none⟩],
    .expr (.call (.var partitionName)
      [.var "N", .addressOf (.var "begin"), .addressOf (.var "end")]),
    .ifElse (.binary .lt (.var "begin") (.var "end")) (.expr blockCall) .empty]

/-- Every thread multiplies its own block of columns. -/
def body : List Stmt :=
  [.declare [⟨"fn", routine, false, some (.cast routine (.var "gemm"))⟩],
    .parallel (.block threadBody)]

def template : Template where
  script setting _ :=
    if setting.target = .host then
      .emit routineType <|
        .function "void" partitionName "int n, int* begin, int* end" (bodyText [] partitionBody) <|
          .declare kernelName 0 (arguments setting.floatType) (bodyText typeNames body)
    else .fail (.unsupportedTarget setting.module setting.target)

end Product

/-- The built-in templates by module. -/
def templates : List (String × Template) :=
  [(Combination.module, Combination.template), (Copy.module, Copy.template),
    (Packing.packModule, Packing.pack), (Packing.unpackModule, Packing.unpack),
    (Product.module, Product.template)]

end KernelForge.Builtin
