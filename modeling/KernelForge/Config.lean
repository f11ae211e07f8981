import KernelForge.Kernel.Error
import KernelForge.Text.Blank
import KernelForge.Text.Quoted

/-!
# Configuration

How kernels are rendered, compiled and launched, with defaults for everything that is not set. Values
can be read from an environment, whose values are raw text: where text is expected, bytes that are not
text count as not set, and so does a number or word that cannot be read.
-/

namespace KernelForge

/-- Text as a system hands it over: bytes, which need not spell characters. -/
structure RawText where
  bytes : List UInt8
  deriving DecidableEq, Repr

namespace RawText

/-- The bytes of a text. -/
def ofText (s : String) : RawText := ⟨s.toUTF8.data.toList⟩

/-- The text that the bytes spell, if they spell one. -/
def text? (raw : RawText) : Option String := String.fromUTF8? ⟨raw.bytes.toArray⟩

end RawText

/-- The name of a file. -/
abbrev FileName := RawText

/-- The count that a text spells, when it is below the bound: decimal digits, with or without a plus
sign before them. -/
def Text.parseCount? (bound : Nat) (text : String) : Option Nat :=
  let digits := match text.toList with
    | '+' :: rest => rest
    | all => all
  if digits.isEmpty || !digits.all Char.isDigit then none
  else
    let value := digits.foldl (fun n c => 10 * n + (c.toNat - '0'.toNat)) 0
    if value < bound then some value else none

/-- Names with their values. -/
abbrev Environment := List (String × RawText)

namespace Environment

/-- The value of a name, when it is text. -/
def text? (env : Environment) (name : String) : Option String :=
  (env.lookup name).bind RawText.text?

/-- The words that say no. -/
def negatives : List String := ["0", "false", "no", "off"]

/-- The truth value of a name: a few words say no, everything else says yes. -/
def flag? (env : Environment) (name : String) : Option Bool :=
  (env.text? name).map fun s => !negatives.contains (s.map Char.toLower)

end Environment

/-- A library for dense linear algebra, by how it uses threads. -/
inductive VectorLibrary where
  /-- Used from one thread; products are split among threads outside it. -/
  | singleThreaded (path : FileName)
  /-- Uses threads of its own. -/
  | multiThreaded (path : FileName)
  deriving DecidableEq

/-- How kernels are compiled on the host. -/
structure HostConfig where
  compiler : String
  flags : List String
  /-- Whether threading directives are obeyed. -/
  threads : Bool
  singleThreaded : Option FileName
  multiThreaded : Option FileName
  deriving DecidableEq

namespace HostConfig

instance : Inhabited HostConfig := ⟨⟨"cc", [], true, none, none⟩⟩

/-- The configuration that an environment describes. -/
def ofEnvironment (env : Environment) : HostConfig where
  compiler := (env.text? "FRX_CC").getD "cc"
  flags := ((env.text? "FRX_CFLAGS").map fun s =>
    (Text.words s.toList).map String.ofList).getD []
  threads := (env.flag? "FRX_OPENMP").getD true
  singleThreaded := env.lookup "FRX_CBLAS_ST"
  multiThreaded := env.lookup "FRX_CBLAS_MT"

/-- The chosen library; exactly one has to be set. -/
def vectorLibrary (config : HostConfig) : Except KernelError VectorLibrary :=
  match config.singleThreaded, config.multiThreaded with
  | some path, none => .ok (.singleThreaded path)
  | none, some path => .ok (.multiThreaded path)
  | some _, some _ => .error (.config .bothLibraries)
  | none, none => .error (.config .noLibrary)

/-- The record text of a configuration. -/
def describe (config : HostConfig) : String :=
  let path (p : FileName) : String := Text.quoted (p.text?.getD "")
  Text.recordText "HostConfig"
    [("cc", Text.quoted config.compiler),
      ("cflags", Text.listText (config.flags.map Text.quoted)),
      ("openmp", Text.boolText config.threads),
      ("cblas_st", Text.optionText (config.singleThreaded.map path)),
      ("cblas_mt", Text.optionText (config.multiThreaded.map path))]

end HostConfig

/-- Which device kernels run on, and in blocks of how many threads. -/
structure DeviceConfig where
  device : UInt64
  blockSize : UInt32
  deriving DecidableEq

namespace DeviceConfig

instance : Inhabited DeviceConfig := ⟨⟨0, 128⟩⟩

/-- The configuration that an environment describes. -/
def ofEnvironment (env : Environment) : DeviceConfig :=
  let count (name : String) (bound : Nat) : Option Nat :=
    (env.text? name).bind (Text.parseCount? bound)
  { device := ((count "FRX_CUDA_DEVICE" UInt64.size).map UInt64.ofNat).getD 0
    blockSize := ((count "FRX_CUDA_BLOCK_SIZE" UInt32.size).map UInt32.ofNat).getD 128 }

end DeviceConfig

/-- A complete configuration. -/
structure Config where
  precision : Precision
  host : HostConfig
  device : DeviceConfig
  deriving DecidableEq, Inhabited

/-- The configuration that an environment describes. -/
def Config.ofEnvironment (env : Environment) : Config where
  precision := ((env.text? "FRX_PRECISION").bind Precision.parse?).getD default
  host := .ofEnvironment env
  device := .ofEnvironment env

end KernelForge
