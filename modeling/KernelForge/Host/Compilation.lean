import KernelForge.Compiler.Assembly
import KernelForge.Compiler.Keyword
import KernelForge.Host.Order
import KernelForge.Host.Tool

/-!
# Compiling under a configuration

What a compiler that is run on a source text leaves behind.
-/

namespace KernelForge.Host

open Compiler

/-- What compilation leaves behind. -/
inductive Compiled where
  | module (object : ObjectCode) (order : Order)
  /-- No module, although the compiler ended well. -/
  | nothing
  | refused

/-- The name of the file that holds the source. -/
def sourceName : String := "module.c"

namespace Order

variable (order : Order)

/-- The names that a module shows and asks for, when all of them get another letter in front. -/
def withLeaders (object : ObjectCode) : ObjectCode :=
  if order.isWhole then { object with exports := [] }
  else if order.hasLeader then
    { object with exports := [], imports := object.imports.map ("_" ++ ·) }
  else object

/-- Compiles a source text. -/
def compile (source : String) : Compiled :=
  if order.product = .nothing then .nothing
  else
    match readSource order.setting order.header order.definitions order.included.reverse sourceName source with
    | .error _ => .refused
    | .ok lexemes =>
        if order.product = .expanded then .nothing
        else
          match readUnit order.setting (markKeywords order.setting lexemes) with
          | .error _ => .refused
          | .ok state =>
              if order.product = .module then .module (order.withLeaders state.assemble) order else .nothing

end Order

/-- The flags that a compiler adds to the given ones, unless they ask for another revision of the
language than its own. -/
def ownFlags (own flags : List String) : Option (List String) :=
  match own with
  | ["-std=c89"] =>
      if flags.any ["-ansi", "-std=c89", "-std=iso9899:1990"].contains then some []
      else if flags.any fun f => (after? "-std=" f).isSome then none
      else some own
  | ["-std=c99"] =>
      if flags.any ["-std=c99", "-std=c9x", "-std=iso9899:1999", "-std=iso9899:199x"].contains then some []
      else if flags.any fun f => f = "-ansi" || (after? "-std=" f).isSome then none
      else some own
  | own => some own

/-- Compiles source with a compiler that adds flags of its own. -/
def compileSource (own : List String) (config : HostConfig) (source : String) : Compiled :=
  match ownFlags own config.flags with
  | none => .refused
  | some own =>
      match Order.ofFlags config.threads (own ++ config.flags) with
      | none => .refused
      | some order => order.compile source

end KernelForge.Host
