import KernelForge.Compiler.Mathematics
import KernelForge.Host.Digits
import KernelForge.Host.Space
import Std.Data.HashMap

/-!
# Functions of the library

Functions that every program finds: mathematics, memory, and questions of threads about their team.
-/

namespace KernelForge.Host

open Code

/-- The thread that calls a function. -/
structure Asking where
  rank : Nat
  size : Nat
  depth : Nat

namespace Library

/-- The functions for threads. -/
def teamNames : List String :=
  ["omp_get_thread_num", "omp_get_num_threads", "omp_get_max_threads", "omp_get_num_procs", "omp_in_parallel",
    "omp_set_num_threads", "omp_set_dynamic", "omp_get_dynamic", "omp_set_nested", "omp_get_nested",
    "omp_set_max_active_levels", "omp_get_max_active_levels", "omp_get_level", "omp_get_active_level",
    "omp_get_thread_limit", "omp_get_wtime", "omp_get_wtick", "omp_init_lock", "omp_destroy_lock",
    "omp_set_lock", "omp_unset_lock", "omp_test_lock", "omp_init_nest_lock", "omp_destroy_nest_lock",
    "omp_set_nest_lock", "omp_unset_nest_lock", "omp_test_nest_lock", "omp_get_team_size",
    "omp_get_ancestor_thread_num", "omp_in_final", "omp_get_num_devices", "omp_get_default_device",
    "omp_set_default_device", "omp_is_initial_device", "omp_get_initial_device", "omp_get_num_teams",
    "omp_get_team_num", "omp_get_cancellation", "omp_get_proc_bind", "omp_get_num_places",
    "omp_set_schedule", "omp_get_max_task_priority"]

/-- The functions on memory and others without source. -/
def plainNames : List String :=
  ["malloc", "calloc", "realloc", "free", "aligned_alloc", "memalign", "posix_memalign", "malloc_usable_size",
    "memcpy", "memmove", "mempcpy", "__memcpy_chk", "memset", "abort", "exit", "_exit", "_Exit", "getenv",
    "time", "clock", "getpid", "fflush", "perror", "__assert_fail", "atexit", "raise", "sched_yield",
    "usleep", "sysconf", "__read_decimal", "__write_number"]

/-- The mathematical functions. -/
def mathNames : List String :=
  let wide (names : List String) : List String := names.flatMap fun n => [n, n ++ "f", n ++ "l"]
  wide (Mathematics.unaryNames ++ Mathematics.binaryNames ++ Mathematics.scaleNames ++
    Mathematics.integerNames.map (·.1) ++ ["ilogb", "fma"])

/-- The reserved names of functions on digits. -/
def digitNames : List String := Mathematics.digitFunctions.map fun f => "__builtin_" ++ f.1

/-- All functions, by number. -/
def names : Array String := (mathNames ++ digitNames ++ plainNames ++ teamNames).toArray

/-- The numbers of functions. -/
def numbers : Std.HashMap String Nat := .ofList (names.toList.zipIdx)

/-- The number of processors. -/
def processors : Nat := 4

/-- A question of a thread. -/
def team (name : String) (args : List Nat) (asking : Asking) (space : Space) : Nat × Space :=
  let say (n : Nat) : Nat × Space := (n, space)
  match name, args with
  | "omp_get_thread_num", _ => say asking.rank
  | "omp_get_num_threads", _ => say asking.size
  | "omp_get_max_threads", _ => say space.threads
  | "omp_get_num_procs", _ => say processors
  | "omp_in_parallel", _ => say (if 1 < asking.size then 1 else 0)
  | "omp_set_num_threads", [n] => (0, { space with threads := if 0 < n && n < twoPow 31 then n else 1 })
  | "omp_set_nested", [n] => (0, { space with levels := if n = 0 then 1 else 255 })
  | "omp_get_nested", _ => say (if 1 < space.levels then 1 else 0)
  | "omp_set_max_active_levels", [n] => (0, { space with levels := n })
  | "omp_get_max_active_levels", _ => say space.levels
  | "omp_get_level", _ => say asking.depth
  | "omp_get_active_level", _ => say (if 1 < asking.size then 1 else 0)
  | "omp_get_thread_limit", _ => say 2147483647
  | "omp_test_lock", _ | "omp_test_nest_lock", _ | "omp_is_initial_device", _ | "omp_get_num_teams", _ => say 1
  | "omp_get_team_size", [n] => say (if n = 0 then 1 else if n = asking.depth then asking.size else 4294967295)
  | "omp_get_ancestor_thread_num", [n] =>
      say (if n = asking.depth then asking.rank else if n = 0 then 0 else 4294967295)
  | "omp_get_wtick", _ => say 0x3e112e0be826d695
  | _, _ => say 0

/-- A function on memory. -/
def plain (name : String) (args : List Nat) (space : Space) : Except Fault (Nat × Space) :=
  let give (found : Option Space) (w : Nat) : Except Fault (Nat × Space) :=
    match found with
    | some space => .ok (w, space)
    | none => .error (.badAddress w)
  match name, args with
  | "malloc", [n] => .ok (space.allocate n 16)
  | "calloc", [m, n] =>
      let (a, space) := space.allocate (m * n) 16
      if a = 0 then .ok (0, space) else give (space.set? a (m * n) 0) a
  | "aligned_alloc", [align, n] | "memalign", [align, n] => .ok (space.allocate n align)
  | "posix_memalign", [place, align, n] =>
      let (a, space) := space.allocate n align
      give (space.write? place 8 (UInt64.ofNat a)) 0
  | "realloc", [old, n] =>
      let kept := if old = 0 then 0 else space.blockSize old
      let (a, space) := space.allocate n 16
      if a = 0 then .ok (0, space)
      else
        match space.copy? a old (min kept n) with
        | some space => .ok (a, space.release old)
        | none => .error (.badAddress old)
  | "free", [a] => .ok (0, space.release a)
  | "malloc_usable_size", [a] => .ok (space.blockSize a, space)
  | "memcpy", target :: source :: n :: _ | "memmove", target :: source :: n :: _
  | "__memcpy_chk", target :: source :: n :: _ => give (space.copy? target source n) target
  | "mempcpy", [target, source, n] => give (space.copy? target source n) (target + n)
  | "memset", [target, byte, n] => give (space.set? target n (UInt8.ofNat byte)) target
  | "__read_decimal", [text, place] =>
      match space.textAt text [] 4096 with
      | some bytes =>
          let (word, n) := Digits.readNumber (bytes.map fun b => Char.ofNat b.toNat)
          give (space.write? place 8 (UInt64.ofNat n)) word
      | none => .error (.badAddress text)
  | "__write_number", [place, letter, isForced, places, bits] =>
      let wanted := if places < twoPow 31 then some places else none
      let text := Digits.written (Char.ofNat letter) (isForced ≠ 0) wanted bits
      give (space.writeBytes place text.toUTF8.data.toList) text.length
  | "abort", _ | "exit", _ | "_exit", _ | "_Exit", _ | "__assert_fail", _ | "raise", _ => .error .stopped
  | _, _ => .ok (0, space)

/-- Calls a function by its number. -/
def call (number : Nat) (args : List Nat) (asking : Asking) (space : Space) : Except Fault (Nat × Space) :=
  let name := names.getD number ""
  if number < mathNames.length + digitNames.length then
    match Mathematics.call? name args with
    | some w => .ok (w, space)
    | none => .error .badInstruction
  else if teamNames.contains name then .ok (team name args asking space)
  else plain name args space

end Library

end KernelForge.Host
