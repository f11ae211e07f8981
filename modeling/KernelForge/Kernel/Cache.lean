import KernelForge.Kernel.Error
import KernelForge.Text.Quoted

/-!
# Caches of built values

A cache builds the value of a key on first use and keeps it. While a key is being built its gate is
closed and the key is marked; a request for a marked key, which can only come from inside its own
build, is refused. A failed build leaves no value behind. A builder is a computation on a state that
holds the cache, so it may make requests of its own.
-/

namespace KernelForge

/-- Values by the keys that they were built for, with counters. -/
structure BuildCache (K V : Type) where
  name : String
  entries : List (K × V)
  /-- Keys whose build is under way or waited for. -/
  gates : List K
  /-- Keys that are being built. -/
  marked : List K
  hits : Nat
  builds : Nat

namespace BuildCache

variable {K V : Type} [DecidableEq K]

/-- A cache without values. -/
def empty (name : String) : BuildCache K V := ⟨name, [], [], [], 0, 0⟩

variable (cache : BuildCache K V)

/-- The value of a key that was built. -/
def get? (key : K) : Option V := cache.entries.lookup key

/-- How many keys were built. -/
def size : Nat := cache.entries.length

/-- How many gates are closed. -/
def pending : Nat := cache.gates.length

/-- Counts a request that found its value. -/
def countHit : BuildCache K V := { cache with hits := cache.hits + 1 }

/-- Closes the gate of a key and marks it. -/
def enter (key : K) : BuildCache K V :=
  { cache with gates := key :: cache.gates, marked := key :: cache.marked }

/-- Takes the mark of a key away and opens its gate. -/
def leave (key : K) : BuildCache K V :=
  { cache with gates := cache.gates.erase key, marked := cache.marked.erase key }

/-- Keeps the value of a key. -/
def keep (key : K) (value : V) : BuildCache K V :=
  { cache with entries := (key, value) :: cache.entries, builds := cache.builds + 1 }

/-- The record text of a cache. -/
def describe : String :=
  Text.recordText "KernelCache"
    [("name", Text.quoted cache.name), ("len", toString cache.size),
      ("hits", toString cache.hits), ("builds", toString cache.builds),
      ("pending", toString cache.pending)]

end BuildCache

/-- Where a state keeps a cache. -/
structure CacheSlot (S K V : Type) where
  get : S → BuildCache K V
  set : BuildCache K V → S → S

namespace CacheSlot

variable {S K V : Type} [DecidableEq K]

/-- Changes the cache of a state. -/
def modify (slot : CacheSlot S K V) (f : BuildCache K V → BuildCache K V) (s : S) : S :=
  slot.set (f (slot.get s)) s

/-- The value of a key, built on first use. -/
def request (slot : CacheSlot S K V) (key : K) (build : ExceptT KernelError (StateM S) V) :
    ExceptT KernelError (StateM S) V := fun s =>
  match (slot.get s).get? key with
  | some value => (.ok value, slot.modify .countHit s)
  | none =>
      if key ∈ (slot.get s).marked then (.error (.reentrantBuild (slot.get s).name), s)
      else
        let (result, s) := build (slot.modify (·.enter key) s)
        match result with
        | .ok value => (.ok value, slot.modify (fun cache => (cache.keep key value).leave key) s)
        | .error error => (.error error, slot.modify (·.leave key) s)

end CacheSlot

end KernelForge
