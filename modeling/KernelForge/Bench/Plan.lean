import KernelForge.Kernel.Cache

/-!
# Plans of builds

A plan says how a value of a cache is built, requests for other keys included, so that nested and
failing builds can be tried out. Every request and every build that begins is noted together with the
cache as it then was.
-/

namespace KernelForge.Bench

/-- How a value is built. -/
inductive Plan where
  | value (n : Int)
  | fail (reason : String)
  /-- Requests another key and adds its value to that of the rest. The failure of the request ends the
  build unless it is passed over. -/
  | after (key : String) (plan : Plan) (passesOver : Bool) (rest : Plan)

/-- A build that begins, or a request that ends, and the cache at that point. -/
structure Event where
  begins : Bool
  key : String
  cache : BuildCache String Int

/-- A cache, what happened in it, and how many builders ran. -/
structure Trial where
  cache : BuildCache String Int
  events : List Event
  builds : Nat

namespace Trial

/-- Work that may make requests. -/
abbrev Building := ExceptT KernelError (StateM Trial)

/-- A trial of a cache that is empty. -/
def start (name : String) : Trial := ⟨.empty name, [], 0⟩

/-- The slot of the cache. -/
def slot : CacheSlot Trial String Int := ⟨Trial.cache, fun cache t => { t with cache := cache }⟩

/-- Forgets what happened. -/
def forget (t : Trial) : Trial := { t with events := [], builds := 0 }

/-- Notes that a build begins or a request ends. -/
def note (begins : Bool) (key : String) : Building Unit :=
  modify fun t => { t with events := t.events ++ [⟨begins, key, t.cache⟩] }

/-- Requests a key; the end is noted however the request ends. -/
def request (key : String) (build : Building Int) : Building Int := fun t =>
  let begun : Building Int := do
    note true key
    modify fun t => { t with builds := t.builds + 1 }
    build
  let (result, t) := slot.request key begun t
  let (_, t) := note false key t
  (result, t)

end Trial

/-- Builds a value as planned. -/
def Plan.build : Plan → Trial.Building Int
  | value n => pure n
  | fail reason => throw (.compilation (.rejected reason))
  | after key plan passesOver rest => do
      let request := Trial.request key plan.build
      let first ← if passesOver then tryCatch request fun _ => pure 0 else request
      return first + (← rest.build)

end KernelForge.Bench
