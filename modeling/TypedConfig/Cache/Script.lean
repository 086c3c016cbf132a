import TypedConfig.Cache

namespace TypedConfig.Cache

/-- Work with a cache, which ends with a validator or fails. What it does next may depend on
everything that it has seen. -/
inductive Script (ε : Type) where
  | done (result : Except ε Validator)
  /-- The cache is looked at: its epoch, its keys, and whatever it keeps. -/
  | look (next : Cache → Script ε)
  | clear (next : Script ε)
  /-- A validator is asked for, at the epoch that lasts now or at any other. -/
  | request (epoch : Option Nat) (signature : String) (builder : Script ε)
      (next : Except ε Instance → Script ε)

/-- A request for a validator that has been answered, and the cache at that time. -/
structure Reply (ε : Type) where
  epoch : Nat
  signature : String
  /-- What the builder came to, with the cache that it left; nothing, if it was not run. -/
  built : Option (Except ε Validator × Cache)
  answer : Except ε Instance
  cache : Cache

/-- The answer is what the builder of the request itself has built. -/
def Reply.Made {ε : Type} (reply : Reply ε) (kept : Instance) : Prop :=
  ∃ left, reply.built = some (.ok kept.validator, left) ∧ kept.serial = left.builds ∧
    reply.answer = .ok kept

/-- What was done to a cache. -/
inductive Event (ε : Type) where
  | cleared (cache : Cache)
  | answered (reply : Reply ε)

/-- All that was done to a cache since it was empty, the latest first. -/
abbrev Trace (ε : Type) := List (Event ε)

namespace Event

variable {ε : Type}

/-- The cache afterwards. -/
def cache : Event ε → Cache
  | cleared cache => cache
  | answered reply => reply.cache

def isClearing : Event ε → Bool
  | cleared _ => true
  | answered _ => false

/-- The number of what was built, if a builder has run and succeeded. -/
def build? : Event ε → Option Nat
  | answered ⟨_, _, some (.ok _, left), _, _⟩ => some left.builds
  | answered _ | cleared _ => none

end Event

/-- The cache that a trace leads to. -/
def Trace.cache {ε : Type} : Trace ε → Cache
  | [] => .empty
  | event :: _ => event.cache

namespace Script

variable {ε : Type}

/-- A builder that leaves word of what it came to and of the cache it leaves. -/
def reporting (build : Cache × Trace ε → Except ε Validator × Cache × Trace ε) :
    Cache × Trace ε × Option (Except ε Validator × Cache) →
      Except ε Validator × Cache × Trace ε × Option (Except ε Validator × Cache) :=
  fun (cache, trace, _) =>
    let (result, cache, trace) := build (cache, trace)
    (result, cache, trace, some (result, cache))

def run : Script ε → Cache × Trace ε → Except ε Validator × Cache × Trace ε
  | .done result, state => (result, state)
  | .look next, (cache, trace) => (next cache).run (cache, trace)
  | .clear next, (cache, trace) => next.run (cache.clear, .cleared cache.clear :: trace)
  | .request none signature builder next, (cache, trace) =>
    let (answer, after, trace, built) :=
      provide signature (reporting builder.run) (cache, trace, none)
    (next answer).run (after, .answered ⟨cache.epoch, signature, built, answer, after⟩ :: trace)
  | .request (some epoch) signature builder next, (cache, trace) =>
    let (answer, after, trace, built) :=
      provideAt epoch signature (reporting builder.run) (cache, trace, none)
    (next answer).run (after, .answered ⟨epoch, signature, built, answer, after⟩ :: trace)

/-- All that the work does, from an empty cache on. -/
def trace (script : Script ε) : Trace ε := (script.run (.empty, [])).2.2

end Script

end TypedConfig.Cache
