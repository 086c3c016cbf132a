import TypedConfig.Entries
import TypedConfig.Text.Basic
import TypedConfig.Validator.Basic
/-!
The validators that have been built, by the text of their signatures.

Blanks around a signature do not belong to its key; apart from that the text counts, not its
meaning. Every clearing begins a new epoch, and a validator is kept only in the epoch for which
it was built. The first one under a key stays there.
-/
namespace TypedConfig

/-- A validator that was built. The number of builds before it tells it from every other. -/
structure Instance where
  serial : Nat
  validator : Validator

/-- The validators that are kept, with the number of clearings and of builds so far. -/
structure Cache where
  entries : List (String × Instance) := []
  epoch : Nat := 0
  builds : Nat := 0

namespace Cache

def empty : Cache := {}

/-- The key of a signature. -/
def key (signature : String) : String := Text.trim signature

/-- The validator that is kept for a signature. -/
def get? (cache : Cache) (signature : String) : Option Instance :=
  cache.entries.lookup (key signature)

/-- A validator has been built for an epoch. It is kept if that epoch still lasts and its key is
free; what answers the request is the one that is kept under the key, if the epoch lasts, and
otherwise the one that was built. -/
def store (cache : Cache) (epoch : Nat) (signature : String) (validator : Validator) :
    Instance × Cache :=
  let built : Instance := ⟨cache.builds, validator⟩
  let counted := { cache with builds := cache.builds + 1 }
  if cache.epoch ≠ epoch then (built, counted)
  else match cache.get? signature with
    | some kept => (kept, counted)
    | none => (built, { counted with entries := cache.entries ++ [(key signature, built)] })

/-- The validator for a signature, which is built if it is not kept. The builder may use the
cache itself, and change what lies outside; when it fails, whatever it did stays done. -/
def provideAt {σ ε : Type} (epoch : Nat) (signature : String)
    (build : Cache × σ → Except ε Validator × Cache × σ) (state : Cache × σ) :
    Except ε Instance × Cache × σ :=
  match state.1.get? signature with
  | some kept => (.ok kept, state)
  | none =>
    match build state with
    | (.error e, after) => (.error e, after)
    | (.ok validator, cache, outside) =>
      let (answer, cache) := cache.store epoch signature validator
      (.ok answer, cache, outside)

/-- The validator for a signature, built for the epoch in which it is asked for. -/
def provide {σ ε : Type} (signature : String)
    (build : Cache × σ → Except ε Validator × Cache × σ) (state : Cache × σ) :
    Except ε Instance × Cache × σ :=
  provideAt state.1.epoch signature build state

/-- Nothing is kept any longer, and a new epoch begins. -/
def clear (cache : Cache) : Cache := { cache with entries := [], epoch := cache.epoch + 1 }

def size (cache : Cache) : Nat := cache.entries.length

def keys (cache : Cache) : List String := sortNames (cache.entries.map (·.1))

end Cache

end TypedConfig
