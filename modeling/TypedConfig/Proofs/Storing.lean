import TypedConfig.Cache

namespace TypedConfig.Cache

/-- A cache that keeps one more validator, built just now. -/
def keep (cache : Cache) (signature : String) (v : Validator) : Cache :=
  { cache with
    entries := cache.entries ++ [(key signature, ⟨cache.builds, v⟩)]
    builds := cache.builds + 1 }

theorem mem_of_get? {cache : Cache} {signature : String} {kept : Instance}
    (h : cache.get? signature = some kept) : (key signature, kept) ∈ cache.entries :=
  Entries.mem_of_lookup h

/-- A validator for a free key is kept when its epoch still lasts. -/
theorem store_free {cache : Cache} {signature : String} (absent : cache.get? signature = none)
    (v : Validator) :
    cache.store cache.epoch signature v = (⟨cache.builds, v⟩, cache.keep signature v) := by
  simp [store, absent, keep]

theorem mem_keep {cache : Cache} {signature : String} {v : Validator} {entry : String × Instance}
    (h : entry ∈ (cache.keep signature v).entries) :
    entry ∈ cache.entries ∨ entry = (key signature, ⟨cache.builds, v⟩) := by
  simpa [keep] using h

variable (cache : Cache) (epoch : Nat) (signature : String) (v : Validator)

@[simp] theorem store_epoch : (cache.store epoch signature v).2.epoch = cache.epoch := by
  unfold store
  split
  · rfl
  · split <;> rfl

@[simp] theorem store_builds : (cache.store epoch signature v).2.builds = cache.builds + 1 := by
  unfold store
  split
  · rfl
  · split <;> rfl

/-- The first validator under a key stays there. -/
theorem lookup_store {key : String} {kept : Instance} (h : cache.entries.lookup key = some kept) :
    (cache.store epoch signature v).2.entries.lookup key = some kept := by
  unfold store
  split
  · exact h
  · split
    · exact h
    · simp [List.lookup_append, h]

/-- What answers a client that stores in time is what is kept. -/
theorem get?_store :
    (cache.store cache.epoch signature v).2.get? signature =
      some (cache.store cache.epoch signature v).1 := by
  cases hit : cache.get? signature with
  | some kept =>
    have taken : cache.store cache.epoch signature v =
        (kept, { cache with builds := cache.builds + 1 }) := by
      simp [store, hit]
    rw [taken]
    exact hit
  | none =>
    have absent : cache.entries.lookup (key signature) = none := hit
    rw [store_free hit]
    simp [keep, get?, List.lookup_append, absent]

/-- What is kept more than before is the validator that was stored, and that is the answer. -/
theorem mem_store {entry : String × Instance}
    (h : entry ∈ (cache.store epoch signature v).2.entries) :
    entry ∈ cache.entries ∨ cache.epoch = epoch ∧ entry = (key signature, ⟨cache.builds, v⟩) ∧
      (cache.store epoch signature v).1 = ⟨cache.builds, v⟩ := by
  by_cases lasts : cache.epoch = epoch
  · subst lasts
    cases hit : cache.get? signature with
    | some kept =>
      left
      simpa [store, hit] using h
    | none =>
      rw [store_free hit] at h ⊢
      exact (mem_keep h).imp_right fun new => ⟨rfl, new, rfl⟩
  · left
    simpa [store, lasts] using h

end TypedConfig.Cache
