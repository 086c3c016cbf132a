import TypedConfig.Cache.Script
import TypedConfig.Proofs.Storing

/-!
A cache stays coherent whatever its builders do with it meanwhile. However deep the builders are
nested, what is done to the cache is a row of single steps, each from the cache that the one before
it has left; so a builder that clears the cache or stores under its own key is nothing special.
-/
namespace TypedConfig.Cache

variable {ε : Type}

/-! ## Steps -/

/-- Everything that can be done next to a cache. -/
inductive Follows (cache : Cache) : Event ε → Prop where
  | cleared : Follows cache (.cleared cache.clear)
  | found {epoch : Nat} {signature : String} {kept : Instance}
      (hit : cache.get? signature = some kept) :
      Follows cache (.answered ⟨epoch, signature, none, .ok kept, cache⟩)
  /-- A builder has failed, and has left the cache so. -/
  | failed {epoch : Nat} {signature : String} {error : ε} :
      Follows cache (.answered ⟨epoch, signature, some (.error error, cache), .error error, cache⟩)
  /-- A builder has succeeded, and what it has built is stored into the cache that it left. -/
  | stored {epoch : Nat} {signature : String} {v : Validator} :
      Follows cache
        (.answered ⟨epoch, signature, some (.ok v, cache),
          .ok (cache.store epoch signature v).1, (cache.store epoch signature v).2⟩)

/-- Traces whose events follow one from another. -/
inductive Traced : Trace ε → Prop where
  | start : Traced []
  | next {trace : Trace ε} {event : Event ε} :
      Traced trace → Follows trace.cache event → Traced (event :: trace)

theorem Traced.of_suffix {earlier trace : Trace ε} (h : Traced trace) (moment : earlier <:+ trace) :
    Traced earlier := by
  induction h with
  | start =>
    obtain rfl := List.suffix_nil.mp moment
    exact .start
  | next before follows ih =>
    rcases List.suffix_cons_iff.mp moment with rfl | earlier
    · exact .next before follows
    · exact ih earlier

/-- Every event of a trace follows from some cache. -/
theorem Traced.follows {trace : Trace ε} {event : Event ε} (h : Traced trace)
    (member : event ∈ trace) : ∃ cache, Follows cache event := by
  induction h with
  | start => cases member
  | next before follows ih =>
    rcases List.mem_cons.mp member with rfl | earlier
    · exact ⟨_, follows⟩
    · exact ih earlier

/-! ## Scripts -/

/-- A cache is what the trace beside it has led to. -/
structure Recorded (state : Cache × Trace ε) : Prop where
  traced : Traced state.2
  cache : state.2.cache = state.1

theorem Recorded.next {state : Cache × Trace ε} (h : Recorded state) {event : Event ε}
    (follows : Follows state.1 event) : Recorded (event.cache, event :: state.2) :=
  ⟨h.traced.next (h.cache ▸ follows), rfl⟩

namespace Script

/-- A request is one step from the cache that its builder has left, however much that has done. -/
theorem Recorded.provideAt {build : Cache × Trace ε → Except ε Validator × Cache × Trace ε}
    (builds : ∀ state, Recorded state → Recorded (build state).2) {state : Cache × Trace ε}
    (h : Recorded state) (epoch : Nat) (signature : String) :
    let (answer, after, trace, built) :=
      Cache.provideAt epoch signature (reporting build) (state.1, state.2, none)
    Recorded (after, .answered ⟨epoch, signature, built, answer, after⟩ :: trace) := by
  cases hit : state.1.get? signature with
  | some kept =>
    simp only [Cache.provideAt, hit]
    exact h.next (.found hit)
  | none =>
    have left := builds state h
    rcases ran : build state with ⟨error | v, after⟩
    · rw [ran] at left
      simp only [Cache.provideAt, hit, reporting, ran]
      exact left.next .failed
    · rw [ran] at left
      simp only [Cache.provideAt, hit, reporting, ran]
      exact left.next .stored

/-- Whatever is run, the trace accounts for the cache. -/
theorem run_recorded (script : Script ε) {state : Cache × Trace ε} (h : Recorded state) :
    Recorded (script.run state).2 := by
  induction script generalizing state with
  | done result => exact h
  | look next ih => exact ih _ h
  | clear next ih => exact ih (h.next .cleared)
  | request epoch signature builder next ihBuilder ihNext =>
    have answered := Recorded.provideAt (fun _ => ihBuilder) h
    cases epoch with
    | none => exact ihNext _ (answered state.1.epoch signature)
    | some epoch => exact ihNext _ (answered epoch signature)

theorem recorded (script : Script ε) : Recorded (script.run (.empty, [])).2 :=
  script.run_recorded ⟨.start, rfl⟩

end Script

/-! ## What holds at every moment -/

/-- What a trace tells of its cache. -/
structure Coherent (trace : Trace ε) : Prop where
  /-- Whatever is kept was built for the epoch that lasts, and its key is its trimmed signature. -/
  built : ∀ entry ∈ trace.cache.entries, ∃ reply, .answered reply ∈ trace ∧ reply.Made entry.2 ∧
    reply.epoch = trace.cache.epoch ∧ entry.1 = Text.trim reply.signature
  /-- What was once kept stays there until the cache is cleared. -/
  stays : ∀ later earlier, trace = later ++ earlier → (∀ event ∈ later, event.isClearing = false) →
    ∀ key kept, earlier.cache.entries.lookup key = some kept →
      trace.cache.entries.lookup key = some kept
  /-- Whoever is answered in the epoch that was asked for is given what is kept then. -/
  given : ∀ reply, .answered reply ∈ trace → ∀ kept, reply.answer = .ok kept →
    reply.epoch = reply.cache.epoch → reply.cache.get? reply.signature = some kept
  epoch : trace.cache.epoch = trace.countP Event.isClearing
  builds : trace.cache.builds = (trace.filterMap Event.build?).length
  /-- Each build has a number of its own. -/
  numbered : (trace.filterMap Event.build?).Nodup
  /-- A request whose builder fails does nothing itself. -/
  failed : ∀ reply, .answered reply ∈ trace → ∀ error left,
    reply.built = some (.error error, left) → reply.answer = .error error ∧ reply.cache = left

namespace Follows

variable {cache : Cache} {event : Event ε} {reply : Reply ε}

theorem epoch (h : Follows cache event) :
    event.cache.epoch = cache.epoch + if event.isClearing then 1 else 0 := by
  cases h with
  | cleared => rfl
  | found hit => rfl
  | failed => rfl
  | stored => simp [Event.cache, Event.isClearing]

/-- Only a build is counted, and its number is the count before it. -/
theorem builds (h : Follows cache event) :
    event.build? = none ∧ event.cache.builds = cache.builds ∨
      event.build? = some cache.builds ∧ event.cache.builds = cache.builds + 1 := by
  cases h with
  | cleared => exact .inl ⟨rfl, rfl⟩
  | found hit => exact .inl ⟨rfl, rfl⟩
  | failed => exact .inl ⟨rfl, rfl⟩
  | stored => exact .inr ⟨rfl, cache.store_builds ..⟩

/-- What is kept was kept before in the same epoch, or was made just now for the epoch that
lasts. -/
theorem built (h : Follows cache event) {entry : String × Instance}
    (member : entry ∈ event.cache.entries) :
    entry ∈ cache.entries ∧ event.cache.epoch = cache.epoch ∨
      ∃ reply, event = .answered reply ∧ reply.Made entry.2 ∧ reply.epoch = event.cache.epoch ∧
        entry.1 = Text.trim reply.signature := by
  cases h with
  | cleared => cases member
  | found hit => exact .inl ⟨member, rfl⟩
  | failed => exact .inl ⟨member, rfl⟩
  | @stored epoch signature v =>
    have same : (cache.store epoch signature v).2.epoch = cache.epoch := cache.store_epoch ..
    rcases cache.mem_store epoch signature v member with earlier | ⟨lasts, rfl, answer⟩
    · exact .inl ⟨earlier, same⟩
    · refine .inr ⟨_, rfl, ?_, (same.trans lasts).symm, rfl⟩
      exact ⟨cache, rfl, rfl, congrArg Except.ok answer⟩

theorem stays (h : Follows cache event) (lasting : event.isClearing = false) {key : String}
    {kept : Instance} (hit : cache.entries.lookup key = some kept) :
    event.cache.entries.lookup key = some kept := by
  cases h with
  | cleared => cases lasting
  | found => exact hit
  | failed => exact hit
  | stored => exact cache.lookup_store _ _ _ hit

theorem given (h : Follows cache (.answered reply)) {kept : Instance}
    (answer : reply.answer = .ok kept) (lasts : reply.epoch = reply.cache.epoch) :
    reply.cache.get? reply.signature = some kept := by
  cases h with
  | found hit =>
    cases answer
    exact hit
  | failed => cases answer
  | @stored epoch signature v =>
    obtain rfl : epoch = cache.epoch := lasts.trans (cache.store_epoch epoch signature v)
    cases answer
    exact cache.get?_store signature v

theorem failed_eq (h : Follows cache (.answered reply)) {error : ε} {left : Cache}
    (built : reply.built = some (.error error, left)) :
    reply.answer = .error error ∧ reply.cache = left := by
  cases h with
  | found => cases built
  | failed =>
    cases built
    exact ⟨rfl, rfl⟩
  | stored => cases built

end Follows

namespace Traced

variable {trace : Trace ε}

theorem epoch (h : Traced trace) : trace.cache.epoch = trace.countP Event.isClearing := by
  induction h with
  | start => rfl
  | next before follows ih =>
    rw [List.countP_cons, ← ih]
    exact follows.epoch

/-- Builds are numbered one after the other. -/
theorem numbers (h : Traced trace) :
    trace.filterMap Event.build? = (List.range trace.cache.builds).reverse := by
  induction h with
  | start => rfl
  | @next trace event before follows ih =>
    rcases follows.builds with ⟨number, builds⟩ | ⟨number, builds⟩
    · rw [List.filterMap_cons_none number, ih, Trace.cache, builds]
    · rw [List.filterMap_cons_some number, ih, Trace.cache, builds, List.range_succ,
        List.reverse_concat]

theorem built (h : Traced trace) {entry : String × Instance}
    (member : entry ∈ trace.cache.entries) :
    ∃ reply, .answered reply ∈ trace ∧ reply.Made entry.2 ∧ reply.epoch = trace.cache.epoch ∧
      entry.1 = Text.trim reply.signature := by
  induction h with
  | start => cases member
  | @next trace event before follows ih =>
    rcases follows.built member with ⟨earlier, same⟩ | ⟨reply, rfl, made, lasts, key⟩
    · obtain ⟨reply, asked, made, lasts, key⟩ := ih earlier
      exact ⟨reply, List.mem_cons_of_mem _ asked, made, lasts.trans same.symm, key⟩
    · exact ⟨reply, List.mem_cons_self, made, lasts, key⟩

theorem stays {later earlier : Trace ε} (h : Traced (later ++ earlier))
    (lasting : ∀ event ∈ later, event.isClearing = false) {key : String} {kept : Instance}
    (hit : earlier.cache.entries.lookup key = some kept) :
    (later ++ earlier).cache.entries.lookup key = some kept := by
  induction later with
  | nil => exact hit
  | cons event later ih =>
    obtain ⟨last, others⟩ := List.forall_mem_cons.mp lasting
    cases h with
    | next before follows => exact follows.stays last (ih before others)

theorem coherent (h : Traced trace) : Coherent trace where
  built _ := h.built
  stays := by
    rintro later earlier rfl lasting key kept
    exact h.stays lasting
  given reply member kept answer lasts := by
    obtain ⟨cache, follows⟩ := h.follows member
    exact follows.given answer lasts
  epoch := h.epoch
  builds := by rw [h.numbers, List.length_reverse, List.length_range]
  numbered := by
    rw [h.numbers]
    exact List.pairwise_reverse.mpr (List.nodup_range.imp Ne.symm)
  failed reply member error left built := by
    obtain ⟨cache, follows⟩ := h.follows member
    exact follows.failed_eq built

end Traced

/-- **A cache stays coherent under re-entrant builders.** The trace of a run leads to the cache that
the run ends with, and what was done up to any moment, also while builders are at work, is
coherent. -/
theorem every_moment_coherent (script : Script ε) :
    script.trace.cache = (script.run (.empty, [])).2.1 ∧
      ∀ trace, trace <:+ script.trace → Coherent trace :=
  ⟨script.recorded.cache, fun _ moment => (script.recorded.traced.of_suffix moment).coherent⟩

/-- A builder clears the cache and stores under its own key before it succeeds; what it has built
comes too late, and so does what is stored for the first epoch after that. -/
theorem straddling_builder_coherent :
    let v : Validator := .scalar "int" none
    let builder : Script String := .clear (.request none " int" (.done (.ok v)) fun _ =>
      .done (.ok v))
    let script : Script String := .request none "int" builder fun _ =>
      .request (some 0) "long" (.done (.ok v)) fun _ =>
        .request none "char" (.done (.error "closed")) fun _ => .done (.ok v)
    script.trace.length = 5 ∧
      script.trace.cache.entries.map (fun entry => (entry.1, entry.2.serial)) = [("int", 0)] ∧
      script.trace.cache.builds = 3 ∧ script.trace.drop 3 <:+ script.trace ∧
      Coherent (script.trace.drop 3) :=
  ⟨by decide +kernel, by decide +kernel, by decide +kernel, List.drop_suffix 3 _,
    (every_moment_coherent _).2 _ (List.drop_suffix 3 _)⟩

end TypedConfig.Cache
