import Mathlib.Algebra.GroupWithZero.Nat
import Mathlib.Data.List.Dedup
import TypedConfig.Proofs.Containment
import TypedConfig.Session.Log

/-!
The books of a session. Its counters and its cache can be read off the log of what was asked of
it, whatever the surroundings have answered: the segments with a request in them, the resets, and
the keys that have got to a validator since the last one.
-/
namespace TypedConfig

theorem Entries.lookup_of_mem {α : Type} {key : String} {value : α} {entries : List (String × α)}
    (distinct : (entries.map (·.1)).Nodup) (member : (key, value) ∈ entries) :
    entries.lookup key = some value := by
  induction entries with
  | nil => cases member
  | cons entry rest ih =>
    obtain ⟨free, distinct⟩ := List.nodup_cons.mp distinct
    rcases List.mem_cons.mp member with rfl | later
    · exact List.lookup_cons_self
    · have apart : key ≠ entry.1 := by
        rintro rfl
        exact free (List.mem_map.mpr ⟨_, later, rfl⟩)
      rw [List.lookup_cons, beq_eq_false_iff_ne.mpr apart]
      exact ih distinct later

theorem mem_sortNames {name : String} {names : List String} :
    name ∈ sortNames names ↔ name ∈ names :=
  List.mem_mergeSort

/-- Different names come in a strict order. -/
theorem sortNames_pairwise {names : List String} (distinct : names.Nodup) :
    (sortNames names).Pairwise (· < ·) := by
  have sorted : (sortNames names).Pairwise fun a b => decide (a ≤ b) = true := by
    refine List.pairwise_mergeSort (fun a b c ab bc => ?_) (fun a b => ?_) names
    · simp only [decide_eq_true_eq] at ab bc ⊢
      exact String.le_trans ab bc
    · simpa using String.le_total a b
  have apart : (sortNames names).Nodup := (List.mergeSort_perm names _).nodup_iff.mpr distinct
  exact (sorted.and apart).imp fun ⟨le, ne⟩ => Std.lt_of_le_of_ne (decide_eq_true_eq.mp le) ne

namespace Session

/-! ## What one request does -/

namespace Visit

variable {visit : Visit} {signature : String}

theorem after_of_signature (h : visit.request.signature? = some signature) :
    ∃ history, visit.after = { (visit.session.validator signature).2 with history } := by
  obtain ⟨session, request⟩ := visit
  cases request with
  | checkQuietly value signature start => cases h; exact session.check_leaves value _ start []
  | check value signature start => cases h; exact session.check_leaves value _ start []
  | validator signature => cases h; exact ⟨_, rfl⟩
  | available | providerName | reset => cases h

theorem after_of_none (asks : visit.request ≠ .reset) (h : visit.request.signature? = none) :
    visit.after = visit.session.capability.2 := by
  obtain ⟨session, request⟩ := visit
  cases request with
  | checkQuietly | check | validator => cases h
  | available | providerName => rfl
  | reset => exact absurd rfl asks

/-- A request that is no reset leaves what asking for the capability leaves, as far as that goes. A
validator that is kept spares the question, but then it was put before. -/
theorem after_knows (visit : Visit) (asks : visit.request ≠ .reset)
    (known : visit.session.cache.entries ≠ [] → visit.session.handle.isResolved = true) :
    visit.after.handle = visit.session.capability.2.handle ∧
      visit.after.searches = visit.session.capability.2.searches := by
  cases about : visit.request.signature? with
  | none => rw [after_of_none asks about]; exact ⟨rfl, rfl⟩
  | some signature =>
    obtain ⟨history, after⟩ := after_of_signature about
    rw [after]
    rcases visit.session.validator_leaves signature with ⟨kept, same⟩ | sought
    · rw [same, capability_of_isResolved (known kept)]
      exact ⟨rfl, rfl⟩
    · exact sought

theorem served?_of_hit {kept : Instance} (about : visit.request.signature? = some signature)
    (hit : visit.session.cache.get? signature = some kept) :
    visit.served? = some (Text.trim signature, kept) := by
  simp only [served?, about, Session.validator, hit]

/-- If the earlier request has got to a validator and the later one is about a signature with the
same key, then the later one gets to the same instance. -/
def Repeats (later earlier : Visit) : Prop :=
  ∀ signature kept, later.request.signature? = some signature →
    earlier.served? = some (Text.trim signature, kept) →
    later.served? = some (Text.trim signature, kept)

/-- All that a request which is no reset can do to the cache. -/
inductive Caches (visit : Visit) : Prop where
  | nothing (served : visit.served? = none) (same : visit.after.cache = visit.session.cache)
  | hit {entry : String × Instance} (served : visit.served? = some entry)
      (kept : entry ∈ visit.session.cache.entries)
      (same : visit.after.cache = visit.session.cache)
  | built {signature : String} {v : Validator}
      (absent : visit.session.cache.get? signature = none)
      (served : visit.served? = some (Text.trim signature, ⟨visit.session.cache.builds, v⟩))
      (keeps : visit.after.cache = visit.session.cache.keep signature v)

theorem caches (visit : Visit) (asks : visit.request ≠ .reset) : visit.Caches := by
  cases about : visit.request.signature? with
  | none =>
    refine .nothing (by simp only [served?, about]) ?_
    rw [after_of_none asks about, capability_cache]
  | some signature =>
    obtain ⟨history, after⟩ := after_of_signature about
    rcases answered : visit.session.validator signature with ⟨answer, left⟩
    have cache : visit.after.cache = left.cache := by rw [after, answered]
    cases answered_of_validator answered with
    | hit hit =>
      exact .hit (served?_of_hit about hit) (Cache.mem_of_get? hit) cache
    | unavailable absent missing =>
      refine .nothing (by simp only [served?, about, answered]) ?_
      rw [cache, cache_of_capability missing]
    | failed absent found failed =>
      refine .nothing (by simp only [served?, about, answered]) ?_
      have same := cache_of_capability found
      exact cache.trans same
    | built absent found resolved =>
      have same := cache_of_capability found
      rw [same] at answered cache
      exact .built absent (by simp only [served?, about, answered]) cache

theorem Caches.epoch (h : visit.Caches) :
    visit.after.cache.epoch = visit.session.cache.epoch := by
  cases h with
  | nothing served same => rw [same]
  | hit served kept same => rw [same]
  | built absent served keeps =>
    rw [keeps]
    rfl

end Visit

/-! ## The requests since the last reset -/

theorem Segment.mem_keys {segment : Segment} {key : String} :
    key ∈ segment.keys ↔ ∃ visit ∈ segment, ∃ kept, visit.served? = some (key, kept) := by
  simp [Segment.keys]

/-- The cache keeps just the instances that were served in the segment. All that were built before
the segment have lower numbers. -/
structure Segment.Kept (segment : Segment) (cache : Cache) (before : Nat) : Prop where
  served : ∀ visit ∈ segment, ∀ entry, visit.served? = some entry → entry ∈ cache.entries
  entries : ∀ entry ∈ cache.entries, ∃ visit ∈ segment, visit.served? = some entry
  distinct : (cache.entries.map (·.1)).Nodup
  numbered : ∀ entry ∈ cache.entries, before ≤ entry.2.serial ∧ entry.2.serial < cache.builds
  builds : cache.builds = before + cache.entries.length

namespace Segment.Kept

variable {segment : Segment} {cache : Cache} {before : Nat}

theorem start (cache : Cache) (empty : cache.entries = []) :
    Segment.Kept [] cache cache.builds where
  served := List.forall_mem_nil _
  entries := by simp [empty]
  distinct := by simp [empty]
  numbered := by simp [empty]
  builds := by simp [empty]

theorem mem_keys (h : segment.Kept cache before) (key : String) :
    key ∈ cache.entries.map (·.1) ↔ key ∈ segment.keys := by
  rw [Segment.mem_keys, List.mem_map]
  constructor
  · rintro ⟨⟨_, kept⟩, member, rfl⟩
    obtain ⟨visit, among, served⟩ := h.entries _ member
    exact ⟨visit, among, kept, served⟩
  · rintro ⟨visit, among, kept, served⟩
    exact ⟨(key, kept), h.served visit among _ served, rfl⟩

/-- So many validators were built in the segment as different keys have got to one. -/
theorem builds_eq (h : segment.Kept cache before) :
    cache.builds = before + segment.keys.dedup.length := by
  have same : (cache.entries.map (·.1)).Perm segment.keys.dedup := by
    refine (List.perm_ext_iff_of_nodup h.distinct (List.nodup_dedup _)).mpr fun key => ?_
    rw [h.mem_keys, List.mem_dedup]
  rw [h.builds, ← same.length_eq, List.length_map]

/-- Whoever asks again for a key that was served is given the instance that is kept under it. -/
theorem repeats (visit : Visit) (h : segment.Kept visit.session.cache before) :
    ∀ earlier ∈ segment, visit.Repeats earlier := by
  intro earlier among signature kept about served
  have member := h.served earlier among _ served
  exact Visit.served?_of_hit about (Entries.lookup_of_mem h.distinct member)

/-- A request that leaves the cache alone has not got to a validator, or to one that is kept. -/
theorem same (h : segment.Kept cache before) {visit : Visit}
    (known : ∀ entry, visit.served? = some entry → entry ∈ cache.entries) :
    Segment.Kept (visit :: segment) cache before where
  served := List.forall_mem_cons.mpr ⟨known, h.served⟩
  entries entry member := by
    obtain ⟨earlier, among, served⟩ := h.entries entry member
    exact ⟨earlier, List.mem_cons_of_mem visit among, served⟩
  distinct := h.distinct
  numbered := h.numbered
  builds := h.builds

theorem keep (h : segment.Kept cache before) {visit : Visit} {signature : String} {v : Validator}
    (absent : cache.get? signature = none)
    (served : visit.served? = some (Text.trim signature, ⟨cache.builds, v⟩)) :
    Segment.Kept (visit :: segment) (cache.keep signature v) before where
  served := by
    refine List.forall_mem_cons.mpr ⟨fun entry new => ?_, fun earlier among entry old => ?_⟩
    · rw [served] at new
      cases new
      exact List.mem_append_right _ List.mem_cons_self
    · exact List.mem_append_left _ (h.served earlier among entry old)
  entries entry member := by
    rcases Cache.mem_keep member with old | rfl
    · obtain ⟨earlier, among, served⟩ := h.entries entry old
      exact ⟨earlier, List.mem_cons_of_mem visit among, served⟩
    · exact ⟨visit, List.mem_cons_self, served⟩
  distinct := by
    have free : ∀ entry ∈ cache.entries, entry.1 ≠ Text.trim signature := by
      intro entry member same
      have different := List.lookup_eq_none_iff.mp absent entry member
      simp [same, Cache.key] at different
    simpa [Cache.keep, List.nodup_append] using ⟨h.distinct, fun key kept => free (key, kept)⟩
  numbered entry member := by
    rcases Cache.mem_keep member with old | rfl
    · obtain ⟨late, counted⟩ := h.numbered entry old
      exact ⟨late, Nat.lt_succ_of_lt counted⟩
    · exact ⟨h.builds ▸ Nat.le_add_right .., Nat.lt_succ_self _⟩
  builds := by
    simp only [Cache.keep, List.length_append, List.length_singleton, h.builds, Nat.add_assoc]

/-- Whatever the request does to the cache, the cache keeps what was served. -/
theorem visit {visit : Visit} (h : segment.Kept visit.session.cache before)
    (caches : visit.Caches) : Segment.Kept (visit :: segment) visit.after.cache before := by
  cases caches with
  | nothing served same =>
    rw [same]
    refine h.same fun entry found => ?_
    rw [served] at found
    cases found
  | hit served kept same =>
    rw [same]
    refine h.same fun entry found => ?_
    rw [served] at found
    exact Option.some.inj found ▸ kept
  | built absent served keeps =>
    rw [keeps]
    exact h.keep absent served

end Segment.Kept

/-- What is known of the capability is what each request of the segment has left behind; it has
been looked for as soon as there was one. -/
structure Segment.Sought (segment : Segment) (handle : Handle) : Prop where
  unsought : segment = [] → handle = .unsought
  sought : segment ≠ [] → handle.isResolved = true
  left : ∀ visit ∈ segment, visit.after.handle = handle

theorem Segment.Sought.nil : Segment.Sought [] .unsought where
  unsought _ := rfl
  sought nonempty := absurd rfl nonempty
  left := List.forall_mem_nil _

theorem Segment.Sought.next {session : Session} {segment : Segment} {visit : Visit}
    (h : segment.Sought session.handle)
    (after : visit.after.handle = session.capability.2.handle) :
    Segment.Sought (visit :: segment) visit.after.handle where
  unsought := by rintro ⟨⟩
  sought _ := by rw [after, capability_isResolved]
  left := by
    refine List.forall_mem_cons.mpr ⟨rfl, fun earlier among => ?_⟩
    have known := h.sought (List.ne_nil_of_mem among)
    rw [h.left earlier among, after, capability_of_isResolved known]

/-- The capability is looked for by the first request. -/
theorem Segment.Sought.searches {session : Session} {segment : Segment}
    (h : segment.Sought session.handle) :
    session.capability.2.searches = session.searches + if segment.isEmpty then 1 else 0 := by
  cases segment with
  | nil =>
    rw [capability_of_unsought (h.unsought rfl)]
    rfl
  | cons visit among =>
    rw [capability_of_isResolved (h.sought (List.cons_ne_nil visit among))]
    rfl

/-! ## All segments -/

/-- All requests of a segment know the same of the capability, present or absent, and a key that
has got to a validator keeps it. -/
structure Segment.Uniform (segment : Segment) : Prop where
  handle : ∃ found, ∀ visit ∈ segment, visit.after.handle = .ofSearch found
  served : segment.Pairwise Visit.Repeats

/-- No instance was served in both segments. -/
def Segment.Apart (later earlier : Segment) : Prop :=
  ∀ a ∈ later, ∀ b ∈ earlier, ∀ x y, a.served? = some x → b.served? = some y →
    x.2.serial ≠ y.2.serial

/-- The number of different keys that have got to a validator, over all segments. -/
def Segment.totalKeys (segments : List Segment) : Nat :=
  (segments.map fun segment => segment.keys.dedup.length).sum

theorem Segment.totalKeys_cons (segment : Segment) (earlier : List Segment) :
    totalKeys (segment :: earlier) = segment.keys.dedup.length + totalKeys earlier :=
  List.sum_cons

/-- The books of a session agree with the log of what it was asked. -/
structure Balanced (session : Session) (log : Log) : Prop where
  searches : session.searches = log.segments.countP (!·.isEmpty)
  sorted : session.cache.keys.Pairwise (· < ·)
  keys : ∀ key, key ∈ session.cache.keys ↔ key ∈ log.current.keys
  epoch : session.cache.epoch = log.earlier.length
  builds : session.cache.builds = Segment.totalKeys log.segments
  uniform : ∀ segment ∈ log.segments, segment.Uniform
  apart : log.segments.Pairwise Segment.Apart

/-- What a session keeps to with every request, from which it follows that its books balance. -/
structure Logged (session : Session) (log : Log) : Prop where
  sought : log.current.Sought session.handle
  kept : log.current.Kept session.cache (Segment.totalKeys log.earlier)
  repeats : log.current.Pairwise Visit.Repeats
  searches : session.searches = log.segments.countP (!·.isEmpty)
  epoch : session.cache.epoch = log.earlier.length
  earlier : ∀ segment ∈ log.earlier, segment.Uniform ∧ ∀ visit ∈ segment, ∀ entry,
    visit.served? = some entry → entry.2.serial < Segment.totalKeys log.earlier
  apart : log.earlier.Pairwise Segment.Apart

namespace Logged

variable {session : Session} {log : Log}

theorem new (project : Project) (settings : Settings) :
    (Session.new project settings).Logged {} where
  sought := .nil
  kept := Segment.Kept.start {} rfl
  repeats := .nil
  searches := rfl
  epoch := rfl
  earlier := List.forall_mem_nil _
  apart := .nil

/-- What was served since the last reset was built after all that was served before it. -/
theorem apart_segments (h : session.Logged log) : log.segments.Pairwise Segment.Apart := by
  refine List.pairwise_cons.mpr ⟨fun segment among a ha b hb x y served served' => ?_, h.apart⟩
  have late := (h.kept.numbered x (h.kept.served a ha x served)).1
  have soon := (h.earlier segment among).2 b hb y served'
  omega

theorem uniform (h : session.Logged log) : ∀ segment ∈ log.segments, segment.Uniform := by
  refine List.forall_mem_cons.mpr
    ⟨⟨?_, h.repeats⟩, fun segment among => (h.earlier segment among).1⟩
  cases known : session.handle with
  | found context =>
    exact ⟨some context, fun visit among => (h.sought.left visit among).trans known⟩
  | missing => exact ⟨none, fun visit among => (h.sought.left visit among).trans known⟩
  | unsought =>
    refine ⟨none, fun visit among => ?_⟩
    have resolved := h.sought.sought (List.ne_nil_of_mem among)
    rw [known] at resolved
    cases resolved

theorem builds_eq (h : session.Logged log) :
    session.cache.builds = Segment.totalKeys log.segments := by
  rw [h.kept.builds_eq, Log.segments, Segment.totalKeys_cons, Nat.add_comm]

/-- A reset ends the segment. -/
theorem reset (h : session.Logged log) : session.reset.Logged ⟨[], log.segments⟩ where
  sought := .nil
  kept := by
    rw [← h.builds_eq]
    exact Segment.Kept.start session.reset.cache rfl
  repeats := .nil
  searches := h.searches
  epoch := congrArg (· + 1) h.epoch
  earlier := by
    intro segment among
    refine ⟨h.uniform segment among, ?_⟩
    rw [← h.builds_eq]
    intro visit visited entry served
    rcases List.mem_cons.mp among with rfl | before
    · exact (h.kept.numbered entry (h.kept.served visit visited entry served)).2
    · have soon := (h.earlier segment before).2 visit visited entry served
      have counted := h.kept.builds
      omega
  apart := h.apart_segments

/-- Any other request belongs to the segment. -/
theorem visit (h : session.Logged log) {request : Request} (asks : request ≠ .reset) :
    (session.perform request).2.Logged ⟨⟨session, request⟩ :: log.current, log.earlier⟩ := by
  have known : session.cache.entries ≠ [] → session.handle.isResolved = true := by
    intro kept
    obtain ⟨entry, member⟩ := List.exists_mem_of_ne_nil _ kept
    obtain ⟨visit, among, _⟩ := h.kept.entries entry member
    exact h.sought.sought (List.ne_nil_of_mem among)
  obtain ⟨handle, searches⟩ := Visit.after_knows ⟨session, request⟩ asks known
  have repeats := List.pairwise_cons.mpr ⟨h.kept.repeats ⟨session, request⟩, h.repeats⟩
  have caches := Visit.caches ⟨session, request⟩ asks
  have counted : (session.perform request).2.searches =
      (⟨⟨session, request⟩ :: log.current, log.earlier⟩ : Log).segments.countP (!·.isEmpty) := by
    refine searches.trans ?_
    rw [h.sought.searches, h.searches]
    simp only [Log.segments, List.countP_cons]
    cases log.current <;> simp
  exact ⟨h.sought.next handle, h.kept.visit caches, repeats, counted,
    caches.epoch.trans h.epoch, h.earlier, h.apart⟩

/-- Every request leaves a session that agrees with its log. -/
theorem perform (h : session.Logged log) (request : Request) :
    (session.perform request).2.Logged (log.add ⟨session, request⟩) := by
  cases request with
  | checkQuietly | check | validator | available | providerName => exact h.visit (by simp)
  | reset => exact h.reset

theorem run (h : session.Logged log) (requests : List Request) :
    (session.run requests).2.Logged (session.record log requests) := by
  induction requests generalizing session log with
  | nil => exact h
  | cons request rest ih => exact ih (h.perform request)

theorem balanced (h : session.Logged log) : session.Balanced log where
  searches := h.searches
  sorted := sortNames_pairwise h.kept.distinct
  keys key := mem_sortNames.trans (h.kept.mem_keys key)
  epoch := h.epoch
  builds := h.builds_eq
  uniform := h.uniform
  apart := h.apart_segments

end Logged

/-! ## The log -/

/-- A log holds some requests, cut just at the resets. -/
structure Log.Cuts (log : Log) (requests : List Request) : Prop where
  joined : [Request.reset].intercalate (log.segments.map (·.map Visit.request)) = requests.reverse
  inside : ∀ segment ∈ log.segments, ∀ visit ∈ segment, visit.request ≠ .reset
  resets : log.earlier.length = requests.count .reset

theorem Log.Cuts.visit {log : Log} {requests : List Request} (h : log.Cuts requests)
    (visit : Visit) (asks : visit.request ≠ .reset) :
    Log.Cuts ⟨visit :: log.current, log.earlier⟩ (requests ++ [visit.request]) where
  joined := by
    rw [List.reverse_append, ← h.joined]
    simp only [Log.segments, List.map_cons]
    cases log.earlier with
    | nil => simp
    | cons segment before => simp [List.intercalate_cons_cons]
  inside := by
    obtain ⟨current, earlier⟩ := List.forall_mem_cons.mp h.inside
    exact List.forall_mem_cons.mpr ⟨List.forall_mem_cons.mpr ⟨asks, current⟩, earlier⟩
  resets := by simpa [List.count_append, List.count_singleton, asks] using h.resets

theorem Log.Cuts.add {log : Log} {requests : List Request} (h : log.Cuts requests)
    (session : Session) (request : Request) :
    (log.add ⟨session, request⟩).Cuts (requests ++ [request]) := by
  cases request with
  | checkQuietly | check | validator | available | providerName =>
    exact h.visit ⟨session, _⟩ (by simp)
  | reset =>
    refine ⟨?_, List.forall_mem_cons.mpr ⟨List.forall_mem_nil _, h.inside⟩, ?_⟩
    · rw [List.reverse_append, ← h.joined]
      rfl
    · simpa [Log.add, Log.segments, List.count_append] using h.resets

theorem Log.Cuts.record {session : Session} {log : Log} {before : List Request}
    (h : log.Cuts before) (requests : List Request) :
    (session.record log requests).Cuts (before ++ requests) := by
  induction requests generalizing session log before with
  | nil => rwa [List.append_nil]
  | cons request rest ih =>
    rw [← List.singleton_append, ← List.append_assoc]
    exact ih (h.add session request)

/-- **The books of a session balance.** Whatever its surroundings answer, after any requests these
can be read off the log, which holds the requests cut at the resets. The capability was looked for
once in each segment with a request in it, and all of its requests know the same of it. The keys of
the signatures that have got to a validator since the last reset are kept, in order. The epoch is
the number of resets, and so many validators were built as there were different keys in each
segment. Once a key has got to a validator, the later requests of the segment with this key get to
the same instance, and another segment has others. -/
theorem books_balance (project : Project) (settings : Settings) (requests : List Request) :
    let session := ((Session.new project settings).run requests).2
    let log := (Session.new project settings).record {} requests
    log.Cuts requests ∧ session.Balanced log := by
  have nothing : Log.Cuts {} [] := ⟨rfl, by simp [Log.segments], rfl⟩
  exact ⟨nothing.record requests, ((Logged.new project settings).run requests).balanced⟩

end Session

end TypedConfig
