import TypedConfig.Proofs.Binding
import TypedConfig.Proofs.Storing
import TypedConfig.Session.Request

/-!
What each request does to a session, said once: looking for the capability, asking for a
validator, and checking a value with it. A property that these steps keep is kept by every run, so
that every kept validator is known to come from a signature with its key.
-/
namespace TypedConfig

theorem Handle.ofSearch_eq_found {found : Option Context} {context : Context} :
    ofSearch found = .found context ↔ found = some context := by
  cases found <;> simp [ofSearch]

/-- What is answered of a report: its diagnostics count only when there was no fault. -/
def Report.answer (report : Report) : Except CheckError Unit × List Diagnostic :=
  match report.outcome with
  | .error fault => (.error (.ofConversion fault), [])
  | .ok () => (.ok (), report.diagnostics)

namespace Session

/-! ## The capability -/

@[simp] theorem capability_cache (session : Session) :
    session.capability.2.cache = session.cache := by
  unfold capability
  split <;> rfl

@[simp] theorem capability_project (session : Session) :
    session.capability.2.project = session.project := by
  unfold capability
  split <;> rfl

@[simp] theorem capability_settings (session : Session) :
    session.capability.2.settings = session.settings := by
  unfold capability
  split <;> rfl

/-- What is answered about the capability is what the session knows from then on. -/
theorem capability_handle (session : Session) :
    session.capability.2.handle = .ofSearch session.capability.1 := by
  unfold capability
  split
  · rfl
  · assumption
  · assumption

section
variable {session : Session}

theorem capability_of_found {context : Context} (h : session.handle = .found context) :
    session.capability = (some context, session) := by
  simp only [capability, h]

theorem capability_of_missing (h : session.handle = .missing) :
    session.capability = (none, session) := by
  simp only [capability, h]

theorem capability_of_unsought (h : session.handle = .unsought) :
    session.capability =
      let search := session.settings.plan.search session.project session.history
      (search.1,
        { session with
          handle := .ofSearch search.1
          searches := session.searches + 1
          history := search.2 }) := by
  simp only [capability, h]
  rfl

theorem cache_of_capability {found : Option Context} {after : Session}
    (h : session.capability = (found, after)) : after.cache = session.cache := by
  simpa only [h] using session.capability_cache

theorem project_of_capability {found : Option Context} {after : Session}
    (h : session.capability = (found, after)) : after.project = session.project := by
  simpa only [h] using session.capability_project

theorem handle_of_capability {context : Context} {after : Session}
    (h : session.capability = (some context, after)) : after.handle = .found context := by
  simpa only [h, Handle.ofSearch] using session.capability_handle

/-! ## Validators -/

variable {signature : String}

/-- All that asking for a validator can come to, with the session after it. -/
inductive Answered (session : Session) (signature : String) :
    Except CheckError (Option Instance) → Session → Prop where
  /-- There is a kept one, and nobody is asked for the capability. -/
  | hit {kept : Instance} (hit : session.cache.get? signature = some kept) :
      Answered session signature (.ok (some kept)) session
  | unavailable {after : Session} (absent : session.cache.get? signature = none)
      (missing : session.capability = (none, after)) :
      Answered session signature (.ok none) after
  | failed {after : Session} {context : Context} {e : CheckError} {history : History}
      (absent : session.cache.get? signature = none)
      (found : session.capability = (some context, after))
      (failed : resolveSignature after.project context signature after.history =
        (.error e, history)) :
      Answered session signature (.error e) { after with history }
  /-- What was resolved is kept at once: the cache is as it was when it was looked into. -/
  | built {after : Session} {context : Context} {v : Validator} {history : History}
      (absent : session.cache.get? signature = none)
      (found : session.capability = (some context, after))
      (resolved : resolveSignature after.project context signature after.history =
        (.ok v, history)) :
      Answered session signature (.ok (some ⟨after.cache.builds, v⟩))
        { after with cache := after.cache.keep signature v, history }

theorem validator_answered (session : Session) (signature : String) :
    session.Answered signature (session.validator signature).1
      (session.validator signature).2 := by
  cases hit : session.cache.get? signature with
  | some kept =>
    simp only [validator, hit]
    exact .hit hit
  | none =>
    rcases found : session.capability with ⟨_ | context, after⟩
    · simp only [validator, hit, found]
      exact .unavailable hit found
    · have absent : after.cache.get? signature = none := cache_of_capability found ▸ hit
      rcases resolved : resolveSignature after.project context signature after.history with
        ⟨e | v, history⟩
      · simp only [validator, hit, found, Cache.provideAt, absent, builder, resolved]
        exact .failed hit found resolved
      · simp only [validator, hit, found, Cache.provideAt, absent, builder, resolved,
          Cache.store_free absent]
        exact .built hit found resolved

theorem answered_of_validator {answer : Except CheckError (Option Instance)} {after : Session}
    (h : session.validator signature = (answer, after)) :
    session.Answered signature answer after := by
  simpa only [h] using session.validator_answered signature

/-- A validator that is answered with is kept from then on. -/
theorem mem_of_validator {kept : Instance} {after : Session}
    (h : session.validator signature = (.ok (some kept), after)) :
    (Cache.key signature, kept) ∈ after.cache.entries := by
  cases answered_of_validator h with
  | hit hit => exact Cache.mem_of_get? hit
  | built => exact List.mem_append_right _ List.mem_cons_self

/-! ## Checks -/

/-- A value is checked with the validator that the session has, and what was asked meanwhile is
remembered whatever comes of it. -/
theorem check_of_some {after : Session} {kept : Instance} {value : String} {start : Nat}
    {collected : List Diagnostic}
    (h : session.validator signature = (.ok (some kept), after)) :
    session.check value signature start collected =
      let work := kept.validator.check after.settings.marking value start after.history
      ((work.1.answer.1, collected ++ work.1.answer.2), { after with history := work.2 }) := by
  simp only [check, h]
  rcases kept.validator.check after.settings.marking value start after.history with
    ⟨⟨diagnostics, fault | _⟩, history⟩
  · simp [Report.answer]
  · rfl

theorem check_of_none {after : Session} {value : String} {start : Nat}
    {collected : List Diagnostic} (h : session.validator signature = (.ok none, after)) :
    session.check value signature start collected = ((.ok (), collected), after) := by
  simp only [check, h]

theorem check_of_error {after : Session} {e : CheckError} {value : String} {start : Nat}
    {collected : List Diagnostic} (h : session.validator signature = (.error e, after)) :
    session.check value signature start collected = ((.error e, collected), after) := by
  simp only [check, h]

end

/-! ## Runs -/

/-- A property of sessions that no step of a request ends. -/
structure Invariant (P : Session → Prop) : Prop where
  capability : ∀ {session}, P session → P session.capability.2
  failed : ∀ {session context signature e history}, P session → session.handle = .found context →
    resolveSignature session.project context signature session.history = (.error e, history) →
    P { session with history }
  built : ∀ {session context signature v history}, P session → session.handle = .found context →
    session.cache.get? signature = none →
    resolveSignature session.project context signature session.history = (.ok v, history) →
    P { session with cache := session.cache.keep signature v, history }
  checked : ∀ {session signature} {kept : Instance}, P session →
    (Cache.key signature, kept) ∈ session.cache.entries → ∀ marking value start,
    P { session with history := (kept.validator.check marking value start session.history).2 }
  reset : ∀ {session}, P session → P session.reset

namespace Invariant

variable {P : Session → Prop} {session : Session}

/-- It is enough to look at what is known and what is kept, where the questions that were asked do
not count. -/
theorem of_asked (capability : ∀ {session}, P session → P session.capability.2)
    (asked : ∀ {session} history, P session → P { session with history })
    (keep : ∀ {session context signature v history}, P session →
      session.handle = .found context → session.cache.get? signature = none →
      (resolveSignature session.project context signature history).1 = .ok v →
      P { session with cache := session.cache.keep signature v })
    (reset : ∀ {session}, P session → P session.reset) : Invariant P where
  capability := capability
  failed h _ _ := asked _ h
  built h found absent resolved := asked _ (keep h found absent (congrArg Prod.fst resolved))
  checked h _ _ _ _ := asked _ h
  reset := reset

theorem validator (inv : Invariant P) (h : P session) (signature : String) :
    P (session.validator signature).2 := by
  have sought := inv.capability h
  rcases asked : session.validator signature with ⟨answer, after⟩
  cases answered_of_validator asked with
  | hit => exact h
  | unavailable absent missing =>
    rw [missing] at sought
    exact sought
  | failed absent found failed =>
    rw [found] at sought
    exact inv.failed sought (handle_of_capability found) failed
  | built absent found resolved =>
    rw [found] at sought
    rw [← cache_of_capability found] at absent
    exact inv.built sought (handle_of_capability found) absent resolved

theorem check (inv : Invariant P) (h : P session) (value signature : String) (start : Nat)
    (collected : List Diagnostic) : P (session.check value signature start collected).2 := by
  have sought := inv.validator h signature
  rcases asked : session.validator signature with ⟨e | _ | kept, after⟩
  · rw [check_of_error asked]
    rwa [asked] at sought
  · rw [check_of_none asked]
    rwa [asked] at sought
  · rw [check_of_some asked]
    rw [asked] at sought
    exact inv.checked sought (mem_of_validator asked) _ value start

theorem perform (inv : Invariant P) (h : P session) (request : Request) :
    P (session.perform request).2 := by
  cases request with
  | checkQuietly value signature start => exact inv.check h value signature start []
  | check value signature start => exact inv.check h value signature start []
  | validator signature => exact inv.validator h signature
  | available => exact inv.capability h
  | providerName => exact inv.capability h
  | reset => exact inv.reset h

theorem run (inv : Invariant P) (h : P session) (requests : List Request) :
    P (session.run requests).2 := by
  induction requests generalizing session with
  | nil => exact h
  | cons request rest ih => exact ih (inv.perform h request)

end Invariant

/-- A session stays with its project and with its settings. -/
theorem invariant_stays (project : Project) (settings : Settings) :
    Invariant fun session => session.project = project ∧ session.settings = settings := by
  apply Invariant.of_asked
  · intro session same
    rwa [capability_project, capability_settings]
  · intro session history same
    exact same
  · intro session _ _ _ _ same _ _ _
    exact same
  · intro session same
    exact same

theorem run_project (session : Session) (requests : List Request) :
    (session.run requests).2.project = session.project :=
  ((invariant_stays _ _).run ⟨rfl, rfl⟩ requests).1

theorem run_settings (session : Session) (requests : List Request) :
    (session.run requests).2.settings = session.settings :=
  ((invariant_stays _ _).run ⟨rfl, rfl⟩ requests).2

theorem settings_of_validator {session after : Session} {signature : String}
    {answer : Except CheckError (Option Instance)}
    (h : session.validator signature = (answer, after)) : after.settings = session.settings := by
  have stays : (session.validator signature).2.settings = session.settings :=
    ((invariant_stays _ _).validator ⟨rfl, rfl⟩ signature).2
  rwa [h] at stays

/-! ## Kept validators -/

/-- Every validator that is kept was resolved with the capability in use, from a signature that has
its key. -/
def Resolved (session : Session) : Prop :=
  ∀ entry ∈ session.cache.entries, ∃ context, session.handle = .found context ∧
    ∃ signature history, Cache.key signature = entry.1 ∧
      (resolveSignature session.project context signature history).1 = .ok entry.2.validator

namespace Resolved

variable {session : Session}

theorem new (project : Project) (settings : Settings) :
    (Session.new project settings).Resolved := by
  rintro entry ⟨⟩

theorem capability (h : session.Resolved) : session.capability.2.Resolved := by
  intro entry member
  rw [capability_cache] at member
  obtain ⟨context, found, resolved⟩ := h entry member
  rw [capability_of_found found]
  exact ⟨context, found, resolved⟩

theorem keep (h : session.Resolved) {context : Context} {signature : String} {v : Validator}
    {history : History} (found : session.handle = .found context)
    (resolved : (resolveSignature session.project context signature history).1 = .ok v) :
    ({ session with cache := session.cache.keep signature v } : Session).Resolved := by
  intro entry member
  rcases Cache.mem_keep member with earlier | rfl
  · exact h entry earlier
  · exact ⟨context, found, signature, history, rfl, resolved⟩

theorem invariant : Invariant Resolved := by
  apply Invariant.of_asked
  · intro session h
    exact h.capability
  · intro session history h
    exact h
  · intro session context signature v history h found _ resolved
    exact h.keep found resolved
  · rintro session _ entry ⟨⟩

end Resolved

end Session

end TypedConfig
