import TypedConfig.Proofs.Marking
import TypedConfig.Proofs.Requests

namespace TypedConfig.Session

variable {session : Session} {signature : String}

/-! ## What requests leave -/

theorem capability_isResolved (session : Session) :
    session.capability.2.handle.isResolved = true := by
  rw [capability_handle]
  cases session.capability.1 <;> rfl

/-- The capability is looked for once. -/
theorem capability_of_isResolved (h : session.handle.isResolved = true) :
    session.capability.2 = session := by
  cases handle : session.handle with
  | unsought =>
    rw [handle] at h
    cases h
  | missing => rw [capability_of_missing handle]
  | found context => rw [capability_of_found handle]

/-- A check leaves what asking for the validator leaves, but for the questions of the check. -/
theorem check_leaves (session : Session) (value signature : String) (start : Nat)
    (collected : List Diagnostic) :
    ∃ history, (session.check value signature start collected).2 =
      { (session.validator signature).2 with history } := by
  rcases asked : session.validator signature with ⟨e | _ | kept, after⟩
  · rw [check_of_error asked]
    exact ⟨after.history, rfl⟩
  · rw [check_of_none asked]
    exact ⟨after.history, rfl⟩
  · rw [check_of_some asked]
    exact ⟨_, rfl⟩

/-- Asking for a validator leaves the capability as it is left by asking for that, or is not even
asked for it. -/
theorem validator_leaves (session : Session) (signature : String) :
    let after := (session.validator signature).2
    session.cache.entries ≠ [] ∧ after = session ∨
      after.handle = session.capability.2.handle ∧
        after.searches = session.capability.2.searches := by
  rcases asked : session.validator signature with ⟨answer, after⟩
  cases answered_of_validator asked with
  | hit hit => exact .inl ⟨List.ne_nil_of_mem (Cache.mem_of_get? hit), rfl⟩
  | unavailable absent missing => exact .inr (by simp only [missing, and_self])
  | failed absent found failed => exact .inr (by simp only [found, and_self])
  | built absent found resolved => exact .inr (by simp only [found, and_self])

theorem validator_of_isResolved (signature : String) (h : session.handle.isResolved = true) :
    (session.validator signature).2.handle = session.handle ∧
      (session.validator signature).2.searches = session.searches := by
  have same := capability_of_isResolved h
  rcases session.validator_leaves signature with ⟨_, unchanged⟩ | ⟨handle, searches⟩
  · rw [unchanged]
    exact ⟨rfl, rfl⟩
  · rw [handle, searches, same]
    exact ⟨rfl, rfl⟩

/-- A validator that there is not leaves the cache as it was. -/
theorem cache_of_validator_error {e : CheckError}
    (h : (session.validator signature).1 = .error e) :
    (session.validator signature).2.cache = session.cache := by
  rcases asked : session.validator signature with ⟨answer, after⟩
  rw [asked] at h
  cases answered_of_validator asked with
  | hit => cases h
  | unavailable => cases h
  | failed absent found failed => simpa only using cache_of_capability found
  | built => cases h

/-! ## What is known -/

namespace Resolved

theorem isResolved_of_entries (h : session.Resolved) (kept : session.cache.entries ≠ []) :
    session.handle.isResolved = true := by
  obtain ⟨entry, member⟩ := List.exists_mem_of_ne_nil _ kept
  obtain ⟨context, found, _⟩ := h entry member
  rw [found]
  rfl

theorem validator_isResolved (h : session.Resolved) (signature : String) :
    (session.validator signature).2.handle.isResolved = true := by
  rcases session.validator_leaves signature with ⟨kept, unchanged⟩ | ⟨handle, _⟩
  · rw [unchanged]
    exact h.isResolved_of_entries kept
  · rw [handle]
    exact session.capability_isResolved

/-- After any request but a reset it is known whether there is a capability. -/
theorem perform_isResolved (h : session.Resolved) {request : Request} (asks : request ≠ .reset) :
    (session.perform request).2.handle.isResolved = true := by
  have checked (value signature : String) (start : Nat) :
      (session.check value signature start []).2.handle.isResolved = true := by
    obtain ⟨history, leaves⟩ := session.check_leaves value signature start []
    rw [leaves]
    exact h.validator_isResolved signature
  cases request with
  | checkQuietly value signature start => exact checked value signature start
  | check value signature start => exact checked value signature start
  | validator signature => exact h.validator_isResolved signature
  | available => exact session.capability_isResolved
  | providerName => exact session.capability_isResolved
  | reset => exact absurd rfl asks

end Resolved

/-! ## Runs -/

/-- The requests since the last reset, or since there have been any, the latest first. The first of
them asks for the capability, since nothing is kept then. -/
def sinceReset (requests : List Request) : List Request :=
  requests.reverse.takeWhile (· ≠ .reset)

/-- Once there was a request since the last reset, the capability has been looked for. -/
theorem isResolved_of_sinceReset {project : Project} {settings : Settings}
    {requests : List Request} (since : sinceReset requests ≠ []) :
    ((Session.new project settings).run requests).2.handle.isResolved = true := by
  rcases List.eq_nil_or_concat requests with rfl | ⟨before, last, rfl⟩
  · exact absurd rfl since
  · have asks : last ≠ .reset := by
      rintro rfl
      simp [sinceReset] at since
    rw [List.concat_eq_append, run_append]
    have resolved := Resolved.invariant.run (.new project settings) before
    exact resolved.perform_isResolved asks

/-- As long as there was none, the capability is not looked for, and nothing is kept. -/
theorem unsought_of_sinceReset {project : Project} {settings : Settings}
    {requests : List Request} (none : sinceReset requests = []) :
    let session := ((Session.new project settings).run requests).2
    session.handle = .unsought ∧ session.cache.entries = [] := by
  rcases List.eq_nil_or_concat requests with rfl | ⟨before, last, rfl⟩
  · exact ⟨rfl, rfl⟩
  · obtain rfl : last = .reset := Decidable.byContradiction fun asks => by
      simp [sinceReset, asks] at none
    rw [List.concat_eq_append, run_append]
    exact ⟨rfl, rfl⟩

/-- The capability changes with a check only if there was no request since the last reset. Then it
has been looked for once. -/
theorem check_searches {project : Project} {settings : Settings} (requests : List Request)
    (value signature : String) (start : Nat) (collected : List Diagnostic) :
    let session := ((Session.new project settings).run requests).2
    let checked := session.check value signature start collected
    sinceReset requests = [] ∧ checked.2.searches = session.searches + 1 ∨
      checked.2.handle = session.handle ∧ checked.2.searches = session.searches := by
  intro session checked
  obtain ⟨history, leaves⟩ := session.check_leaves value signature start collected
  simp only [checked, leaves]
  by_cases since : sinceReset requests = []
  · obtain ⟨unsought, empty⟩ : session.handle = .unsought ∧ session.cache.entries = [] :=
      unsought_of_sinceReset since
    rcases session.validator_leaves signature with ⟨kept, _⟩ | ⟨_, searches⟩
    · exact absurd empty kept
    · rw [capability_of_unsought unsought] at searches
      exact .inl ⟨since, searches⟩
  · have resolved : session.handle.isResolved = true := isResolved_of_sinceReset since
    exact .inr (validator_of_isResolved signature resolved)

/-! ## Failures -/

theorem answer_of_error {report : Report} {fault : Fault} (h : report.outcome = .error fault) :
    report.answer = (.error (.ofConversion fault), []) := by
  simp only [Report.answer, h]

theorem answer_of_ok {report : Report} (h : report.outcome = .ok ()) :
    report.answer = (.ok (), report.diagnostics) := by
  simp only [Report.answer, h]

/-- A check fails either for want of a validator, and then the cache is as it was before, or at a
conversion or a sum of places, and then the cache is as the validator has left it. Nothing is
collected. -/
theorem check_error {value : String} {start : Nat} {collected : List Diagnostic} {e : CheckError}
    (h : (session.check value signature start collected).1.1 = .error e) :
    let asked := session.validator signature
    let checked := session.check value signature start collected
    checked.1.2 = collected ∧
      (asked.1 = .error e ∧ checked.2.cache = session.cache ∨
        ∃ kept fault, asked.1 = .ok (some kept) ∧
          ((∃ text, kept.validator.Said asked.2.history checked.2.history text (.error fault)) ∨
            session.settings.overflow = .crashes ∧ fault = .crashed Overflow.crash ∧
              UInt64.size ≤ start + value.length + 1) ∧
          e = .ofConversion fault ∧ checked.2.cache = asked.2.cache) := by
  rcases asked : session.validator signature with ⟨failure | _ | kept, after⟩
  · rw [check_of_error asked] at h ⊢
    cases h
    have unchanged := cache_of_validator_error (congrArg Prod.fst asked)
    rw [asked] at unchanged
    exact ⟨rfl, .inl ⟨rfl, unchanged⟩⟩
  · rw [check_of_none asked] at h
    cases h
  · rw [check_of_some asked] at h ⊢
    have faithful := kept.validator.check_faithful after.settings.marking value start after.history
    rcases checked : kept.validator.check after.settings.marking value start after.history with
      ⟨report, history⟩
    cases outcome : report.outcome with
    | ok =>
      simp only [checked, answer_of_ok outcome] at h
      cases h
    | error fault =>
      simp only [checked, answer_of_error outcome] at h
      cases h
      rw [checked] at faithful
      have excuse := faithful.fault fault outcome
      rw [settings_of_validator asked, String.length_toList] at excuse
      have nothing : collected ++ report.answer.2 = collected := by
        rw [answer_of_error outcome, List.append_nil]
      exact ⟨nothing, .inr ⟨kept, fault, rfl, excuse, rfl, rfl⟩⟩

/-- **A failed check is contained.** In every session that requests lead to, whatever the project
and the context answer and wherever they fail or crash: a check that fails has collected nothing.
Either there is no validator, and the cache is as it was, or the context failed when it was asked to
convert a piece of the value, or the value stands behind the last places and adding them crashes,
and then the cache is as the request for the validator has left it. The capability is looked for
only by the first request since the last reset, and a check that says nothing of failures leaves the
same session. -/
theorem failed_check_contained (project : Project) (settings : Settings) (requests : List Request)
    (value signature : String) (start : Nat) (collected : List Diagnostic) :
    let session := ((Session.new project settings).run requests).2
    let asked := session.validator signature
    let checked := session.check value signature start collected
    (∀ e, checked.1.1 = .error e → checked.1.2 = collected ∧
      (asked.1 = .error e ∧ checked.2.cache = session.cache ∨
        ∃ kept fault, asked.1 = .ok (some kept) ∧
          ((∃ text, kept.validator.Said asked.2.history checked.2.history text (.error fault)) ∨
            settings.overflow = .crashes ∧ fault = .crashed Overflow.crash ∧
              UInt64.size ≤ start + value.length + 1) ∧
          e = .ofConversion fault ∧ checked.2.cache = asked.2.cache)) ∧
      (sinceReset requests = [] ∧ checked.2.searches = session.searches + 1 ∨
        checked.2.handle = session.handle ∧ checked.2.searches = session.searches) ∧
      session.checkQuietly value signature start collected = (checked.1.2, checked.2) := by
  refine ⟨fun e failed => ?_, check_searches requests value signature start collected, rfl⟩
  have contained := check_error failed
  rwa [run_settings] at contained

end TypedConfig.Session
