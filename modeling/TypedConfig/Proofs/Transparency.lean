import TypedConfig.Project.InMemory
import TypedConfig.Proofs.Reading
import TypedConfig.Proofs.Requests
import TypedConfig.Proofs.Steadiness
import TypedConfig.Session.Request

namespace TypedConfig

/-- Signatures with one key resolve to the same validators. -/
theorem resolveSignature_congr {project : Project} {context : Context} {a b : String}
    {history : History} {v : Validator} (key : Cache.key a = Cache.key b)
    (h : (resolveSignature project context a history).1 = .ok v) :
    resolveSignature project context a history = resolveSignature project context b history := by
  cases parsed : Signature.parse a with
  | error e => rw [resolveSignature_of_error parsed] at h; cases h
  | ok d =>
    have trimmed : Signature.parse (Cache.key b) = .ok d :=
      key ▸ (Signature.parse_ok_iff_trim a d).mp parsed
    have parsed' : Signature.parse b = .ok d := (Signature.parse_ok_iff_trim b d).mpr trimmed
    rw [resolveSignature_of_ok parsed, resolveSignature_of_ok parsed']

namespace Session

/-- What is known is steady, and every kept validator is what each signature with its key resolves
to now, with the capability that is in use. -/
structure Coherent (session : Session) : Prop where
  known : session.project.Steady
  steady : ∀ context, session.handle = .found context → context.Steady
  kept : ∀ entry ∈ session.cache.entries, ∃ context, session.handle = .found context ∧
    ∀ signature, Cache.key signature = entry.1 →
      (resolveSignature session.project context signature session.history).1 =
        .ok entry.2.validator

theorem coherent_new {project : Project} (known : project.Steady) (settings : Settings) :
    (Session.new project settings).Coherent where
  known := known
  steady := by rintro context ⟨⟩
  kept := by rintro entry ⟨⟩

namespace Coherent

variable {session : Session}

/-- As long as there has been no search, nothing is kept. -/
theorem entries_nil (h : session.Coherent) (unsought : session.handle = .unsought) :
    session.cache.entries = [] := by
  refine List.eq_nil_iff_forall_not_mem.mpr fun entry member => ?_
  obtain ⟨context, found, _⟩ := h.kept entry member
  rw [unsought] at found
  cases found

/-- Questions that are asked change nothing of what the kept validators are. -/
theorem asked (h : session.Coherent) {history : History}
    (same : searched history = searched session.history) :
    ({ session with history } : Session).Coherent where
  known := h.known
  steady := h.steady
  kept := by
    intro entry member
    obtain ⟨context, found, resolves⟩ := h.kept entry member
    refine ⟨context, found, fun signature key => ?_⟩
    rw [← resolves signature key]
    exact (resolveSignature_steady h.known (h.steady context found) signature _ _ same).1

theorem capability (h : session.Coherent) : session.capability.2.Coherent := by
  cases handle : session.handle with
  | missing => rw [capability_of_missing handle]; exact h
  | found context => rw [capability_of_found handle]; exact h
  | unsought =>
    rw [capability_of_unsought handle]
    refine ⟨h.known, fun context found => ?_, fun entry member => ?_⟩
    · exact SearchPlan.search_steady h.known session.settings.plan session.history context
        (Handle.ofSearch_eq_found.mp found)
    · simp only [h.entries_nil handle] at member
      cases member

theorem reset (h : session.Coherent) : session.reset.Coherent where
  known := h.known
  steady := by rintro context ⟨⟩
  kept := by rintro entry ⟨⟩

/-- A validator that was resolved just now is kept rightly, for whatever signature has its key. -/
theorem keep (h : session.Coherent) {context : Context} {signature : String} {v : Validator}
    {history : History} (found : session.handle = .found context)
    (resolved : resolveSignature session.project context signature session.history =
      (.ok v, history)) :
    ({ session with cache := session.cache.keep signature v, history } : Session).Coherent := by
  have steady := resolveSignature_steady h.known (h.steady context found) signature
  have same : searched history = searched session.history := steady.searched_eq resolved
  have later := h.asked same
  refine ⟨later.known, later.steady, fun entry member => ?_⟩
  rcases Cache.mem_keep member with earlier | rfl
  · exact later.kept entry earlier
  · refine ⟨context, found, fun other key => ?_⟩
    have now : (resolveSignature session.project context signature history).1 = .ok v := by
      rw [(steady history session.history same).1, resolved]
    have again := resolveSignature_congr key.symm now
    exact again ▸ now

/-- A validator that is answered with keeps to its answers, and so does checking with it. -/
theorem check_steady (h : session.Coherent) {signature : String} {kept : Instance}
    (member : (Cache.key signature, kept) ∈ session.cache.entries) (marking : Marking)
    (value : String) (start : Nat) :
    Asking.Steady (kept.validator.check marking value start) := by
  obtain ⟨context, found, resolves⟩ := h.kept _ member
  refine kept.validator.check_steady marking (fun c bound => ?_) value start
  rw [resolveSignature_boundTo (resolves signature rfl) c bound]
  exact h.steady context found

/-- Every request leaves a coherent session. -/
theorem invariant : Invariant Coherent where
  capability h := h.capability
  failed := by
    intro session context signature e history h found failed
    have steady := resolveSignature_steady h.known (h.steady context found) signature
    exact h.asked (steady.searched_eq failed)
  built h found _ resolved := h.keep found resolved
  checked := by
    intro session signature kept h member marking value start
    have steady := h.check_steady member marking value start
    exact h.asked (steady session.history _ rfl).2
  reset h := h.reset

theorem run (h : session.Coherent) (requests : List Request) :
    (session.run requests).2.Coherent :=
  invariant.run h requests

end Coherent

/-! ## Checking with the cache and without it -/

theorem evaluate_of_error {context : Context} {project : Project} {marking : Marking}
    {value signature : String} {start : Nat} {before after : History} {e : CheckError}
    (h : resolveSignature project context signature before = (.error e, after)) :
    context.evaluate project marking value signature start before = (.error e, []) := by
  simp only [Context.evaluate, h]

theorem evaluate_of_ok {context : Context} {project : Project} {marking : Marking}
    {value signature : String} {start : Nat} {before after : History} {v : Validator}
    (h : resolveSignature project context signature before = (.ok v, after)) :
    context.evaluate project marking value signature start before =
      (v.check marking value start after).1.answer := by
  simp only [Context.evaluate, h]
  rfl

/-- A coherent session answers a check as it would without its cache. -/
theorem Coherent.check_eq_evaluate {session : Session} (h : session.Coherent)
    (value signature : String) (start : Nat) (collected : List Diagnostic) :
    (session.check value signature start collected).1 =
      ((session.evaluate value signature start).1,
        collected ++ (session.evaluate value signature start).2) := by
  rcases asked : session.validator signature with ⟨answer, after⟩
  cases answered_of_validator asked with
  | unavailable absent missing =>
    rw [check_of_none asked]
    simp only [evaluate, missing, List.append_nil]
  | failed absent found failed =>
    rw [check_of_error asked]
    simp only [evaluate, found, evaluate_of_error failed, List.append_nil]
  | built absent found resolved =>
    rw [check_of_some asked]
    simp only [evaluate, found, evaluate_of_ok resolved]
  | @hit kept hit =>
    have member := Cache.mem_of_get? hit
    obtain ⟨context, found, resolves⟩ := h.kept _ member
    have steady := resolveSignature_steady h.known (h.steady context found) signature
    rcases resolved : resolveSignature session.project context signature session.history with
      ⟨result, history⟩
    obtain rfl : result = .ok kept.validator := by
      simpa only [resolved] using resolves signature rfl
    have checked := h.check_steady member session.settings.marking value start history
      session.history (steady.searched_eq resolved)
    rw [check_of_some asked]
    simp only [evaluate, capability_of_found found, evaluate_of_ok resolved, checked.1]

/-- **The cache cannot be noticed.** After any requests whatever, a check answers and appends what
checking without a cache does, through the capability that the session has or now looks for. -/
theorem check_answers_as_if_uncached (project : Project) (settings : Settings)
    (steady : project.Steady) (requests : List Request) (value signature : String) (start : Nat)
    (collected : List Diagnostic) :
    let session := ((Session.new project settings).run requests).2
    (session.check value signature start collected).1 =
      ((session.evaluate value signature start).1,
        collected ++ (session.evaluate value signature start).2) :=
  ((coherent_new steady settings).run requests).check_eq_evaluate value signature start collected

/-- A reset and a signature that fails leave one validator, which is found again under other
blanks. -/
theorem standard_check_answers_as_if_uncached :
    let project := (InMemory.standard "app").toProject
    let settings : Settings := { wellKnown := [Standard.providerName] }
    let session := ((Session.new project settings).run
      [.checkQuietly "1,2" " java.util.List<int>" 0, .reset, .validator "java.util.List<int>",
        .check "1" "java.util.List<" 0]).2
    project.Steady ∧ session.cache.size = 1 ∧
      (session.check "1,x" "\tjava.util.List<int> " 7 []).1 =
        ((session.evaluate "1,x" "\tjava.util.List<int> " 7).1,
          [] ++ (session.evaluate "1,x" "\tjava.util.List<int> " 7).2) :=
  ⟨InMemory.standard_steady "app", by decide +kernel, check_answers_as_if_uncached _ _
    (InMemory.standard_steady "app") _ _ _ _ _⟩

end Session

end TypedConfig
