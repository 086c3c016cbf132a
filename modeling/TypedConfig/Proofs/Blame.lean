import TypedConfig.Proofs.Reliability

namespace TypedConfig

/-! ## Signatures to blame -/

namespace InMemory

/-- What a signature is to blame for: it cannot be read, or a type that it requires is missing from
the project. The first such type is named. -/
inductive Blames (project : InMemory) (signature : String) : CheckError → Prop where
  | malformed {e : Signature.SyntaxError} (unread : Signature.parse signature = .error e) :
      Blames project signature (.malformed e)
  | unknownType {d : Descriptor} {name : String} (read : Signature.parse signature = .ok d)
      (missing : Resolution.missing? project.types.contains d.required = some name) :
      Blames project signature (.unknownType name)

variable {project : InMemory} {signature : String}

/-- With the standard context, resolving fails for no other reason. -/
theorem resolveSignature_error_iff (history : History) {e : CheckError} :
    (resolveSignature project.toProject Standard.context signature history).1 = .error e ↔
      project.Blames signature e := by
  cases parsed : Signature.parse signature with
  | error unread =>
    rw [resolveSignature_of_error parsed]
    constructor
    · intro failed
      cases failed
      exact .malformed parsed
    · intro blames
      cases blames with
      | malformed unread' =>
        cases parsed.symm.trans unread'
        rfl
      | unknownType read missing => cases parsed.symm.trans read
  | ok d =>
    rw [resolveSignature_standard parsed]
    constructor
    · intro failed
      cases missing : Resolution.missing? project.types.contains d.required with
      | none =>
        simp only [Resolution.outcome, missing] at failed
        cases failed
      | some name =>
        simp only [Resolution.outcome, missing] at failed
        cases failed
        exact .unknownType parsed missing
    · intro blames
      cases blames with
      | malformed unread => cases parsed.symm.trans unread
      | unknownType read missing =>
        cases parsed.symm.trans read
        simp only [Resolution.outcome, missing]
        rfl

end InMemory

namespace Session

/-! ## Sessions with the standard context -/

/-- What is found for a signature is what this signature has come to as well. -/
theorem Resolved.of_get? {session : Session} (h : session.Resolved) {signature : String}
    {kept : Instance} (hit : session.cache.get? signature = some kept) :
    ∃ context, session.handle = .found context ∧ ∃ history,
      (resolveSignature session.project context signature history).1 = .ok kept.validator := by
  obtain ⟨context, found, other, history, key, resolved⟩ := h _ (Cache.mem_of_get? hit)
  have same := resolveSignature_congr key resolved
  rw [same] at resolved
  exact ⟨context, found, history, resolved⟩

/-- What is answered about a signature of a project in memory: a validator which the standard
context serves, or what the signature is to blame for. -/
inductive Served (project : InMemory) (signature : String) :
    Except CheckError (Option Instance) → Prop where
  | served {kept : Instance} (resolves : project.Resolves signature)
      (serves : Standard.Serves kept.validator) : Served project signature (.ok (some kept))
  | failed {e : CheckError} (blames : project.Blames signature e) :
      Served project signature (.error e)

section
variable {project : InMemory} {session : Session} {signature : String}

/-- The standard context serves what is resolved with it. -/
theorem served_of_resolveSignature {history : History} {kept : Instance}
    (h : (resolveSignature project.toProject Standard.context signature history).1 =
      .ok kept.validator) : Served project signature (.ok (some kept)) := by
  have resolves := InMemory.resolves_of_resolveSignature h
  obtain ⟨v, resolved, serves⟩ := resolves.validator history
  obtain rfl : v = kept.validator := Except.ok.inj (resolved.symm.trans h)
  exact .served resolves serves

theorem Resolved.served (h : session.Resolved) (same : session.project = project.toProject)
    (standard : session.capability.1 = some Standard.context) (signature : String) :
    Served project signature (session.validator signature).1 := by
  rcases asked : session.validator signature with ⟨answer, after⟩
  cases answered_of_validator asked with
  | hit hit =>
    obtain ⟨context, found, history, resolved⟩ := h.of_get? hit
    rw [capability_of_found found] at standard
    obtain rfl := Option.some.inj standard
    rw [same] at resolved
    exact served_of_resolveSignature resolved
  | unavailable absent missing =>
    rw [missing] at standard
    cases standard
  | failed absent found failed =>
    have same' := (project_of_capability found).trans same
    rw [found] at standard
    obtain rfl := Option.some.inj standard
    rw [same'] at failed
    exact .failed ((InMemory.resolveSignature_error_iff _).mp (congrArg Prod.fst failed))
  | built absent found resolved =>
    have same' := (project_of_capability found).trans same
    rw [found] at standard
    obtain rfl := Option.some.inj standard
    rw [same'] at resolved
    exact served_of_resolveSignature (congrArg Prod.fst resolved)

end

end Session

end TypedConfig
