import TypedConfig.Proofs.Asking
import TypedConfig.Session.Basic

namespace TypedConfig

/-- The leaf asks no other context than this one. -/
def Validator.BoundTo (v : Validator) (context : Context) : Prop :=
  ∀ c, v.leaf.2 = some c → c = context

theorem Validator.leaf_nest (v : Validator) (depth : Nat) : (v.nest depth).leaf = v.leaf := by
  induction depth with
  | zero => rfl
  | succ depth ih => exact ih

namespace Resolution

variable {project : Project} {context : Option Context}

theorem bindContext_ensures (type : String) :
    (bindContext context type).Ensures fun bound => ∀ c ∈ bound, c ∈ context := by
  cases context with
  | none => exact Resolving.Ensures.pure fun c h => by cases h
  | some context =>
    refine Resolving.Ensures.bind (Resolving.Ensures.any _) fun known _ => ?_
    refine Resolving.Ensures.pure fun c h => ?_
    split at h
    · exact h
    · cases h

theorem scalar_ensures (type : String) :
    (scalar context type).Ensures fun v => ∀ c ∈ v.leaf.2, c ∈ context :=
  Resolving.Ensures.bind (bindContext_ensures type) fun _ bound => Resolving.Ensures.pure bound

theorem resolveName_ensures (name : String) :
    (resolveName project context name).Ensures fun v => ∀ c ∈ v.leaf.2, c ∈ context := by
  refine Resolving.Ensures.bind (Resolving.Ensures.any _) fun _ _ => ?_
  refine Resolving.Ensures.bind (scalar_ensures _) fun v bound => ?_
  exact Resolving.Ensures.pure (by rwa [Validator.leaf_nest])

/-- A type with arguments is bound like one of them, or as a whole. -/
theorem combine_ensures (name : String) {arguments : List Validator}
    (bound : ∀ v ∈ arguments, ∀ c ∈ v.leaf.2, c ∈ context) :
    (combine context name arguments).Ensures fun v => ∀ c ∈ v.leaf.2, c ∈ context := by
  unfold combine
  split
  · exact Resolving.Ensures.pure (List.forall_mem_cons.mp bound).1
  · exact Resolving.Ensures.pure (List.forall_mem_cons.mp bound).1
  · exact Resolving.Ensures.pure (List.forall_mem_cons.mp bound).1
  · exact Resolving.Ensures.pure (List.forall_mem_cons.mp bound).1
  · exact scalar_ensures name

mutual

theorem resolve_ensures : (d : Descriptor) →
    (resolve project context d).Ensures fun v => ∀ c ∈ v.leaf.2, c ∈ context
  | ⟨name, []⟩ => resolveName_ensures name
  | ⟨name, first :: rest⟩ => by
    rw [resolve]
    refine Resolving.Ensures.bind (Resolving.Ensures.any _) fun _ _ => ?_
    refine Resolving.Ensures.bind (resolve_ensures first) fun argument hfirst => ?_
    refine Resolving.Ensures.bind (resolveAll_ensures rest) fun arguments hrest => ?_
    exact combine_ensures name (List.forall_mem_cons.mpr ⟨hfirst, hrest⟩)

theorem resolveAll_ensures : (ds : List Descriptor) →
    (resolveAll project context ds).Ensures fun vs => ∀ v ∈ vs, ∀ c ∈ v.leaf.2, c ∈ context
  | [] => Resolving.Ensures.pure (List.forall_mem_nil _)
  | d :: ds => by
    rw [resolveAll]
    refine Resolving.Ensures.bind (resolve_ensures d) fun argument hfirst => ?_
    refine Resolving.Ensures.bind (resolveAll_ensures ds) fun arguments hrest => ?_
    exact Resolving.Ensures.pure (List.forall_mem_cons.mpr ⟨hfirst, hrest⟩)

end

end Resolution

/-! ## Signatures -/

theorem ok_of_mapError {ε ε' α : Type} {f : ε → ε'} {result : Except ε α} {a : α}
    (h : result.mapError f = .ok a) : result = .ok a := by
  cases result with
  | ok b =>
    cases h
    rfl
  | error e => cases h

section
variable {project : Project} {context : Context} {signature : String} {history : History}

theorem resolveSignature_of_error {e : Signature.SyntaxError}
    (h : Signature.parse signature = .error e) :
    resolveSignature project context signature history = (.error (.malformed e), history) := by
  rw [resolveSignature, h]
  rfl

theorem resolveSignature_of_ok {d : Descriptor} (h : Signature.parse signature = .ok d) :
    resolveSignature project context signature history =
      let resolved := (Resolution.resolve project (some context) d).run history
      (resolved.1.mapError CheckError.ofResolution, resolved.2) := by
  rw [resolveSignature, h]
  rfl

/-- A signature's validator asks the context that it was resolved with. -/
theorem resolveSignature_boundTo {v : Validator}
    (h : (resolveSignature project context signature history).1 = .ok v) :
    v.BoundTo context := by
  cases parsed : Signature.parse signature with
  | error e => rw [resolveSignature_of_error parsed] at h; cases h
  | ok d =>
    rw [resolveSignature_of_ok parsed] at h
    intro c bound
    have given := Resolution.resolve_ensures d history v (ok_of_mapError h) c bound
    exact (Option.some.inj given).symm

end

end TypedConfig
