import TypedConfig.Proofs.Binding
import TypedConfig.Resolution.Required

namespace TypedConfig

/-- The project answers for every name whether there is such a type, whatever was asked before. -/
def Project.Knows (project : Project) (known : String → Bool) : Prop :=
  ∀ history name, project.hasType history name = .ok (known name)

/-- The context answers for every type whether it converts to it, whatever was asked before. -/
def Context.Handles (context : Context) (handled : String → Bool) : Prop :=
  ∀ history type, context.supports history type = .ok (handled type)

namespace Validator

theorem wrap_replicate (v : Validator) (depth : Nat) :
    v.wrap (List.replicate depth .elements) = v.nest depth := by
  induction depth with
  | zero => rfl
  | succ depth ih => exact congrArg collection ih

theorem leaf_wrap (v : Validator) (layers : List Descriptor.Layer) :
    (v.wrap layers).leaf = v.leaf := by
  induction layers with
  | nil => rfl
  | cons layer layers ih => cases layer <;> exact ih

end Validator

/-- The validator of a descriptor when all of its types are there. The scalar inside is bound by
its type. -/
def Descriptor.validator (bound : String → Option Context) (d : Descriptor) : Validator :=
  (Validator.scalar d.outline.2 (bound d.outline.2)).wrap d.outline.1

theorem Descriptor.leaf_validator (bound : String → Option Context) (d : Descriptor) :
    (d.validator bound).leaf = (d.outline.2, bound d.outline.2) :=
  Validator.leaf_wrap _ _

/-- The validator of a type with arguments, from the one of its first argument. -/
theorem Descriptor.validator_generic (bound : String → Option Context) (name : String)
    (first : Descriptor) (rest : List Descriptor) :
    (⟨name, first :: rest⟩ : Descriptor).validator bound =
      match Shape.ofGeneric name (rest.length + 1) with
      | .collection => .collection (first.validator bound)
      | .optional => .optional (first.validator bound)
      | .supplier | .map => first.validator bound
      | .array | .scalar => .scalar name (bound name) := by
  unfold validator
  rw [outline]
  cases Shape.ofGeneric name (rest.length + 1) <;> rfl

namespace Resolution

/-- Whether a name is a primitive or is known. -/
def isType (known : String → Bool) (name : String) : Bool := name ∈ primitives || known name

/-- The first of the names that is no type. -/
def missing? (known : String → Bool) (names : List String) : Option String :=
  names.find? fun name => !isType known name

/-- What becomes of work that needs some types: the first that is missing is to blame, and when
none is there is a result. -/
def outcome {α : Type} (known : String → Bool) (names : List String) (result : α) :
    Except Failure α :=
  match missing? known names with
  | some name => .error (.unknownType name)
  | none => .ok result

theorem outcome_singleton {α : Type} (known : String → Bool) (name : String) (result : α) :
    outcome known [name] result =
      if isType known name then .ok result else .error (.unknownType name) := by
  cases there : isType known name <;> simp [outcome, missing?, there]

theorem outcome_eq_ok {α : Type} {known : String → Bool} {names : List String} {result a : α} :
    outcome known names result = .ok a ↔ missing? known names = none ∧ result = a := by
  cases missing : missing? known names <;> simp [outcome, missing]

/-- The work comes to what it needs the types for, whatever was asked before. -/
def Resolving.Requires {α : Type} (work : Resolving α) (known : String → Bool)
    (names : List String) (result : α) : Prop :=
  Asking.Ensures work.run (· = outcome known names result)

namespace Resolving.Requires

variable {α β : Type} {known : String → Bool}

theorem pure (a : α) : Resolving.Requires (Pure.pure a) known [] a := fun _ => rfl

/-- What comes first is asked for first. -/
theorem bind {work : Resolving α} {next : α → Resolving β} {names more : List String} {a : α}
    {b : β} (first : work.Requires known names a) (after : (next a).Requires known more b) :
    (work >>= next).Requires known (names ++ more) b := by
  rw [Requires, ExceptT.run_bind]
  refine Asking.Ensures.bind first fun answer settled => ?_
  have both : missing? known (names ++ more) =
      (missing? known names).or (missing? known more) := List.find?_append
  rw [outcome] at settled
  rw [outcome, both]
  cases blamed : missing? known names with
  | some name =>
    rw [blamed] at settled
    subst settled
    exact .pure rfl
  | none =>
    rw [blamed] at settled
    subst settled
    exact after

end Resolving.Requires

variable {project : Project} {known : String → Bool} {context : Option Context}
  {handled : String → Bool}

/-- A question that is answered needs no type. -/
theorem orCrash_requires {α : Type} {question : Asking (Except Crash α)} {answer : α}
    (answered : Asking.Ensures question (· = .ok answer)) :
    (orCrash question).Requires known [] answer := by
  refine Asking.Ensures.bind answered fun result settled => ?_
  subst settled
  exact .pure rfl

theorem require_requires (knows : project.Knows known) (name : String) :
    (require project name).Requires known [name] () := by
  unfold require
  by_cases primitive : name ∈ primitives
  · rw [if_pos primitive, Resolving.Requires, outcome_singleton, isType, decide_eq_true primitive]
    exact .pure rfl
  · have asked : Asking.Ensures (project.askHasType name) (· = .ok (known name)) :=
      fun history => knows history name
    rw [if_neg primitive, ← List.nil_append [name]]
    refine (orCrash_requires asked).bind ?_
    rw [Resolving.Requires, outcome_singleton, isType, decide_eq_false primitive]
    cases known name <;> exact .pure rfl

theorem bindContext_requires (handles : ∀ c ∈ context, c.Handles handled) (type : String) :
    (bindContext context type).Requires known [] (context.filter fun _ => handled type) := by
  cases context with
  | none => exact .pure none
  | some c =>
    have asked : Asking.Ensures (c.askSupports type) (· = .ok (handled type)) :=
      fun history => handles c rfl history type
    exact (orCrash_requires asked).bind (.pure _)

theorem scalar_requires (handles : ∀ c ∈ context, c.Handles handled) (type : String) :
    (scalar context type).Requires known []
      (.scalar type (context.filter fun _ => handled type)) :=
  (bindContext_requires handles type).bind (.pure _)

theorem resolveName_requires (knows : project.Knows known)
    (handles : ∀ c ∈ context, c.Handles handled) (name : String) :
    (resolveName project context name).Requires known [(Descriptor.peel name).2]
      ((Descriptor.simple name).validator fun type => context.filter fun _ => handled type) := by
  rw [Descriptor.validator, Descriptor.outline, Validator.wrap_replicate]
  exact (require_requires knows _).bind ((scalar_requires handles _).bind (.pure _))

/-- Of the arguments only the first can be followed. -/
theorem combine_requires (handles : ∀ c ∈ context, c.Handles handled) (name : String)
    (first : Descriptor) (rest : List Descriptor) :
    let bound := fun type => context.filter fun _ => handled type
    (combine context name ((first :: rest).map (·.validator bound))).Requires known []
      ((⟨name, first :: rest⟩ : Descriptor).validator bound) := by
  intro bound
  rw [Descriptor.validator_generic]
  unfold combine
  rw [List.length_map, List.map_cons, List.length_cons]
  cases Shape.ofGeneric name (rest.length + 1) with
  | collection | optional | supplier | map => exact .pure _
  | array | scalar => exact scalar_requires handles name

mutual

/-- A descriptor needs the types that it requires, and its validator is known beforehand. -/
theorem resolve_requires (knows : project.Knows known)
    (handles : ∀ c ∈ context, c.Handles handled) : (d : Descriptor) →
    (resolve project context d).Requires known d.required
      (d.validator fun type => context.filter fun _ => handled type)
  | ⟨name, []⟩ => resolveName_requires knows handles name
  | ⟨name, first :: rest⟩ => by
    rw [resolve, Descriptor.required, ← List.append_nil (Descriptor.requiredRest rest),
      ← List.singleton_append]
    refine (require_requires knows name).bind ((resolve_requires knows handles first).bind ?_)
    refine (resolveAll_requires knows handles rest).bind ?_
    exact combine_requires handles name first rest

theorem resolveAll_requires (knows : project.Knows known)
    (handles : ∀ c ∈ context, c.Handles handled) : (ds : List Descriptor) →
    (resolveAll project context ds).Requires known (Descriptor.requiredRest ds)
      (ds.map (·.validator fun type => context.filter fun _ => handled type))
  | [] => .pure []
  | d :: ds => by
    rw [resolveAll, Descriptor.requiredRest, ← List.append_nil (Descriptor.requiredRest ds)]
    refine (resolve_requires knows handles d).bind ?_
    exact (resolveAll_requires knows handles ds).bind (.pure _)

end

end Resolution

end TypedConfig
