import TypedConfig.Proofs.Containment
import TypedConfig.Proofs.Outline
import TypedConfig.Proofs.Transparency

namespace TypedConfig

/-! ## The standard context -/

namespace Standard

theorem handles : context.Handles supports := fun _ _ => rfl

theorem convert_of_supports {type : String} (known : supports type = true) (value : String) :
    ∃ conversion, convert value type = .ok conversion := by
  obtain ⟨target, found⟩ := Option.isSome_iff_exists.mp known
  exact ⟨target.convert value, by simp only [convert, found]⟩

/-- What the leaf of a type is bound to. -/
def bound (type : String) : Option Context := (some context).filter fun _ => supports type

theorem bound_eq_some {type : String} {c : Context} :
    bound type = some c ↔ c = context ∧ supports type = true := by
  rw [bound, Option.filter_eq_some_iff, Option.some.injEq, eq_comm]

/-- If a validator asks anyone to convert, it is the standard context, which knows the type. -/
def Serves (v : Validator) : Prop :=
  ∀ c, v.leaf.2 = some c → c = context ∧ supports v.leaf.1 = true

theorem serves_validator (d : Descriptor) : Serves (d.validator bound) := by
  intro c leaf
  rw [d.leaf_validator] at leaf ⊢
  exact bound_eq_some.mp leaf

/-- Checking any text with such a validator ends without a fault, unless places end before it. -/
theorem Serves.check_ok {v : Validator} (h : Serves v) {marking : Marking} {value : String}
    {start : Nat} (room : marking.overflow.Room (start + value.length + 1))
    (history : History) :
    (v.check marking value start history).1.outcome = .ok () := by
  cases outcome : (v.check marking value start history).1.outcome with
  | ok => rfl
  | error fault =>
    have faithful := v.check_faithful marking value start history
    rcases faithful.fault fault outcome with ⟨text, said⟩ | ⟨crashes, _, full⟩
    · obtain ⟨c, leaf, asked, _, _, answered⟩ := said
      obtain ⟨rfl, known⟩ := h c leaf
      obtain ⟨conversion, converted⟩ := convert_of_supports known text
      cases converted.symm.trans answered
    · rw [String.length_toList] at full
      exact absurd (room crashes) (Nat.not_lt.mpr full)

end Standard

/-! ## Signatures -/

namespace InMemory

theorem knows (project : InMemory) : project.toProject.Knows project.types.contains :=
  fun _ _ => rfl

/-- There is a validator for a type of the project, even when nobody converts. -/
def HasValidator (project : InMemory) (d : Descriptor) : Prop :=
  ∃ history v, ((Resolution.resolve project.toProject none d).run history).1 = .ok v

/-- The signature can be read, and its type has a validator. -/
def Resolves (project : InMemory) (signature : String) : Prop :=
  ∃ d, Signature.parse signature = .ok d ∧ project.HasValidator d

variable {project : InMemory} {signature : String}

theorem hasValidator_iff {d : Descriptor} : project.HasValidator d ↔
    Resolution.missing? project.types.contains d.required = none := by
  have nobody : ∀ c ∈ (none : Option Context), c.Handles fun _ => false := by rintro c ⟨⟩
  have settled := Resolution.resolve_requires project.knows nobody d
  constructor
  · rintro ⟨history, v, resolved⟩
    rw [settled history] at resolved
    exact (Resolution.outcome_eq_ok.mp resolved).1
  · intro there
    exact ⟨[], _, (settled []).trans (Resolution.outcome_eq_ok.mpr ⟨there, rfl⟩)⟩

/-- With the standard context, what becomes of a signature does not depend on what was asked. -/
theorem resolveSignature_standard {d : Descriptor} (parsed : Signature.parse signature = .ok d)
    (history : History) :
    (resolveSignature project.toProject Standard.context signature history).1 =
      (Resolution.outcome project.types.contains d.required
        (d.validator Standard.bound)).mapError CheckError.ofResolution := by
  have standard : ∀ c ∈ some Standard.context, c.Handles Standard.supports := by
    rintro c ⟨⟩
    exact Standard.handles
  rw [resolveSignature_of_ok parsed]
  exact congrArg (Except.mapError CheckError.ofResolution)
    (Resolution.resolve_requires project.knows standard d history)

theorem resolves_of_resolveSignature {history : History} {v : Validator}
    (h : (resolveSignature project.toProject Standard.context signature history).1 = .ok v) :
    project.Resolves signature := by
  cases parsed : Signature.parse signature with
  | error e =>
    rw [resolveSignature_of_error parsed] at h
    cases h
  | ok d =>
    rw [resolveSignature_standard parsed] at h
    have there := (Resolution.outcome_eq_ok.mp (ok_of_mapError h)).1
    exact ⟨d, parsed, hasValidator_iff.mpr there⟩

theorem Resolves.validator (h : project.Resolves signature) (history : History) :
    ∃ v, (resolveSignature project.toProject Standard.context signature history).1 = .ok v ∧
      Standard.Serves v := by
  obtain ⟨d, parsed, known⟩ := h
  refine ⟨d.validator Standard.bound, ?_, Standard.serves_validator d⟩
  have there := hasValidator_iff.mp known
  rw [resolveSignature_standard parsed, Resolution.outcome_eq_ok.mpr ⟨there, rfl⟩]
  rfl

/-- Whatever value is checked against a signature that resolves, there is an answer. -/
theorem Resolves.evaluate_ok (h : project.Resolves signature) {marking : Marking} {value : String}
    {start : Nat} (room : marking.overflow.Room (start + value.length + 1))
    (history : History) :
    (Standard.context.evaluate project.toProject marking value signature start history).1 =
      .ok () := by
  obtain ⟨v, resolved, serves⟩ := h.validator history
  rcases asked : resolveSignature project.toProject Standard.context signature history with
    ⟨result, after⟩
  obtain rfl : result = .ok v := by simpa only [asked] using resolved
  rw [Session.evaluate_of_ok asked, Session.answer_of_ok (serves.check_ok room after)]

/-! ## Searches -/

/-- Whether a plan leads to any provider of the project. -/
def reaches (project : InMemory) (plan : SearchPlan) : Bool :=
  plan.wellKnown.any project.registry.contains ||
    !(project.registry.servicesOf plan.interface).isEmpty

/-- The capability that is found in a project which offers the standard provider only. -/
def capability (project : InMemory) (plan : SearchPlan) : Option Context :=
  if project.reaches plan then some Standard.context else none

theorem capability_eq_some {plan : SearchPlan} {context : Context}
    (h : project.capability plan = some context) : context = Standard.context := by
  unfold capability at h
  split at h <;> cases h
  rfl

theorem askBuild_standard :
    Asking.Ensures Standard.provider.askBuild (· = .ok Standard.context) := fun _ => rfl

theorem tryEach_standard {providers : List Provider}
    (standard : ∀ provider ∈ providers, provider = Standard.provider) :
    Asking.Ensures (SearchPlan.tryEach providers)
      (· = if !providers.isEmpty then some Standard.context else none) := by
  cases providers with
  | nil => exact .pure rfl
  | cons provider rest =>
    obtain rfl := (List.forall_mem_cons.mp standard).1
    refine askBuild_standard.bind fun result built => ?_
    subst built
    exact .pure rfl

theorem tryNames_standard (offers : project.Offers Standard.provider) (names : List String) :
    Asking.Ensures (SearchPlan.tryNames project.toProject names)
      (· = if names.any project.registry.contains then some Standard.context else none) := by
  induction names with
  | nil => exact .pure rfl
  | cons name rest ih =>
    have loaded : Asking.Ensures (project.toProject.askLoad name)
        (· = .ok (project.registry.get? name)) := fun _ => rfl
    refine loaded.bind fun result answered => ?_
    subst answered
    cases found : project.registry.get? name with
    | none =>
      have absent : project.registry.contains name = false := by simp [Registry.contains, found]
      simpa only [List.any_cons, absent, Bool.false_or] using ih
    | some provider =>
      obtain rfl := offers.named _ (Entries.mem_of_lookup found)
      have present : project.registry.contains name = true := by simp [Registry.contains, found]
      refine askBuild_standard.bind fun result built => ?_
      subst built
      rw [List.any_cons, present]
      exact .pure rfl

theorem tryServices_standard (offers : project.Offers Standard.provider) (interface : String) :
    Asking.Ensures (SearchPlan.tryServices project.toProject interface)
      (· = if !(project.registry.servicesOf interface).isEmpty then some Standard.context
        else none) := by
  have scanned : Asking.Ensures (project.toProject.askScan interface)
      (· = .ok (project.registry.servicesOf interface)) := fun _ => rfl
  refine scanned.bind fun result answered => ?_
  subst answered
  refine tryEach_standard fun provider member => ?_
  obtain ⟨entry, registered, listed⟩ := Registry.mem_of_servicesOf member
  exact offers.services entry registered provider listed

/-- A search finds the same at all times. -/
theorem search_standard (offers : project.Offers Standard.provider) (plan : SearchPlan) :
    Asking.Ensures (plan.search project.toProject) (· = project.capability plan) := by
  refine (tryNames_standard offers plan.wellKnown).bind fun found named => ?_
  subst named
  unfold capability reaches
  cases plan.wellKnown.any project.registry.contains with
  | true => exact .pure rfl
  | false => exact tryServices_standard offers plan.interface

end InMemory

/-! ## Sessions -/

namespace Session

/-- The session is about a project where the same capability is found at all times, or never one,
and it does not know of any other. -/
structure Knows (session : Session) (project : Project) (settings : Settings)
    (found : Option Context) : Prop where
  settled : Asking.Ensures (settings.plan.search project) (· = found)
  project : session.project = project
  settings : session.settings = settings
  handle : session.handle = .unsought ∨ session.handle = .ofSearch found

namespace Knows

variable {session : Session} {project : Project} {settings : Settings} {found : Option Context}

theorem new (settled : Asking.Ensures (settings.plan.search project) (· = found)) :
    (Session.new project settings).Knows project settings found :=
  ⟨settled, rfl, rfl, .inl rfl⟩

theorem found_eq (h : session.Knows project settings found) {context : Context}
    (known : session.handle = .found context) : found = some context := by
  rcases h.handle with unsought | searched
  · rw [unsought] at known
    cases known
  · exact Handle.ofSearch_eq_found.mp (searched.symm.trans known)

/-- What is kept and what was asked does not matter. -/
theorem asked (h : session.Knows project settings found) (cache : Cache) (history : History) :
    ({ session with cache, history } : Session).Knows project settings found :=
  ⟨h.settled, h.project, h.settings, h.handle⟩

theorem capability (h : session.Knows project settings found) :
    session.capability.1 = found ∧ session.capability.2.Knows project settings found := by
  have answered : session.capability.1 = found := by
    rcases h.handle with unsought | known
    · rw [capability_of_unsought unsought, h.project, h.settings]
      exact h.settled session.history
    · cases found with
      | none => rw [capability_of_missing known]
      | some context => rw [capability_of_found known]
  have project' := session.capability_project
  have settings' := session.capability_settings
  have handle := session.capability_handle
  rw [answered] at handle
  exact ⟨answered, h.settled, project'.trans h.project, settings'.trans h.settings, .inr handle⟩

/-- No request changes that. -/
theorem invariant : Invariant fun session => session.Knows project settings found := by
  apply Invariant.of_asked
  · intro session h
    exact h.capability.2
  · intro session history h
    exact h.asked session.cache history
  · intro session context signature v history h _ _ _
    exact h.asked _ session.history
  · intro session h
    exact ⟨h.settled, h.project, h.settings, .inl rfl⟩

theorem run (h : session.Knows project settings found) (requests : List Request) :
    (session.run requests).2.Knows project settings found :=
  invariant.run h requests

end Knows

end Session

end TypedConfig
