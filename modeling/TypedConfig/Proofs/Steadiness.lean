import TypedConfig.Project.InMemory
import TypedConfig.Proofs.Asking
import TypedConfig.Session.Basic

namespace TypedConfig

/-! ## Searching -/

theorem Provider.askBuild_steady {provider : Provider} (steady : provider.Steady) :
    Asking.Ensures provider.askBuild fun result =>
      ∀ context, result = .ok context → context.Steady :=
  fun history context h => steady history context h

namespace SearchPlan

theorem found_steady {context : Context} (steady : context.Steady) :
    Asking.Ensures (pure (some context)) fun found => ∀ c ∈ found, c.Steady := by
  refine .pure fun c h => ?_
  cases h
  exact steady

theorem tryEach_steady {providers : List Provider}
    (steady : ∀ provider ∈ providers, provider.Steady) :
    Asking.Ensures (tryEach providers) fun found => ∀ c ∈ found, c.Steady := by
  induction providers with
  | nil => exact .pure fun c h => by cases h
  | cons provider rest ih =>
    obtain ⟨first, others⟩ := List.forall_mem_cons.mp steady
    refine (Provider.askBuild_steady first).bind fun result contexts => ?_
    cases result with
    | ok context => exact found_steady (contexts context rfl)
    | error fault => exact ih others

variable {project : Project}

theorem tryNames_steady (known : project.Steady) (names : List String) :
    Asking.Ensures (tryNames project names) fun found => ∀ c ∈ found, c.Steady := by
  induction names with
  | nil => exact .pure fun c h => by cases h
  | cons name rest ih =>
    have loaded : Asking.Ensures (project.askLoad name) fun result =>
        ∀ provider, result = .ok (some provider) → provider.Steady :=
      fun history provider h => known.load history name provider h
    refine loaded.bind fun result providers => ?_
    match result with
    | .ok (some provider) =>
      refine (Provider.askBuild_steady (providers provider rfl)).bind fun result contexts => ?_
      cases result with
      | ok context => exact found_steady (contexts context rfl)
      | error fault => exact ih
    | .ok none => exact ih
    | .error fault => exact ih

theorem tryServices_steady (known : project.Steady) (interface : String) :
    Asking.Ensures (tryServices project interface) fun found => ∀ c ∈ found, c.Steady := by
  have scanned : Asking.Ensures (project.askScan interface) fun result =>
      ∀ providers, result = .ok providers → ∀ provider ∈ providers, provider.Steady :=
    fun history providers h => known.scan history interface providers h
  refine scanned.bind fun result services => ?_
  cases result with
  | ok providers => exact tryEach_steady (services providers rfl)
  | error fault => exact .pure fun c h => by cases h

/-- The context that is found in a steady project is steady. -/
theorem search_steady (known : project.Steady) (plan : SearchPlan) :
    Asking.Ensures (plan.search project) fun found => ∀ c ∈ found, c.Steady := by
  refine (tryNames_steady known plan.wellKnown).bind fun found steady => ?_
  cases found with
  | some context => exact .pure steady
  | none => exact tryServices_steady known plan.interface

end SearchPlan

/-! ## Resolving -/

namespace Resolution

variable {α : Type} {project : Project} {context : Option Context}

theorem orCrash_steady {question : Asking (Except Crash α)} (steady : Asking.Steady question) :
    Asking.Steady (orCrash question).run :=
  steady.bind fun _ => .pure _

theorem require_steady (steady : project.Steady) (name : String) :
    Asking.Steady (require project name).run := by
  unfold require
  split
  · exact Resolving.steady_pure ()
  · refine Resolving.steady_bind (orCrash_steady (.ask rfl fun h h' => ?_)) fun known => ?_
    · exact steady.hasType h h' name
    · split
      · exact Resolving.steady_pure ()
      · exact .pure _

theorem bindContext_steady (steady : ∀ c ∈ context, c.Steady) (type : String) :
    Asking.Steady (bindContext context type).run := by
  cases context with
  | none => exact Resolving.steady_pure none
  | some c =>
    refine Resolving.steady_bind (orCrash_steady (.ask rfl fun h h' => ?_)) fun _ =>
      Resolving.steady_pure _
    exact (steady c rfl).supports h h' type

theorem scalar_steady (steady : ∀ c ∈ context, c.Steady) (type : String) :
    Asking.Steady (scalar context type).run :=
  Resolving.steady_bind (bindContext_steady steady type) fun _ => Resolving.steady_pure _

theorem resolveName_steady (known : project.Steady) (steady : ∀ c ∈ context, c.Steady)
    (name : String) : Asking.Steady (resolveName project context name).run :=
  Resolving.steady_bind (require_steady known _) fun _ =>
    Resolving.steady_bind (scalar_steady steady _) fun _ => Resolving.steady_pure _

theorem combine_steady (steady : ∀ c ∈ context, c.Steady) (name : String)
    (arguments : List Validator) : Asking.Steady (combine context name arguments).run := by
  unfold combine
  split
  all_goals first | exact Resolving.steady_pure _ | exact scalar_steady steady name

mutual

theorem resolve_steady (known : project.Steady) (steady : ∀ c ∈ context, c.Steady) :
    (d : Descriptor) → Asking.Steady (resolve project context d).run
  | ⟨name, []⟩ => resolveName_steady known steady name
  | ⟨name, first :: rest⟩ => by
    rw [resolve]
    exact Resolving.steady_bind (require_steady known name) fun _ =>
      Resolving.steady_bind (resolve_steady known steady first) fun argument =>
      Resolving.steady_bind (resolveAll_steady known steady rest) fun arguments =>
      combine_steady steady name (argument :: arguments)

theorem resolveAll_steady (known : project.Steady) (steady : ∀ c ∈ context, c.Steady) :
    (ds : List Descriptor) → Asking.Steady (resolveAll project context ds).run
  | [] => Resolving.steady_pure []
  | d :: ds => by
    rw [resolveAll]
    exact Resolving.steady_bind (resolve_steady known steady d) fun argument =>
      Resolving.steady_bind (resolveAll_steady known steady ds) fun arguments =>
      Resolving.steady_pure (argument :: arguments)

end

end Resolution

theorem resolveSignature_steady {project : Project} {context : Context} (known : project.Steady)
    (steady : context.Steady) (signature : String) :
    Asking.Steady (resolveSignature project context signature) := by
  unfold resolveSignature
  split
  · exact .pure _
  · refine (Resolution.resolve_steady known ?_ _).bind fun _ => .pure _
    rintro c ⟨⟩
    exact steady

/-! ## Checking -/

theorem Validator.checkEach_steady {overflow : Overflow} {check : String → Nat → Asking Report}
    (steady : ∀ element start, Asking.Steady (check element start)) (elements : List String)
    (start : Nat) : Asking.Steady (Validator.checkEach overflow check elements start) := by
  induction elements generalizing start with
  | nil => exact .pure _
  | cons element rest ih =>
    rw [Validator.checkEach]
    refine (steady element start).bind fun first => ?_
    split
    · exact .pure _
    · split
      · exact (ih _).bind fun _ => .pure _
      · exact .pure _

/-- Checking a value keeps to its answer when the context of the leaf does. -/
theorem Validator.check_steady (marking : Marking) (v : Validator)
    (steady : ∀ c ∈ v.leaf.2, c.Steady) (value : String) (start : Nat) :
    Asking.Steady (v.check marking value start) := by
  induction v generalizing value start with
  | scalar type context =>
    cases context with
    | none => exact .pure _
    | some c =>
      refine Asking.Steady.bind (.ask rfl fun h h' => ?_) fun _ => .pure _
      exact (steady c rfl).convert h h' value type
  | collection delegate ih =>
    exact Validator.checkEach_steady (fun element offset => ih steady element offset) _ start
  | optional delegate ih => exact ih steady value start

/-! ## Projects in memory -/

theorem Registry.mem_of_servicesOf {registry : Registry} {interface : String} {provider : Provider}
    (member : provider ∈ registry.servicesOf interface) :
    ∃ entry ∈ registry.services, provider ∈ entry.2 := by
  cases found : registry.services.lookup interface with
  | none =>
    simp only [servicesOf, found, Option.getD_none] at member
    cases member
  | some listed =>
    simp only [servicesOf, found, Option.getD_some] at member
    exact ⟨(interface, listed), Entries.mem_of_lookup found, member⟩

/-- A project in memory knows its types itself, so it is as steady as its providers. -/
theorem InMemory.toProject_steady {project : InMemory}
    (named : ∀ entry ∈ project.registry.providers, entry.2.Steady)
    (services : ∀ entry ∈ project.registry.services, ∀ provider ∈ entry.2, provider.Steady) :
    project.toProject.Steady where
  hasType _ _ _ _ := rfl
  load := by
    intro h name provider loaded
    exact named (name, provider) (Entries.mem_of_lookup (Except.ok.inj loaded))
  scan := by
    intro h interface providers scanned provider member
    obtain rfl := Except.ok.inj scanned
    obtain ⟨entry, registered, listed⟩ := Registry.mem_of_servicesOf member
    exact services entry registered provider listed

theorem Standard.provider_steady : Standard.provider.Steady := by
  rintro h context ⟨⟩
  exact ⟨fun _ _ _ _ => rfl, fun _ _ _ _ _ => rfl⟩

namespace InMemory

/-- No other provider than this one belongs to the project. -/
structure Offers (project : InMemory) (provider : Provider) : Prop where
  named : ∀ entry ∈ project.registry.providers, entry.2 = provider
  services : ∀ entry ∈ project.registry.services, ∀ other ∈ entry.2, other = provider

theorem offers_of_bare {project : InMemory} (bare : project.registry = {}) (provider : Provider) :
    project.Offers provider := by
  constructor
  · rw [bare]
    rintro entry ⟨⟩
  · rw [bare]
    rintro entry ⟨⟩

theorem offers_addStandard {project : InMemory} (bare : project.registry = {}) :
    project.addStandard.Offers Standard.provider := by
  unfold addStandard
  constructor
  · rw [bare]
    rintro entry (_ | ⟨_, ⟨⟩⟩)
    rfl
  · rw [bare]
    rintro entry (_ | ⟨_, ⟨⟩⟩) other (_ | ⟨_, ⟨⟩⟩)
    rfl

theorem Offers.steady {project : InMemory} (offers : project.Offers Standard.provider) :
    project.toProject.Steady := by
  apply toProject_steady
  · intro entry member
    rw [offers.named entry member]
    exact Standard.provider_steady
  · intro entry member other listed
    rw [offers.services entry member other listed]
    exact Standard.provider_steady

theorem standard_steady (name : String) : (standard name).toProject.Steady :=
  (offers_addStandard rfl).steady

end InMemory

end TypedConfig
