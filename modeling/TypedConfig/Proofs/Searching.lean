import TypedConfig.Capability.Account
import TypedConfig.Project.InMemory
import TypedConfig.Proofs.Asking

/-!
How a search goes, by its account. Candidates are built in the order in which they are named, and
the first context ends the search, wherever the candidate came from and whatever has failed or
crashed before it.
-/
namespace TypedConfig

namespace SearchPlan

/-! ## Accounts -/

variable {project : Project} {entries more : List Entry} {history : History}

theorem calls_cons (entry : Entry) (entries : List Entry) (history : History) :
    calls (entry :: entries) ++ history = calls entries ++ entry.call :: history := by
  simp [calls]

theorem calls_append (entries more : List Entry) (history : History) :
    calls (entries ++ more) ++ history = calls more ++ (calls entries ++ history) := by
  simp [calls]

theorem isAccount_append : IsAccount project history (entries ++ more) ↔
    IsAccount project history entries ∧ IsAccount project (calls entries ++ history) more := by
  induction entries generalizing history with
  | nil => simp [IsAccount, calls]
  | cons entry rest ih =>
    rw [List.cons_append, IsAccount, IsAccount, ih, calls_cons, and_assoc]

theorem Fails.append (first : Fails entries) (second : Fails more) : Fails (entries ++ more) := by
  intro build member
  rw [builds, List.filterMap_append, List.mem_append] at member
  rcases member with earlier | later
  · exact first build earlier
  · exact second build later

/-- What does not try to build fails to. -/
theorem fails_of_other {entry : Entry} (other : entry.build? = none) : Fails [entry] := by
  intro build member
  simp [builds, other] at member

theorem fails_of_fault (provider : Provider) (fault : Fault) :
    Fails [.built provider (.error fault)] := by
  intro build member
  obtain rfl := List.mem_singleton.mp member
  rfl

theorem not_fails_of_last (earlier : List Entry) (winner : Provider) (context : Context) :
    ¬ Fails (earlier ++ [.built winner (.ok context)]) := by
  intro fails
  have last : (winner, some context) ∈ builds (earlier ++ [.built winner (.ok context)]) := by
    rw [builds, List.filterMap_append]
    exact List.mem_append_right _ (List.mem_singleton.mpr rfl)
  cases fails _ last

/-- What has failed goes before. -/
theorem EndsWith.after {found : Option Context} (h : EndsWith more found) (failed : Fails entries) :
    EndsWith (entries ++ more) found := by
  cases found with
  | none => exact failed.append h
  | some context =>
    obtain ⟨earlier, winner, rfl, fails⟩ := h
    refine ⟨entries ++ earlier, winner, ?_, failed.append fails⟩
    rw [List.append_assoc]

/-- The work is accounted for by these entries. -/
structure Accounts (project : Project) (history : History) (work : Asking (Option Context))
    (entries : List Entry) : Prop where
  isTrue : IsAccount project history entries
  calls : (work history).2 = calls entries ++ history

variable {provider : Provider} {found : Option Context}

/-! ## Services -/

/-- An account of how providers were tried, one after the other, up to the first that built a
context. -/
structure Tried (entries : List Entry) (providers : List Provider) (found : Option Context) :
    Prop where
  ends : EndsWith entries found
  inOrder : attempts entries <+: providers
  all : found = none → attempts entries = providers
  unloaded : loads entries = []
  unscanned : scans entries = []
  unnamed : candidates entries = []

namespace Tried

variable {providers : List Provider}

theorem nil : Tried [] [] none where
  ends := List.forall_mem_nil _
  inOrder := List.prefix_refl _
  all _ := rfl
  unloaded := rfl
  unscanned := rfl
  unnamed := rfl

theorem win (provider : Provider) (providers : List Provider) (context : Context) :
    Tried [.built provider (.ok context)] (provider :: providers) (some context) where
  ends := ⟨[], provider, rfl, List.forall_mem_nil _⟩
  inOrder := ⟨providers, rfl⟩
  all impossible := by cases impossible
  unloaded := rfl
  unscanned := rfl
  unnamed := rfl

theorem fail (provider : Provider) (fault : Fault) (rest : Tried entries providers found) :
    Tried (.built provider (.error fault) :: entries) (provider :: providers) found where
  ends := rest.ends.after (fails_of_fault provider fault)
  inOrder := (List.prefix_cons_inj provider).mpr rest.inOrder
  all missing := congrArg (provider :: ·) (rest.all missing)
  unloaded := rest.unloaded
  unscanned := rest.unscanned
  unnamed := rest.unnamed

end Tried

section
variable {providers : List Provider}

theorem tryEach_of_ok {context : Context} (built : provider.build history = .ok context) :
    tryEach (provider :: providers) history =
      (some context, .build provider.name provider.serial :: history) := by
  simp only [tryEach, Asking.bind_apply, Provider.askBuild, ask, built]
  rfl

theorem tryEach_of_error {fault : Fault} (failed : provider.build history = .error fault) :
    tryEach (provider :: providers) history =
      tryEach providers (.build provider.name provider.serial :: history) := by
  simp only [tryEach, Asking.bind_apply, Provider.askBuild, ask, failed]

end

theorem tryEach_accounts (project : Project) (providers : List Provider) (history : History) :
    ∃ entries, Accounts project history (tryEach providers) entries ∧
      Tried entries providers (tryEach providers history).1 := by
  induction providers generalizing history with
  | nil => exact ⟨[], ⟨trivial, rfl⟩, .nil⟩
  | cons provider rest ih =>
    cases built : provider.build history with
    | ok context =>
      refine ⟨[.built provider (.ok context)], ⟨⟨built, trivial⟩, ?_⟩, ?_⟩
      · rw [tryEach_of_ok built]
        rfl
      · rw [tryEach_of_ok built]
        exact .win provider rest context
    | error fault =>
      obtain ⟨entries, accounts, tried⟩ := ih (.build provider.name provider.serial :: history)
      refine ⟨.built provider (.error fault) :: entries, ⟨⟨built, accounts.isTrue⟩, ?_⟩, ?_⟩
      · rw [tryEach_of_error built, calls_cons]
        exact accounts.calls
      · rw [tryEach_of_error built]
        exact tried.fail provider fault

/-- An account of a scan and of how its answer was tried. -/
structure Served (interface : String) (entries : List Entry) (found : Option Context) : Prop where
  ends : EndsWith entries found
  scanned : ∃ answer rest, entries = .scanned interface answer :: rest ∧ scans rest = []
  unloaded : loads entries = []
  inOrder : attempts entries <+: candidates entries
  all : found = none → attempts entries = candidates entries

theorem tryServices_of_ok {interface : String} {providers : List Provider}
    (offered : project.scan history interface = .ok providers) :
    tryServices project interface history = tryEach providers (.scan interface :: history) := by
  simp only [tryServices, Asking.bind_apply, Project.askScan, ask, offered]

theorem tryServices_of_error {interface : String} {fault : Fault}
    (failed : project.scan history interface = .error fault) :
    tryServices project interface history = (none, .scan interface :: history) := by
  simp only [tryServices, Asking.bind_apply, Project.askScan, ask, failed]
  rfl

theorem tryServices_accounts (project : Project) (interface : String) (history : History) :
    ∃ entries, Accounts project history (tryServices project interface) entries ∧
      Served interface entries (tryServices project interface history).1 := by
  cases scanned : project.scan history interface with
  | error fault =>
    refine ⟨[.scanned interface (.error fault)], ⟨⟨scanned, trivial⟩, ?_⟩, ?_⟩
    · rw [tryServices_of_error scanned]
      rfl
    · rw [tryServices_of_error scanned]
      exact {
        ends := fails_of_other rfl
        scanned := ⟨_, [], rfl, rfl⟩
        unloaded := rfl
        inOrder := List.prefix_refl _
        all := fun _ => rfl }
  | ok providers =>
    obtain ⟨entries, accounts, tried⟩ :=
      tryEach_accounts project providers (.scan interface :: history)
    have named : candidates (.scanned interface (.ok providers) :: entries) = providers := by
      have unnamed := tried.unnamed
      rw [candidates] at unnamed
      rw [candidates, List.flatMap_cons, unnamed, List.append_nil]
      rfl
    refine ⟨.scanned interface (.ok providers) :: entries, ⟨⟨scanned, accounts.isTrue⟩, ?_⟩, ?_⟩
    · rw [tryServices_of_ok scanned, calls_cons]
      exact accounts.calls
    · rw [tryServices_of_ok scanned]
      exact {
        ends := tried.ends.after (fails_of_other rfl)
        scanned := ⟨_, entries, rfl, tried.unscanned⟩
        unloaded := tried.unloaded
        inOrder := by
          rw [named]
          exact tried.inOrder
        all := by
          intro missing
          rw [named]
          exact tried.all missing }

/-! ## Names -/

/-- An account of how names were loaded, one after the other, up to the first whose provider built
a context. -/
structure Named (entries : List Entry) (names : List String) (found : Option Context) : Prop where
  ends : EndsWith entries found
  inOrder : loads entries <+: names
  all : found = none → loads entries = names
  tried : attempts entries = candidates entries
  atName : ∀ context ∈ found, ∃ before name winner,
    entries = before ++ [.loaded name (.ok (some winner)), .built winner (.ok context)]
  unscanned : scans entries = []

namespace Named

variable {names : List String}

theorem nil : Named [] [] none where
  ends := List.forall_mem_nil _
  inOrder := List.prefix_refl _
  all _ := rfl
  tried := rfl
  atName _ impossible := by cases impossible
  unscanned := rfl

/-- A name without a provider is passed over. -/
theorem absent {answer : Except Fault (Option Provider)} (name : String)
    (unnamed : (Entry.loaded name answer).candidates = []) (rest : Named entries names found) :
    Named (.loaded name answer :: entries) (name :: names) found where
  ends := rest.ends.after (fails_of_other rfl)
  inOrder := (List.prefix_cons_inj name).mpr rest.inOrder
  all missing := congrArg (name :: ·) (rest.all missing)
  tried := by
    rw [candidates, List.flatMap_cons, unnamed]
    exact rest.tried
  atName context member := by
    obtain ⟨before, name', winner, rfl⟩ := rest.atName context member
    exact ⟨.loaded name answer :: before, name', winner, rfl⟩
  unscanned := rest.unscanned

/-- So is a name whose provider fails. -/
theorem fail (name : String) (provider : Provider) (fault : Fault)
    (rest : Named entries names found) :
    Named (.loaded name (.ok (some provider)) :: .built provider (.error fault) :: entries)
      (name :: names) found where
  ends := (rest.ends.after (fails_of_fault provider fault)).after (fails_of_other rfl)
  inOrder := (List.prefix_cons_inj name).mpr rest.inOrder
  all missing := congrArg (name :: ·) (rest.all missing)
  tried := congrArg (provider :: ·) rest.tried
  atName context member := by
    obtain ⟨before, name', winner, rfl⟩ := rest.atName context member
    exact ⟨.loaded name (.ok (some provider)) :: .built provider (.error fault) :: before, name',
      winner, rfl⟩
  unscanned := rest.unscanned

theorem win (name : String) (names : List String) (provider : Provider) (context : Context) :
    Named [.loaded name (.ok (some provider)), .built provider (.ok context)] (name :: names)
      (some context) where
  ends := ⟨[.loaded name (.ok (some provider))], provider, rfl, fails_of_other rfl⟩
  inOrder := ⟨names, rfl⟩
  all impossible := by cases impossible
  tried := rfl
  atName other member := by
    obtain rfl := Option.mem_some.mp member
    exact ⟨[], name, provider, rfl⟩
  unscanned := rfl

end Named

section
variable {name : String} {names : List String}

theorem tryNames_of_absent (absent : project.load history name = .ok none) :
    tryNames project (name :: names) history = tryNames project names (.load name :: history) := by
  simp only [tryNames, Asking.bind_apply, Project.askLoad, ask, absent]

theorem tryNames_of_error {fault : Fault} (failed : project.load history name = .error fault) :
    tryNames project (name :: names) history = tryNames project names (.load name :: history) := by
  simp only [tryNames, Asking.bind_apply, Project.askLoad, ask, failed]

theorem tryNames_of_unbuilt {fault : Fault}
    (loaded : project.load history name = .ok (some provider))
    (failed : provider.build (.load name :: history) = .error fault) :
    tryNames project (name :: names) history =
      tryNames project names (.build provider.name provider.serial :: .load name :: history) := by
  simp only [tryNames, Asking.bind_apply, Project.askLoad, Provider.askBuild, ask, loaded, failed]

theorem tryNames_of_built {context : Context}
    (loaded : project.load history name = .ok (some provider))
    (built : provider.build (.load name :: history) = .ok context) :
    tryNames project (name :: names) history =
      (some context, .build provider.name provider.serial :: .load name :: history) := by
  simp only [tryNames, Asking.bind_apply, Project.askLoad, Provider.askBuild, ask, loaded, built]
  rfl

end

theorem tryNames_accounts (project : Project) (names : List String) (history : History) :
    ∃ entries, Accounts project history (tryNames project names) entries ∧
      Named entries names (tryNames project names history).1 := by
  induction names generalizing history with
  | nil => exact ⟨[], ⟨trivial, rfl⟩, .nil⟩
  | cons name rest ih =>
    cases loaded : project.load history name with
    | error fault =>
      obtain ⟨entries, accounts, named⟩ := ih (.load name :: history)
      refine ⟨.loaded name (.error fault) :: entries, ⟨⟨loaded, accounts.isTrue⟩, ?_⟩, ?_⟩
      · rw [tryNames_of_error loaded, calls_cons]
        exact accounts.calls
      · rw [tryNames_of_error loaded]
        exact named.absent name rfl
    | ok answer =>
      cases answer with
      | none =>
        obtain ⟨entries, accounts, named⟩ := ih (.load name :: history)
        refine ⟨.loaded name (.ok none) :: entries, ⟨⟨loaded, accounts.isTrue⟩, ?_⟩, ?_⟩
        · rw [tryNames_of_absent loaded, calls_cons]
          exact accounts.calls
        · rw [tryNames_of_absent loaded]
          exact named.absent name rfl
      | some provider =>
        cases built : provider.build (.load name :: history) with
        | error fault =>
          obtain ⟨entries, accounts, named⟩ :=
            ih (.build provider.name provider.serial :: .load name :: history)
          refine ⟨.loaded name (.ok (some provider)) :: .built provider (.error fault) :: entries,
            ⟨⟨loaded, built, accounts.isTrue⟩, ?_⟩, ?_⟩
          · rw [tryNames_of_unbuilt loaded built, calls_cons, calls_cons]
            exact accounts.calls
          · rw [tryNames_of_unbuilt loaded built]
            exact named.fail name provider fault
        | ok context =>
          refine ⟨[.loaded name (.ok (some provider)), .built provider (.ok context)],
            ⟨⟨loaded, built, trivial⟩, ?_⟩, ?_⟩
          · rw [tryNames_of_built loaded built]
            rfl
          · rw [tryNames_of_built loaded built]
            exact .win name rest provider context

/-! ## Searches -/

theorem search_of_found (plan : SearchPlan) {context : Context} {after : History}
    (found : tryNames project plan.wellKnown history = (some context, after)) :
    plan.search project history = (some context, after) := by
  rw [search, Asking.bind_apply, found]
  rfl

theorem search_of_none (plan : SearchPlan) {after : History}
    (missing : tryNames project plan.wellKnown history = (none, after)) :
    plan.search project history = tryServices project plan.interface after := by
  rw [search, Asking.bind_apply, missing]

/-- A name has led to a context: this is all. -/
theorem Named.course {plan : SearchPlan} {named : List Entry} {context : Context}
    (h : Named named plan.wellKnown (some context)) : Course plan named [] (some context) := by
  have won : ¬ Fails named := by
    obtain ⟨earlier, winner, rfl, _⟩ := h.ends
    exact not_fails_of_last earlier winner context
  exact {
    ends := by
      rw [List.append_nil]
      exact h.ends
    inOrder := h.inOrder
    tried := h.tried
    atName := fun _ => h.atName
    unscanned := h.unscanned
    scanned := fun fails => absurd fails won
    settled := fun _ => rfl
    unloaded := rfl
    triedServices := List.prefix_refl _
    triedAll := fun _ => rfl }

/-- No name has led to a context: the services go on. -/
theorem Named.course_of_none {plan : SearchPlan} {named served : List Entry}
    (first : Named named plan.wellKnown none) (second : Served plan.interface served found) :
    Course plan named served found where
  ends := second.ends.after first.ends
  inOrder := first.inOrder
  tried := first.tried
  atName empty := by
    obtain ⟨answer, rest, rfl, _⟩ := second.scanned
    cases empty
  unscanned := first.unscanned
  scanned _ := ⟨first.all rfl, second.scanned⟩
  settled won := absurd first.ends won
  unloaded := second.unloaded
  triedServices := second.inOrder
  triedAll := second.all

/-- Every search has an account, and it goes its course. -/
theorem search_accounts (plan : SearchPlan) (project : Project) (history : History) :
    ∃ named served, Accounts project history (plan.search project) (named ++ served) ∧
      Course plan named served (plan.search project history).1 := by
  obtain ⟨named, accounts, first⟩ := tryNames_accounts project plan.wellKnown history
  have isTrue := accounts.isTrue
  have calls := accounts.calls
  cases result : tryNames project plan.wellKnown history with
  | mk found after =>
    rw [result] at first calls
    cases found with
    | some context =>
      refine ⟨named, [], ⟨?_, ?_⟩, ?_⟩
      · rw [List.append_nil]
        exact isTrue
      · rw [search_of_found plan result, List.append_nil]
        exact calls
      · rw [search_of_found plan result]
        exact first.course
    | none =>
      obtain rfl : after = SearchPlan.calls named ++ history := calls
      obtain ⟨served, scanned, second⟩ :=
        tryServices_accounts project plan.interface (SearchPlan.calls named ++ history)
      refine ⟨named, served, ⟨isAccount_append.mpr ⟨isTrue, scanned.isTrue⟩, ?_⟩, ?_⟩
      · rw [search_of_none plan result, calls_append]
        exact scanned.calls
      · rw [search_of_none plan result]
        exact first.course_of_none second

end SearchPlan

/-! ## Services in the order of their registration -/

namespace Registry

theorem servicesOf_registerService (registry : Registry) (interface other : String)
    (provider : Provider) :
    (registry.registerService interface provider).servicesOf other =
      registry.servicesOf other ++ if interface = other then [provider] else [] := by
  rw [servicesOf, registerService, Entries.lookup_put]
  by_cases same : other = interface
  · subst same
    simp [servicesOf]
  · rw [if_neg same, if_neg (Ne.symm same), List.append_nil]
    rfl

theorem servicesOf_registerServices (registry : Registry) (services : List (String × Provider))
    (interface : String) :
    (registry.registerServices services).servicesOf interface =
      registry.servicesOf interface ++ (services.filter (·.1 = interface)).map Prod.snd := by
  induction services generalizing registry with
  | nil => simp [registerServices]
  | cons service rest ih =>
    obtain ⟨name, provider⟩ := service
    have next := ih (registry.registerService name provider)
    rw [servicesOf_registerService] at next
    rw [registerServices, List.foldl_cons]
    by_cases same : name = interface
    · rw [if_pos same, List.append_assoc] at next
      rw [List.filter_cons_of_pos (by simpa using same)]
      exact next
    · rw [if_neg same, List.append_nil] at next
      rw [List.filter_cons_of_neg (by simpa using same)]
      exact next

end Registry

/-- A search goes its course whatever the project answers, and a project in memory answers a scan
with the services of the interface in the order in which they were registered. -/
theorem SearchPlan.search_takes_first_context (plan : SearchPlan) :
    (∀ (project : Project) (history : History), ∃ named served,
      IsAccount project history (named ++ served) ∧
      (plan.search project history).2 = calls (named ++ served) ++ history ∧
      Course plan named served (plan.search project history).1) ∧
    ∀ (known : InMemory) (services : List (String × Provider)) (history : History),
      { known with registry := known.registry.registerServices services }.toProject.scan history
          plan.interface =
        .ok (known.registry.servicesOf plan.interface ++
          (services.filter (·.1 = plan.interface)).map Prod.snd) := by
  constructor
  · intro project history
    obtain ⟨named, served, accounts, course⟩ := search_accounts plan project history
    exact ⟨named, served, accounts.isTrue, accounts.calls, course⟩
  · intro known services history
    have order := known.registry.servicesOf_registerServices services plan.interface
    exact congrArg Except.ok order

end TypedConfig
