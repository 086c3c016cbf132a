import TypedConfig.Workspace.Action

/-!
The sessions of a workspace do not notice each other, unless they are for one project object. Each
of them is where a session alone gets to with the requests that were put to it and with what it has
heard of its project object's other sessions, whatever is done to the rest and to the names
meanwhile.
-/
namespace TypedConfig.Workspace

variable {objects : Nat → Project} {workspace : Workspace} {place : Nat}

/-! ## Operations -/

section
variable {project : Project} {object : Nat}

theorem openProject_of_open (h : workspace.get? project.name = some place) :
    workspace.openProject project object = (place, workspace) := by
  simp only [openProject, h]

theorem openProject_of_closed (h : workspace.get? project.name = none) :
    workspace.openProject project object =
      (workspace.opened.length,
        { workspace with
          opened := workspace.opened ++ [⟨workspace.sessionFor project object, object⟩]
          live := workspace.live ++ [(project.name, workspace.opened.length)] }) := by
  simp only [openProject, h]

end

section
variable {α : Type}

theorem onSession_of_none (h : workspace.opened[place]? = none)
    (work : Session → α × Session) : workspace.onSession place work = (none, workspace) := by
  simp only [onSession, h]

theorem onSession_of_some {asked : Opened} (h : workspace.opened[place]? = some asked)
    (work : Session → α × Session) :
    workspace.onSession place work =
      (some (work asked.session).1,
        { workspace with
          opened :=
            (workspace.opened.map (.hear asked.object (work asked.session).2.history)).set place
              ⟨(work asked.session).2, asked.object⟩ }) := by
  simp only [onSession, h]

/-- Names and settings do not change with work in a session, nor does the number of sessions. -/
theorem onSession_leaves (workspace : Workspace) (place : Nat) (work : Session → α × Session) :
    ∃ opened, (workspace.onSession place work).2 = { workspace with opened } ∧
      opened.length = workspace.opened.length := by
  cases h : workspace.opened[place]? with
  | none =>
    rw [onSession_of_none h]
    exact ⟨workspace.opened, rfl, rfl⟩
  | some asked =>
    rw [onSession_of_some h]
    exact ⟨_, rfl, by rw [List.length_set, List.length_map]⟩

end

/-- A change of types resets one session and leaves the others alone. -/
theorem typesChanged_leaves (workspace : Workspace) (name : String) :
    ∃ opened, (workspace.typesChanged name).2 = { workspace with opened } ∧
      opened.length = workspace.opened.length ∧
      ∀ place, workspace.get? name ≠ some place →
        opened[place]? = workspace.opened[place]? := by
  cases h : workspace.get? name with
  | none =>
    simp only [typesChanged, h]
    exact ⟨workspace.opened, rfl, rfl, fun _ _ => rfl⟩
  | some place =>
    simp only [typesChanged, h]
    refine ⟨_, rfl, List.length_modify .., fun other apart => ?_⟩
    have apart : place ≠ other := fun same => apart (congrArg some same)
    exact List.getElem?_modify_ne _ _ apart

/-! ## Names -/

/-- What is open under a name changes with the actions on that name only. -/
theorem get?_perform (workspace : Workspace) (name : String) (action : Action) :
    (workspace.perform objects action).2.get? name =
      openAfter objects name (workspace.get? name)
        (action, (workspace.perform objects action).1) := by
  cases action with
  | openProject object =>
    cases h : workspace.get? (objects object).name with
    | some place =>
      simp only [perform, openProject_of_open h, openAfter]
      split
      · rename_i same
        rw [← same, h]
      · rfl
    | none =>
      simp only [perform, openProject_of_closed h, openAfter, get?, List.lookup_append]
      split
      · rename_i same
        subst same
        have absent : workspace.live.lookup (objects object).name = none := h
        simp [absent]
      · rename_i apart
        simp [List.lookup_cons, beq_eq_false_iff_ne.mpr (Ne.symm apart)]
  | get other => rfl
  | closeProject closed =>
    simp only [perform, closeProject, openAfter, get?, Entries.lookup_filter, eq_comm]
  | typesChanged changed =>
    obtain ⟨opened, after, _⟩ := workspace.typesChanged_leaves changed
    simp only [perform, openAfter, after]
    rfl
  | on other request =>
    obtain ⟨opened, after, _⟩ :=
      workspace.onSession_leaves other fun session => session.perform request
    simp only [perform, openAfter, after]
    rfl

theorem get?_run (workspace : Workspace) (name : String) (actions : List Action) :
    (workspace.run objects actions).2.get? name =
      (actions.zip (workspace.run objects actions).1).foldl (openAfter objects name)
        (workspace.get? name) := by
  induction actions generalizing workspace with
  | nil => rfl
  | cons action rest ih =>
    simp only [run, List.zip_cons_cons, List.foldl_cons, ← get?_perform]
    exact ih _

/-! ## Places -/

/-- What is open has a place. -/
def Placed (workspace : Workspace) : Prop :=
  ∀ name place, workspace.get? name = some place → place < workspace.opened.length

theorem placed_new (settings : Session.Settings) : (Workspace.new settings).Placed := by
  rintro name place ⟨⟩

/-- An action opens a project whose name was not open, or else there are as many sessions as
before. -/
theorem perform_cases (objects : Nat → Project) (workspace : Workspace) (action : Action) :
    (∃ object, action = .openProject object ∧ workspace.get? (objects object).name = none) ∨
      ∃ opened live, (workspace.perform objects action).2 = { workspace with opened, live } ∧
        opened.length = workspace.opened.length := by
  cases action with
  | openProject object =>
    cases known : workspace.get? (objects object).name with
    | none => exact .inl ⟨object, rfl, known⟩
    | some place =>
      simp only [perform, openProject_of_open known]
      exact .inr ⟨_, _, rfl, rfl⟩
  | get name => exact .inr ⟨_, _, rfl, rfl⟩
  | closeProject name => exact .inr ⟨_, _, rfl, rfl⟩
  | typesChanged name =>
    obtain ⟨opened, after, length, _⟩ := workspace.typesChanged_leaves name
    exact .inr ⟨opened, _, after, length⟩
  | on place request =>
    obtain ⟨opened, after, length⟩ :=
      workspace.onSession_leaves place fun session => session.perform request
    exact .inr ⟨opened, _, after, length⟩

/-- Sessions are never given up, and each action leaves the settings alone. -/
theorem perform_leaves (objects : Nat → Project) (workspace : Workspace) (action : Action) :
    (workspace.perform objects action).2.settings = workspace.settings ∧
      workspace.opened.length ≤ (workspace.perform objects action).2.opened.length := by
  rcases workspace.perform_cases objects action with ⟨object, rfl, closed⟩ | ⟨_, _, after, length⟩
  · simp only [perform, openProject_of_closed closed, List.length_append]
    exact ⟨trivial, Nat.le_add_right ..⟩
  · rw [after]
    exact ⟨rfl, Nat.le_of_eq length.symm⟩

theorem run_append (workspace : Workspace) (before later : List Action) :
    (workspace.run objects (before ++ later)).2 =
      ((workspace.run objects before).2.run objects later).2 := by
  induction before generalizing workspace with
  | nil => rfl
  | cons action rest ih => exact ih _

theorem run_leaves (objects : Nat → Project) (workspace : Workspace) (actions : List Action) :
    (workspace.run objects actions).2.settings = workspace.settings ∧
      workspace.opened.length ≤ (workspace.run objects actions).2.opened.length := by
  induction actions generalizing workspace with
  | nil => exact ⟨rfl, Nat.le_refl _⟩
  | cons action rest ih =>
    obtain ⟨settings, length⟩ := workspace.perform_leaves objects action
    obtain ⟨settings', length'⟩ := ih (workspace.perform objects action).2
    exact ⟨settings'.trans settings, Nat.le_trans length length'⟩

namespace Placed

/-- A place that is handed out has a session. -/
theorem answer (h : workspace.Placed) {action : Action}
    (handed : (workspace.perform objects action).1 = .place (some place)) :
    place < (workspace.perform objects action).2.opened.length := by
  cases action with
  | openProject object =>
    cases known : workspace.get? (objects object).name with
    | some place =>
      simp only [perform, openProject_of_open known] at handed ⊢
      cases handed
      exact h _ _ known
    | none =>
      simp only [perform, openProject_of_closed known] at handed ⊢
      cases handed
      simp
  | get name =>
    have known : workspace.get? name = some place := Answer.place.inj handed
    exact h name place known
  | closeProject name =>
    have known : workspace.get? name = some place := Answer.place.inj handed
    exact h name place known
  | typesChanged name => cases handed
  | on other request => cases handed

theorem perform (h : workspace.Placed) (action : Action) :
    (workspace.perform objects action).2.Placed := by
  intro name place found
  rw [get?_perform] at found
  have before (known : workspace.get? name = some place) :
      place < (workspace.perform objects action).2.opened.length :=
    Nat.lt_of_lt_of_le (h name place known) (workspace.perform_leaves objects action).2
  cases action with
  | openProject object =>
    simp only [openAfter, Workspace.perform] at found
    split at found
    · exact h.answer (congrArg Answer.place found)
    · exact before found
  | get other => exact before found
  | closeProject closed =>
    simp only [openAfter] at found
    split at found
    · cases found
    · exact before found
  | typesChanged changed => exact before found
  | on other request => exact before found

theorem run (h : workspace.Placed) (actions : List Action) :
    (workspace.run objects actions).2.Placed := by
  induction actions generalizing workspace with
  | nil => exact h
  | cons action rest ih => exact ih (h.perform action)

theorem answers (h : workspace.Placed) {actions : List Action}
    (handed : .place (some place) ∈ (workspace.run objects actions).1) :
    place < (workspace.run objects actions).2.opened.length := by
  induction actions generalizing workspace with
  | nil => cases handed
  | cons action rest ih =>
    rcases List.mem_cons.mp handed with first | later
    · exact Nat.lt_of_lt_of_le (h.answer first.symm)
        ((workspace.perform objects action).2.run_leaves objects rest).2
    · exact ih (h.perform action) later

end Placed

/-! ## One session among others -/

theorem receive_append (session : Session) (inputs more : List Input) :
    receive session (inputs ++ more) =
      ((receive session inputs).1 ++ (receive (receive session inputs).2 more).1,
        (receive (receive session inputs).2 more).2) := by
  induction inputs generalizing session with
  | nil => rfl
  | cons input rest ih => cases input <;> simp only [List.cons_append, receive, ih]

/-- A session that hears nothing is a session alone. -/
theorem receive_eq_run {inputs : List Input}
    (unheard : ∀ input ∈ inputs, ∃ request, input = .request request) (session : Session) :
    receive session inputs = session.run (inputs.filterMap Input.request?) := by
  induction inputs generalizing session with
  | nil => rfl
  | cons input rest ih =>
    obtain ⟨⟨request, rfl⟩, later⟩ := List.forall_mem_cons.mp unheard
    have first : (.request request :: rest).filterMap Input.request? =
        request :: rest.filterMap Input.request? := rfl
    simp only [first, receive, Session.run, ih later]

/-- A request to one session is nothing to another one, unless that is for the same project
object. -/
theorem perform_on_other {asked opened : Opened} {other : Nat} (apart : other ≠ place)
    (found : workspace.opened[other]? = some asked) (h : workspace.opened[place]? = some opened)
    (request : Session.Request) :
    (workspace.perform objects (.on other request)).2.opened[place]? =
      some (opened.hear asked.object (asked.session.perform request).2.history) := by
  simp only [perform, onSession_of_some found]
  rw [List.getElem?_set_ne apart, List.getElem?_map, h, Option.map_some]

/-- What an action does to a session is what the session alone does with the inputs that the action
brings to it. It stays with its project object. -/
theorem perform_session (objects : Nat → Project) {opened : Opened}
    (h : workspace.opened[place]? = some opened) (action : Action) :
    ∃ after, receive opened.session (workspace.inputsTo place action) =
        (workspace.answersFrom place action (workspace.perform objects action).1, after) ∧
      (workspace.perform objects action).2.opened[place]? = some ⟨after, opened.object⟩ := by
  have present : place < workspace.opened.length := (List.getElem?_eq_some_iff.mp h).1
  cases action with
  | openProject object =>
    refine ⟨opened.session, rfl, ?_⟩
    cases known : workspace.get? (objects object).name with
    | some other =>
      simp only [perform, openProject_of_open known]
      exact h
    | none =>
      simp only [perform, openProject_of_closed known]
      rw [List.getElem?_append_left present]
      exact h
  | get name => exact ⟨opened.session, rfl, h⟩
  | closeProject name => exact ⟨opened.session, rfl, h⟩
  | typesChanged name =>
    by_cases isOpen : workspace.get? name = some place
    · refine ⟨opened.session.reset, ?_, ?_⟩
      · simp only [inputsTo, answersFrom, isOpen, if_true]
        rfl
      · simp only [perform, typesChanged, isOpen]
        rw [List.getElem?_modify_eq, h]
        rfl
    · refine ⟨opened.session, ?_, ?_⟩
      · simp only [inputsTo, answersFrom, if_neg isOpen]
        rfl
      · obtain ⟨sessions, after, _, others⟩ := workspace.typesChanged_leaves name
        simp only [perform, after]
        exact (others place isOpen).trans h
  | on other request =>
    cases found : workspace.opened[other]? with
    | none =>
      refine ⟨opened.session, ?_, ?_⟩
      · simp only [inputsTo, found, perform, onSession_of_none found, answersFrom]
        rfl
      · simp only [perform, onSession_of_none found]
        exact h
    | some asked =>
      have answered : (workspace.perform objects (.on other request)).1 =
          .session (some (asked.session.perform request).1) := by
        simp only [perform, onSession_of_some found]
      by_cases same : other = place
      · subst same
        obtain rfl : asked = opened := Option.some.inj (found.symm.trans h)
        refine ⟨(asked.session.perform request).2, ?_, ?_⟩
        · simp only [inputsTo, found, if_true, answered, answersFrom]
          rfl
        · simp only [perform, onSession_of_some found]
          rw [List.getElem?_set_self (by rwa [List.length_map])]
      · rw [perform_on_other same found h, answered]
        by_cases shared : opened.object = asked.object
        · refine ⟨{ opened.session with history := (asked.session.perform request).2.history },
            ?_, ?_⟩
          · simp only [inputsTo, found, h, if_neg same, if_pos shared, answersFrom]
            rfl
          · rw [Opened.hear, if_pos shared]
        · refine ⟨opened.session, ?_, ?_⟩
          · simp only [inputsTo, found, h, if_neg same, if_neg shared, answersFrom]
            rfl
          · rw [Opened.hear, if_neg shared]

theorem run_session (objects : Nat → Project) {opened : Opened}
    (h : workspace.opened[place]? = some opened) (actions : List Action) :
    ∃ after, receive opened.session (workspace.allInputsTo objects place actions) =
        (workspace.allAnswersFrom objects place actions, after) ∧
      (workspace.run objects actions).2.opened[place]? = some ⟨after, opened.object⟩ := by
  induction actions generalizing workspace opened with
  | nil => exact ⟨opened.session, rfl, h⟩
  | cons action rest ih =>
    obtain ⟨between, answered, kept⟩ := perform_session objects h action
    obtain ⟨after, answered', kept'⟩ := ih kept
    refine ⟨after, ?_, kept'⟩
    simp only [allInputsTo, allAnswersFrom, receive_append, answered, answered']

/-! ## How a session comes about -/

/-- No action brings anything to a session that is not there yet, and none is answered by it. -/
theorem unaddressed (objects : Nat → Project) (h : workspace.Placed)
    (absent : workspace.opened.length ≤ place) (action : Action) :
    workspace.inputsTo place action = [] ∧
      workspace.answersFrom place action (workspace.perform objects action).1 = [] := by
  have nobody : workspace.opened[place]? = none := List.getElem?_eq_none absent
  cases action with
  | openProject object => exact ⟨rfl, rfl⟩
  | get name => exact ⟨rfl, rfl⟩
  | closeProject name => exact ⟨rfl, rfl⟩
  | typesChanged name =>
    have closed : workspace.get? name ≠ some place := fun found =>
      Nat.not_lt.mpr absent (h name place found)
    exact ⟨if_neg closed, if_neg closed⟩
  | on other request =>
    cases found : workspace.opened[other]? with
    | none =>
      simp only [inputsTo, found, perform, onSession_of_none found]
      exact ⟨trivial, rfl⟩
    | some asked =>
      have apart : other ≠ place := by
        rintro rfl
        cases nobody.symm.trans found
      simp only [inputsTo, found, nobody, perform, onSession_of_some found, answersFrom]
      exact ⟨trivial, if_neg apart⟩

/-- A session comes about only when a project is opened whose name is not open. -/
theorem perform_creates (absent : workspace.opened.length ≤ place) {action : Action}
    (present : place < (workspace.perform objects action).2.opened.length) :
    ∃ object, action = .openProject object ∧ workspace.get? (objects object).name = none ∧
      workspace.opened.length = place ∧
      (workspace.perform objects action).2.opened[place]? =
        some ⟨workspace.sessionFor (objects object) object, object⟩ := by
  rcases workspace.perform_cases objects action with ⟨object, rfl, closed⟩ | ⟨_, _, after, length⟩
  · simp only [perform, openProject_of_closed closed, List.length_append,
      List.length_singleton] at present ⊢
    have last : workspace.opened.length = place := by omega
    subst last
    exact ⟨object, rfl, closed, rfl, List.getElem?_concat_length⟩
  · rw [after] at present
    have kept : place < workspace.opened.length := length ▸ present
    exact absurd kept (Nat.not_lt.mpr absent)

/-- The session at a place is where a session alone gets to: one for the project object that was
opened there, with what the actions have brought to it and the answers that they had from it. -/
structure Alone (objects : Nat → Project) (workspace : Workspace) (actions : List Action)
    (place : Nat) (opened : Opened) (history : History) : Prop where
  /-- The project object was opened at the place, when nothing was open under its name. What was
  called on it before, the session knows. -/
  begun : ∃ before later, actions = before ++ .openProject opened.object :: later ∧
    let found := (workspace.run objects before).2
    found.get? (objects opened.object).name = none ∧ found.opened.length = place ∧
      found.historyOf opened.object = history
  ran : receive
      { Session.new (objects opened.object)
          (workspace.settingsFor (objects opened.object).name) with history }
      (workspace.allInputsTo objects place actions) =
    (workspace.allAnswersFrom objects place actions, opened.session)

/-- By induction on the actions: those before the session came about bring nothing to it. -/
theorem exists_alone (h : workspace.Placed) (absent : workspace.opened.length ≤ place)
    {actions : List Action} {opened : Opened}
    (present : (workspace.run objects actions).2.opened[place]? = some opened) :
    ∃ history, workspace.Alone objects actions place opened history := by
  induction actions generalizing workspace with
  | nil =>
    rw [run, List.getElem?_eq_none absent] at present
    cases present
  | cons action rest ih =>
    obtain ⟨unasked, unanswered⟩ := unaddressed objects h absent action
    by_cases created : place < (workspace.perform objects action).2.opened.length
    · obtain ⟨object, rfl, closed, last, fresh⟩ := perform_creates absent created
      obtain ⟨after, ran, kept⟩ := run_session objects fresh rest
      obtain rfl : ⟨after, object⟩ = opened := Option.some.inj (kept.symm.trans present)
      refine ⟨workspace.historyOf object, ⟨⟨[], rest, rfl, closed, last, rfl⟩, ?_⟩⟩
      simp only [allInputsTo, allAnswersFrom, unasked, unanswered, List.nil_append]
      exact ran
    · obtain ⟨history, ⟨before, later, split, closed, last, known⟩, ran⟩ :=
        ih (h.perform action) (Nat.not_lt.mp created) present
      have settings (name : String) : (workspace.perform objects action).2.settingsFor name =
          workspace.settingsFor name := by
        simp only [settingsFor, (workspace.perform_leaves objects action).1]
      refine ⟨history, ⟨⟨action :: before, later, ?_, closed, last, known⟩, ?_⟩⟩
      · rw [split, List.cons_append]
      · simp only [allInputsTo, allAnswersFrom, unasked, unanswered, List.nil_append]
        rw [← settings]
        exact ran

/-! ## Project objects -/

/-- The sessions of a project object know the same calls. -/
def Agreed (workspace : Workspace) : Prop :=
  ∃ calls : Nat → History, ∀ opened ∈ workspace.opened,
    opened.session.history = calls opened.object

namespace Agreed

theorem historyOf (h : workspace.Agreed) :
    ∀ opened ∈ workspace.opened, opened.session.history = workspace.historyOf opened.object := by
  obtain ⟨calls, agreed⟩ := h
  intro opened member
  rw [Workspace.historyOf]
  cases found : workspace.opened.find? fun first => first.object = opened.object with
  | none => simpa using List.find?_eq_none.mp found opened member
  | some first =>
    have same : first.object = opened.object := by simpa using List.find?_some found
    rw [agreed opened member, ← same]
    exact (agreed first (List.mem_of_find?_eq_some found)).symm

theorem perform (h : workspace.Agreed) (action : Action) :
    (workspace.perform objects action).2.Agreed := by
  cases action with
  | openProject object =>
    cases known : workspace.get? (objects object).name with
    | some place =>
      simp only [Workspace.perform, openProject_of_open known]
      exact h
    | none =>
      simp only [Workspace.perform, openProject_of_closed known]
      refine ⟨workspace.historyOf, fun opened member => ?_⟩
      rcases List.mem_append.mp member with before | new
      · exact h.historyOf opened before
      · rw [List.mem_singleton.mp new]
        rfl
  | get name => exact h
  | closeProject name => exact h
  | typesChanged name =>
    cases known : workspace.get? name with
    | none =>
      simp only [Workspace.perform, Workspace.typesChanged, known]
      exact h
    | some place =>
      simp only [Workspace.perform, Workspace.typesChanged, known]
      obtain ⟨calls, agreed⟩ := h
      refine ⟨calls, fun opened member => ?_⟩
      obtain ⟨other, found⟩ := List.mem_iff_getElem?.mp member
      rw [List.getElem?_modify] at found
      obtain ⟨before, kept, rfl⟩ := Option.map_eq_some_iff.mp found
      have agreed := agreed before (List.mem_of_getElem? kept)
      split <;> exact agreed
  | on place request =>
    cases found : workspace.opened[place]? with
    | none =>
      simp only [Workspace.perform, onSession_of_none found]
      exact h
    | some asked =>
      simp only [Workspace.perform, onSession_of_some found]
      obtain ⟨calls, agreed⟩ := h
      refine ⟨fun object => if object = asked.object then
        (asked.session.perform request).2.history else calls object, fun opened member => ?_⟩
      rcases List.mem_or_eq_of_mem_set member with heard | rfl
      · obtain ⟨before, kept, rfl⟩ := List.mem_map.mp heard
        rw [Opened.hear]
        split
        case isTrue same => exact (if_pos same).symm
        case isFalse apart => exact (agreed before kept).trans (if_neg apart).symm
      · exact (if_pos rfl).symm

theorem run (h : workspace.Agreed) (actions : List Action) :
    (workspace.run objects actions).2.Agreed := by
  induction actions generalizing workspace with
  | nil => exact h
  | cons action rest ih => exact ih (h.perform action)

end Agreed

theorem Unshared.of_run {actions : List Action}
    (h : (workspace.run objects actions).2.Unshared place) : workspace.Unshared place := by
  intro other asked opened found present same
  obtain ⟨_, _, found'⟩ := run_session objects found actions
  obtain ⟨_, _, present'⟩ := run_session objects present actions
  exact h other _ _ found' present' same

/-- Nothing is heard of a project object by its only session. -/
theorem Unshared.inputsTo (h : workspace.Unshared place) (action : Action) :
    ∀ input ∈ workspace.inputsTo place action, ∃ request, input = .request request := by
  intro input member
  cases action with
  | openProject | get | closeProject => cases member
  | typesChanged name =>
    simp only [Workspace.inputsTo] at member
    split at member
    · exact ⟨_, List.mem_singleton.mp member⟩
    · cases member
  | on other request =>
    simp only [Workspace.inputsTo] at member
    split at member
    · rename_i asked opened found present
      split at member
      · exact ⟨_, List.mem_singleton.mp member⟩
      · rename_i apart
        split at member
        · rename_i shared
          exact absurd (h other asked opened found present shared.symm) apart
        · cases member
    · cases member

theorem Unshared.allInputsTo {actions : List Action}
    (h : (workspace.run objects actions).2.Unshared place) :
    ∀ input ∈ workspace.allInputsTo objects place actions,
      ∃ request, input = .request request := by
  induction actions generalizing workspace with
  | nil => rintro input ⟨⟩
  | cons action rest ih =>
    exact List.forall_mem_append.mpr ⟨Unshared.inputsTo (Unshared.of_run h) action, ih h⟩

/-- A project object without a session has not been called. -/
theorem historyOf_of_absent {object : Nat}
    (absent : ∀ opened ∈ workspace.opened, opened.object ≠ object) :
    workspace.historyOf object = [] := by
  have nobody : workspace.opened.find? (fun opened => opened.object = object) = none := by
    simpa using absent
  rw [historyOf, nobody]

/-- The only session of a project object is where a session alone gets to with the requests. -/
theorem Alone.run {actions : List Action} {opened : Opened} {history : History}
    (h : workspace.Alone objects actions place opened history)
    (present : (workspace.run objects actions).2.opened[place]? = some opened)
    (unshared : (workspace.run objects actions).2.Unshared place) :
    (Session.new (objects opened.object)
        (workspace.settingsFor (objects opened.object).name)).run
        (workspace.allRequestsTo objects place actions) =
      (workspace.allAnswersFrom objects place actions, opened.session) := by
  obtain ⟨⟨before, later, split, _, length, known⟩, ran⟩ := h
  obtain rfl : history = [] := by
    rw [← known]
    refine historyOf_of_absent fun earlier member same => ?_
    obtain ⟨other, inside, found⟩ := List.mem_iff_getElem.mp member
    have found : (workspace.run objects before).2.opened[other]? = some earlier :=
      List.getElem?_eq_some_iff.mpr ⟨inside, found⟩
    obtain ⟨_, _, kept⟩ := run_session objects found (.openProject opened.object :: later)
    rw [← run_append, ← split] at kept
    have here : other = place := unshared other _ _ kept present same
    exact absurd (here ▸ inside) (Nat.not_lt.mpr (Nat.le_of_eq length))
  rw [receive_eq_run (Unshared.allInputsTo unshared)] at ran
  exact ran

/-- **Projects are isolated**, whatever is done in a workspace. Open under a name is what was opened
there last, unless it was closed since. Opening a project answers with the session that is open
under its name; if there is none, with a session that was never handed out, for that project. And
each session is where a session alone gets to, for the project object that was opened at its place,
with the requests that were put to it and with word of what other sessions of this object have
called: they all know the same calls. If there are none, it is where a session alone gets to with
just the requests. -/
theorem projects_isolated (objects : Nat → Project) (settings : Session.Settings)
    (actions : List Action) :
    let workspace := Workspace.new settings
    let (answers, after) := workspace.run objects actions
    (∀ name, after.get? name = (actions.zip answers).foldl (openAfter objects name) none) ∧
      (∀ object, match after.get? (objects object).name with
        | some place => after.openProject (objects object) object = (place, after) ∧
            place < after.opened.length
        | none =>
          let (place, opened) := after.openProject (objects object) object
          .place (some place) ∉ answers ∧ opened.opened[place]? =
            some ⟨{ Session.new (objects object)
                (workspace.settingsFor (objects object).name) with
              history := after.historyOf object }, object⟩) ∧
      ∀ place opened, after.opened[place]? = some opened →
        (∃ history, workspace.Alone objects actions place opened history) ∧
          opened.session.history = after.historyOf opened.object ∧
          (after.Unshared place →
            (Session.new (objects opened.object)
                (workspace.settingsFor (objects opened.object).name)).run
                (workspace.allRequestsTo objects place actions) =
              (workspace.allAnswersFrom objects place actions, opened.session)) := by
  have placed := placed_new settings
  have agreed : (Workspace.new settings).Agreed := ⟨fun _ => [], by rintro opened ⟨⟩⟩
  refine ⟨fun name => get?_run _ name actions, fun object => ?_, fun place opened present => ?_⟩
  · split
    case h_1 place known =>
      exact ⟨openProject_of_open known, placed.run actions _ place known⟩
    case h_2 known =>
      rw [openProject_of_closed known]
      refine ⟨fun handed => Nat.lt_irrefl _ (placed.answers handed), ?_⟩
      have kept := ((Workspace.new settings).run_leaves objects actions).1
      simp only [sessionFor, settingsFor, kept, List.getElem?_concat_length]
  · obtain ⟨history, alone⟩ := exists_alone placed (Nat.zero_le place) present
    have known := (agreed.run actions).historyOf opened (List.mem_of_getElem? present)
    exact ⟨⟨history, alone⟩, known, alone.run present⟩

/-- A provider numbers the contexts that it has built for a project object. The object is closed
and opened again: its second session gets the second context, and alone it gets the first. -/
theorem reopened_project_counts_on :
    let context (number : Nat) : Context :=
      { provider := "ctx-" ++ toString number
        supports := fun _ _ => .ok true
        convert := fun _ _ _ => .ok .accepted }
    let provider : Provider :=
      { name := "numbered", serial := 1
        build := fun history => .ok (context (history.count (.build "numbered" 1))) }
    let project : Project :=
      { name := "app"
        hasType := fun _ _ => .ok true
        load := fun _ _ => .ok (some provider)
        scan := fun _ _ => .ok [] }
    let objects : Nat → Project := fun _ => project
    let workspace := Workspace.new {}
    let actions : List Action := [.openProject 0, .on 0 .providerName, .closeProject "app",
      .openProject 0, .on 1 .providerName]
    workspace.allAnswersFrom objects 1 actions = [.provider (some "ctx-1")] ∧
      ((Session.new project (workspace.settingsFor "app")).run
        (workspace.allRequestsTo objects 1 actions)).1 = [.provider (some "ctx-0")] :=
  ⟨rfl, rfl⟩

end TypedConfig.Workspace
