import TypedConfig.Proofs.Judging

namespace TypedConfig

/-! ## Checking without a history -/

namespace Validator

variable {overflow : Overflow} {check : String → Nat → Asking Report}

/-- If the report of each element is settled, so is the report of the list. -/
theorem checkEach_settled
    (each : ∀ element start, ∃ report, Asking.Ensures (check element start) (· = report))
    (elements : List String) (start : Nat) :
    ∃ report, Asking.Ensures (checkEach overflow check elements start) (· = report) := by
  induction elements generalizing start with
  | nil => exact ⟨.clean, .pure rfl⟩
  | cons element rest ih =>
    obtain ⟨first, settled⟩ := each element start
    cases outcome : first.outcome with
    | error fault =>
      refine ⟨first, settled.bind fun report same => ?_⟩
      subst same
      rw [outcome]
      exact .pure rfl
    | ok =>
      cases advanced : overflow.advance start (element.length + 1) with
      | error crash =>
        refine ⟨first.after (.faulty (.crashed crash)), settled.bind fun report same => ?_⟩
        subst same
        simp only [outcome, advanced]
        exact .pure rfl
      | ok next =>
        obtain ⟨others, settled'⟩ := ih next
        refine ⟨first.after others, settled.bind fun report same => ?_⟩
        subst same
        simp only [outcome, advanced]
        refine settled'.bind fun report same => ?_
        subst same
        exact .pure rfl

end Validator

namespace Standard

/-- What is reported of a value does not depend on what was asked before. -/
theorem Serves.check_settled {v : Validator} (h : Serves v) (marking : Marking) (value : String)
    (start : Nat) : ∃ report, Asking.Ensures (v.check marking value start) (· = report) := by
  induction v generalizing value start with
  | scalar type leaf =>
    cases leaf with
    | none => exact ⟨.clean, .pure rfl⟩
    | some c =>
      obtain ⟨rfl, -⟩ := h c rfl
      have converted : Asking.Ensures (context.askConvert value type)
          (· = convert value type) := fun _ => rfl
      refine ⟨.ofConversion marking value start (convert value type), ?_⟩
      refine converted.bind fun conversion same => ?_
      subst same
      exact .pure rfl
  | collection delegate ih => exact Validator.checkEach_settled (ih h) _ start
  | optional delegate ih => exact ih h value start

end Standard

/-- What becomes of a value does not depend on what was asked before. -/
theorem InMemory.evaluate_settled (project : InMemory) (marking : Marking)
    (value signature : String) (start : Nat) :
    ∃ answer, ∀ history,
      Standard.context.evaluate project.toProject marking value signature start history =
        answer := by
  cases parsed : Signature.parse signature with
  | error e =>
    refine ⟨(.error (.malformed e), []), ?_⟩
    intro history
    exact Session.evaluate_of_error (resolveSignature_of_error parsed)
  | ok d =>
    have resolved := project.resolveSignature_standard parsed
    cases outcome : Resolution.outcome project.types.contains d.required
        (d.validator Standard.bound) with
    | error failure =>
      refine ⟨(.error (.ofResolution failure), []), ?_⟩
      intro history
      have failed := resolved history
      rw [outcome] at failed
      exact Session.evaluate_of_error (Prod.ext failed rfl)
    | ok v =>
      obtain ⟨-, rfl⟩ := Resolution.outcome_eq_ok.mp outcome
      obtain ⟨report, settled⟩ := (Standard.serves_validator d).check_settled marking value start
      refine ⟨report.answer, ?_⟩
      intro history
      have built := resolved history
      rw [outcome] at built
      rw [Session.evaluate_of_ok (Prod.ext built rfl), settled]

namespace Repl

/-! ## Two sessions of one configuration -/

namespace Config.Reaches

variable {config : Config} {a b : Session}

theorem evaluate_eq (ha : config.Reaches a) (hb : config.Reaches b) (value signature : String)
    (start : Nat) : a.evaluate value signature start = b.evaluate value signature start := by
  have ⟨knownA, soughtA⟩ := ha.knows.capability
  have ⟨knownB, soughtB⟩ := hb.knows.capability
  unfold Session.evaluate
  rcases askedA : a.capability with ⟨foundA, afterA⟩
  rcases askedB : b.capability with ⟨foundB, afterB⟩
  simp only [askedA] at knownA soughtA
  simp only [askedB] at knownB soughtB
  subst knownA knownB
  cases found : config.capability with
  | none => rfl
  | some context =>
    obtain rfl := InMemory.capability_eq_some found
    obtain ⟨answer, settled⟩ :=
      config.inMemory.evaluate_settled config.settings.marking value signature start
    simp only [soughtA.project, soughtA.settings, soughtB.project, soughtB.settings, settled]

/-- The answer to a check is the same in both, whatever either has kept. -/
theorem check_eq (ha : config.Reaches a) (hb : config.Reaches b) (value signature : String)
    (start : Nat) (collected : List Diagnostic) :
    (a.check value signature start collected).1 = (b.check value signature start collected).1 := by
  rw [ha.coherent.check_eq_evaluate, hb.coherent.check_eq_evaluate, ha.evaluate_eq hb]

theorem available_eq (ha : config.Reaches a) : a.available.1 = config.capability.isSome :=
  congrArg Option.isSome ha.knows.capability.1

end Config.Reaches

/-! ## Replies -/

/-- The reply to a value, from what its check has come to. -/
def Reply.ofCheck (available : Bool) : Except CheckError Unit × List Diagnostic → Reply
  | (.error error, _) => .failed error
  | (.ok (), []) => if available then .accepted else .unchecked
  | (.ok (), d :: ds) => .rejected (d :: ds)

namespace State

variable {config : Config}

theorem check_reply {state : State} (reaches : config.Reaches state.session) {signature : String}
    (selected : state.signature = some signature) (value : String) :
    (state.check value).1 =
      .ofCheck config.capability.isSome (state.session.check value signature 0 []).1 := by
  have checking := state.checking value
  generalize (state.check value).1 = reply, (state.check value).2 = after at checking ⊢
  cases checking with
  | unselected nothing =>
    rw [nothing] at selected
    cases selected
  | failed selected' checked | rejected selected' checked =>
    obtain rfl := Option.some.inj (selected.symm.trans selected')
    rw [checked]
    rfl
  | clean selected' checked =>
    obtain rfl := Option.some.inj (selected.symm.trans selected')
    have left := reaches.run [.check value signature 0]
    have available := left.available_eq
    simp only [Session.run, Session.perform, checked] at available
    rw [checked, available]
    rfl

/-- Two checkers of one configuration that have the same signature reply alike to a value. -/
theorem check_congr {a b : State} (ha : config.Reaches a.session) (hb : config.Reaches b.session)
    (same : a.signature = b.signature) (value : String) :
    (a.check value).1 = (b.check value).1 := by
  cases selected : a.signature with
  | none => simp only [check, selected, ← same]
  | some signature =>
    have selected' : b.signature = some signature := same.symm.trans selected
    rw [check_reply ha selected, check_reply hb selected', ha.check_eq hb]

/-- **Replies do not depend on what came before.** Whatever lines were given to two checkers of one
configuration, if the same signature is selected in both at the end, or none in either, then a line
with a value gets the same reply from both. -/
theorem same_reply_whatever_before (config : Config) (lines lines' : List String)
    (same : ((State.start config).answerAll lines).2.signature =
      ((State.start config).answerAll lines').2.signature)
    (line : String) (value : IsValue line) :
    ∃ reply, (((State.start config).answerAll lines).2.answer line).1 = some reply ∧
      (((State.start config).answerAll lines').2.answer line).1 = some reply := by
  have start : config.Reaches (State.start config).session := ⟨[], rfl⟩
  have reaches := reaches_answerAll start lines
  have reaches' := reaches_answerAll start lines'
  generalize ((State.start config).answerAll lines).2 = a at same reaches ⊢
  generalize ((State.start config).answerAll lines').2 = b at same reaches' ⊢
  let text := String.ofList (Command.dropLineEnd line.toList)
  refine ⟨(a.check text).1, ?_, ?_⟩
  · rw [answer, Command.ofLine_of_isValue value]
    rfl
  · rw [answer, Command.ofLine_of_isValue value, check_congr reaches reaches' same]
    rfl

/-- One checker has just been started with its signature. The other has refused a signature, has
been on another one, was reset and has selected the first again. -/
theorem startup_list_replies_alike :
    let config : Config := { signature := some "java.util.List<int>" }
    let lines := ["/type java.util.Set<int", "/t double", "1.5", "/reset",
      "/type  java.util.List<int> ", "3,x", "/status"]
    ((State.start config).answerAll []).2.signature =
        ((State.start config).answerAll lines).2.signature ∧
      IsValue " 1,x" ∧
      ∃ reply, (((State.start config).answerAll []).2.answer " 1,x").1 = some reply ∧
        (((State.start config).answerAll lines).2.answer " 1,x").1 = some reply := by
  intro config lines
  have same : ((State.start config).answerAll []).2.signature =
      ((State.start config).answerAll lines).2.signature := by decide +kernel
  have value : IsValue " 1,x" := ⟨'1', [',', 'x'], by decide +kernel, by decide⟩
  exact ⟨same, value, same_reply_whatever_before config [] lines same " 1,x" value⟩

end State

end Repl

end TypedConfig
