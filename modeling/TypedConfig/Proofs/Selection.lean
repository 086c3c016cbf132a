import TypedConfig.Proofs.Reliability
import TypedConfig.Repl.Basic

/-!
What the interactive checker selects. Each line puts some requests to one session, and a signature
becomes the selected one only when that session has answered for it. With a capability it has then
been read and resolved, and it resolves at all times, whatever is forgotten meanwhile.
-/
namespace TypedConfig

/-! ## Configurations -/

theorem InMemory.addTypes_registry (project : InMemory) (types : List String) :
    (project.addTypes types).registry = project.registry := by
  induction types generalizing project with
  | nil => rfl
  | cons type rest ih =>
    have added : (project.addType type).registry = project.registry := by
      unfold addType
      split <;> rfl
    exact (ih _).trans added

namespace Repl

namespace Config

/-- Nobody converts but the standard converters, if they are there. -/
theorem offers (config : Config) : config.inMemory.Offers Standard.provider := by
  have bare := (InMemory.base config.project).addTypes_registry config.extraTypes
  unfold inMemory
  split
  · exact InMemory.offers_addStandard bare
  · exact InMemory.offers_of_bare bare _

/-- The capability that is found with the configuration. -/
def capability (config : Config) : Option Context := config.inMemory.capability config.settings.plan

theorem search_eq (config : Config) :
    Asking.Ensures (config.settings.plan.search config.inMemory.toProject)
      (· = config.capability) :=
  InMemory.search_standard config.offers config.settings.plan

/-- The signature resolves, unless nobody converts and it need not. -/
def Usable (config : Config) (signature : String) : Prop :=
  config.inMemory.Resolves signature ∨ config.capability = none

/-- The session is one that requests have led to from the start. -/
def Reaches (config : Config) (session : Session) : Prop :=
  ∃ requests, session = ((State.start config).session.run requests).2

end Config

/-! ## The session -/

namespace Config.Reaches

variable {config : Config} {session : Session} {signature : String}

theorem run (h : config.Reaches session) (requests : List Session.Request) :
    config.Reaches (session.run requests).2 := by
  obtain ⟨before, rfl⟩ := h
  refine ⟨before ++ requests, ?_⟩
  rw [Session.run_append]

theorem coherent (h : config.Reaches session) : session.Coherent := by
  obtain ⟨requests, rfl⟩ := h
  exact (Session.coherent_new config.offers.steady config.settings).run requests

theorem knows (h : config.Reaches session) :
    session.Knows config.inMemory.toProject config.settings config.capability := by
  obtain ⟨requests, rfl⟩ := h
  exact (Session.Knows.new config.search_eq).run requests

/-- A signature that the session has answered for is usable. -/
theorem usable_of_validator (h : config.Reaches session) {answer : Option Instance}
    (answered : (session.validator signature).1 = .ok answer) : config.Usable signature := by
  have resolves {context : Context} {history : History} {v : Validator}
      (found : config.capability = some context)
      (resolved : (resolveSignature config.inMemory.toProject context signature history).1 =
        .ok v) : config.Usable signature := by
    obtain rfl := InMemory.capability_eq_some found
    exact .inl (InMemory.resolves_of_resolveSignature resolved)
  obtain ⟨known, sought⟩ := h.knows.capability
  rcases asked : session.validator signature with ⟨result, after⟩
  rw [asked] at answered
  cases Session.answered_of_validator asked with
  | hit hit =>
    obtain ⟨context, found, now⟩ := h.coherent.kept _ (Cache.mem_of_get? hit)
    have resolved := now signature rfl
    rw [h.knows.project] at resolved
    exact resolves (h.knows.found_eq found) resolved
  | unavailable absent missing =>
    rw [missing] at known
    exact .inr known.symm
  | failed => cases answered
  | built absent found resolved =>
    rw [found] at known sought
    have resolved := congrArg Prod.fst resolved
    rw [sought.project] at resolved
    exact resolves known.symm resolved

/-- Checking a value against a usable signature never fails. -/
theorem check_ok (h : config.Reaches session) (usable : config.Usable signature) (value : String)
    (start : Nat) (collected : List Diagnostic) :
    (session.check value signature start collected).1.1 = .ok () := by
  rw [h.coherent.check_eq_evaluate]
  obtain ⟨known, sought⟩ := h.knows.capability
  rcases asked : session.capability with ⟨_ | context, after⟩
  · simp only [Session.evaluate, asked]
  · simp only [asked] at known sought
    simp only [Session.evaluate, asked]
    obtain rfl := InMemory.capability_eq_some known.symm
    have resolves : config.inMemory.Resolves signature := by
      rcases usable with resolves | nobody
      · exact resolves
      · rw [nobody] at known
        cases known
    rw [sought.project, sought.settings]
    exact resolves.evaluate_ok (by rintro ⟨⟩) _

end Config.Reaches

/-! ## Lines -/

namespace State

variable {config : Config} {state : State}

/-- All that selecting a signature can come to. -/
inductive Selecting (state : State) (signature : String) : State → Prop where
  | nothing : Selecting state signature state
  | selected {answer : Option Instance} {after : Session}
      (answered : state.session.validator signature = (.ok answer, after)) :
      Selecting state signature { state with session := after, signature := some signature }
  | refused {error : CheckError} {after : Session}
      (answered : state.session.validator signature = (.error error, after)) :
      Selecting state signature { state with session := after }

theorem selecting (state : State) (signature : String) :
    state.Selecting signature (state.select signature).2 := by
  unfold select
  split
  · split <;> exact .nothing
  · rcases answered : state.session.validator signature with ⟨error | _ | kept, after⟩
    · cases error <;> exact .refused answered
    · exact .selected answered
    · exact .selected answered

/-- All that checking a value can come to. -/
inductive Checking (state : State) (value : String) : Reply → State → Prop where
  | unselected (nothing : state.signature = none) : Checking state value .selectFirst state
  | failed {signature : String} {error : CheckError} {ds : List Diagnostic} {after : Session}
      (selected : state.signature = some signature)
      (checked : state.session.check value signature 0 [] = ((.error error, ds), after)) :
      Checking state value (.failed error) { state with session := after }
  | clean {signature : String} {after : Session} (selected : state.signature = some signature)
      (checked : state.session.check value signature 0 [] = ((.ok (), []), after)) :
      Checking state value (if after.available.1 then .accepted else .unchecked)
        { state with session := after.available.2 }
  | rejected {signature : String} {d : Diagnostic} {ds : List Diagnostic} {after : Session}
      (selected : state.signature = some signature)
      (checked : state.session.check value signature 0 [] = ((.ok (), d :: ds), after)) :
      Checking state value (.rejected (d :: ds)) { state with session := after }

theorem checking (state : State) (value : String) :
    state.Checking value (state.check value).1 (state.check value).2 := by
  obtain ⟨session, _ | signature, quit⟩ := state
  · exact .unselected rfl
  · rcases checked : session.check value signature 0 [] with ⟨⟨error | _, _ | ⟨d, ds⟩⟩, after⟩
    · simp only [check, checked]
      exact .failed rfl checked
    · simp only [check, checked]
      exact .failed rfl checked
    · simp only [check, checked]
      exact .clean rfl checked
    · simp only [check, checked]
      exact .rejected rfl checked

/-! ## Reachability -/

/-- Whatever a line does, it does by requests to the session. -/
theorem reaches_select (h : config.Reaches state.session) (signature : String) :
    config.Reaches (state.select signature).2.session := by
  have reaches : config.Reaches (state.session.validator signature).2 :=
    h.run [.validator signature]
  have selecting := state.selecting signature
  generalize (state.select signature).2 = selected at selecting ⊢
  cases selecting with
  | nothing => exact h
  | selected answered | refused answered => rwa [answered] at reaches

theorem reaches_check (h : config.Reaches state.session) (value : String) :
    config.Reaches (state.check value).2.session := by
  have checking := state.checking value
  generalize (state.check value).1 = reply, (state.check value).2 = after at checking ⊢
  have reaches (signature : String) :
      config.Reaches (state.session.check value signature 0 []).2 :=
    h.run [.check value signature 0]
  cases checking with
  | unselected => exact h
  | @failed signature _ _ _ selected checked | @rejected signature _ _ _ selected checked =>
    have reaches := reaches signature
    rwa [checked] at reaches
  | @clean signature _ selected checked =>
    have reaches := reaches signature
    rw [checked] at reaches
    exact reaches.run [.available]

theorem reaches_answer (h : config.Reaches state.session) (line : String) :
    config.Reaches (state.answer line).2.session := by
  unfold State.answer
  cases Command.ofLine line with
  | quit | help | parse | unknown | nothing => exact h
  | select signature => exact reaches_select h signature
  | status => exact h.run [.providerName]
  | reset => exact h.run [.reset]
  | value text => exact reaches_check h text

theorem reaches_answerAll (h : config.Reaches state.session) (lines : List String) :
    config.Reaches (state.answerAll lines).2.session := by
  induction lines generalizing state with
  | nil => exact h
  | cons line rest ih => exact ih (reaches_answer h line)

theorem check_signature (state : State) (value : String) :
    (state.check value).2.signature = state.signature := by
  have checking := state.checking value
  generalize (state.check value).1 = reply, (state.check value).2 = after at checking ⊢
  cases checking <;> rfl

/-! ## What is selected -/

/-- The session is one that requests have led to, and the signature that is selected is usable. -/
structure Sound (config : Config) (state : State) : Prop where
  reaches : config.Reaches state.session
  usable : ∀ signature, state.signature = some signature → config.Usable signature

namespace Sound

theorem start (fit : ∀ signature, config.signature = some signature → config.Usable signature) :
    Sound config (.start config) := ⟨⟨[], rfl⟩, fit⟩

theorem select (h : state.Sound config) (signature : String) :
    (state.select signature).2.Sound config := by
  refine ⟨reaches_select h.reaches signature, ?_⟩
  have selecting := state.selecting signature
  generalize (state.select signature).2 = selected at selecting ⊢
  intro current chosen
  cases selecting with
  | nothing => exact h.usable current chosen
  | selected answered =>
    cases chosen
    exact h.reaches.usable_of_validator (congrArg Prod.fst answered)
  | refused answered => exact h.usable current chosen

theorem check (h : state.Sound config) (value : String) :
    (state.check value).2.Sound config := by
  refine ⟨reaches_check h.reaches value, ?_⟩
  rw [check_signature]
  exact h.usable

/-- Every line leaves the checker sound. -/
theorem answer (h : state.Sound config) (line : String) : (state.answer line).2.Sound config := by
  unfold State.answer
  cases Command.ofLine line with
  | quit => exact ⟨h.reaches, h.usable⟩
  | help | parse | unknown | nothing => exact h
  | select signature => exact h.select signature
  | status => exact ⟨h.reaches.run [.providerName], h.usable⟩
  | reset => exact ⟨h.reaches.run [.reset], h.usable⟩
  | value text => exact h.check text

theorem answerAll (h : state.Sound config) (lines : List String) :
    (state.answerAll lines).2.Sound config := by
  induction lines generalizing state with
  | nil => exact h
  | cons line rest ih => exact ih (h.answer line)

end Sound

/-- **What is selected resolves.** Whatever lines are given to a checker that starts without a
signature: a signature that is selected can be read and has a validator in the project, unless no
capability is found with the configuration, whatever was asked before. -/
theorem selected_signature_resolves (config : Config) (unset : config.signature = none)
    (lines : List String) (signature : String)
    (selected : ((State.start config).answerAll lines).2.signature = some signature) :
    (∃ d, Signature.parse signature = .ok d ∧ config.inMemory.HasValidator d) ∨
      ∀ history, (config.settings.plan.search config.inMemory.toProject history).1 = none := by
  have fit : ∀ s, config.signature = some s → config.Usable s := by
    intro s startup
    rw [unset] at startup
    cases startup
  have sound := (Sound.start fit).answerAll lines
  rcases sound.usable signature selected with resolves | nobody
  · exact .inl resolves
  · right
    intro history
    rw [config.search_eq history, nobody]

/-- The signature stays selected when its validator is forgotten and another signature fails. -/
theorem selected_list_resolves :
    let config : Config := {}
    let lines := ["/type java.util.List<int>", "/reset", "/type java.util.List<int"]
    config.signature = none ∧
      ((State.start config).answerAll lines).2.signature = some "java.util.List<int>" ∧
      ∃ d, Signature.parse "java.util.List<int>" = .ok d ∧ config.inMemory.HasValidator d := by
  refine ⟨rfl, by decide +kernel, ?_⟩
  have resolves := selected_signature_resolves {} rfl
    ["/type java.util.List<int>", "/reset", "/type java.util.List<int"] "java.util.List<int>"
    (by decide +kernel)
  exact resolves.resolve_right fun nobody => by cases nobody []

/-- Without the standard converters a signature is selected unread, even one that is cut off. -/
theorem unreadable_signature_selected :
    let config : Config := { builtinProvider := false }
    config.signature = none ∧
      ((State.start config).answerAll ["/type java.util.List<int"]).2.signature =
        some "java.util.List<int" ∧
      ∀ d, Signature.parse "java.util.List<int" ≠ .ok d := by
  refine ⟨rfl, by decide +kernel, ?_⟩
  have refused : (Signature.parse "java.util.List<int").isOk = false := by decide +kernel
  intro d parsed
  rw [parsed] at refused
  cases refused

end State

end Repl

end TypedConfig
