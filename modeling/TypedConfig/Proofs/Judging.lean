import TypedConfig.Proofs.Selection

namespace TypedConfig.Repl

/-! ## Lines with a value -/

/-- A line is a value if anything is on it that is not blank and does not begin with a slash. -/
def IsValue (line : String) : Prop :=
  ∃ c rest, Text.dropBlanks line.toList = c :: rest ∧ c ≠ '/'

theorem Command.ofLine_of_isValue {line : String} (h : IsValue line) :
    ofLine line = .value (String.ofList (dropLineEnd line.toList)) := by
  obtain ⟨c, rest, visible, slash⟩ := h
  simp only [ofLine, visible]
  split
  · rename_i empty
    cases empty
  · rename_i command
    cases command
    exact absurd rfl slash
  · rfl

/-! ## Replies -/

namespace Reply

/-- What may be said about a value. Diagnostics are listed if there are any. -/
inductive IsVerdict : Reply → Prop where
  | selectFirst : IsVerdict .selectFirst
  | accepted : IsVerdict .accepted
  | unchecked : IsVerdict .unchecked
  | rejected (d : Diagnostic) (ds : List Diagnostic) : IsVerdict (.rejected (d :: ds))

/-- A list of diagnostics begins with the place of the first. -/
theorem render_rejected (d : Diagnostic) (ds : List Diagnostic) :
    ∃ rest, (rejected (d :: ds)).render.toList = '[' :: rest := by
  have ⟨rest, first⟩ : ∃ rest, d.render.toList = '[' :: rest := by
    simp [Diagnostic.render, Diagnostic.span, String.toList_append]
  have joined : (rejected (d :: ds)).render = "\n".intercalate ((d :: ds).map Diagnostic.render) :=
    rfl
  rw [joined, List.map_cons, String.toList_intercalate, List.map_cons, first]
  cases ds with
  | nil => exact ⟨rest, List.intercalate_singleton⟩
  | cons next others =>
    rw [List.map_cons, List.map_cons, List.intercalate_cons_cons, List.append_assoc,
      List.cons_append]
    exact ⟨_, rfl⟩

theorem IsVerdict.render_cons {reply : Reply} (h : reply.IsVerdict) :
    ∃ c rest, reply.render.toList = c :: rest ∧ c ≠ 'E' := by
  cases h with
  | selectFirst => exact ⟨'N', _, rfl, by decide⟩
  | accepted => exact ⟨'o', _, rfl, by decide⟩
  | unchecked => exact ⟨'u', _, rfl, by decide⟩
  | rejected d ds =>
    obtain ⟨rest, rendered⟩ := render_rejected d ds
    exact ⟨'[', rest, rendered, by decide⟩

theorem IsVerdict.not_error {reply : Reply} (h : reply.IsVerdict) :
    ¬ "Error: ".toList <+: reply.render.toList := by
  obtain ⟨c, rest, rendered, other⟩ := h.render_cons
  rw [rendered]
  intro begins
  exact other (List.cons_prefix_cons.mp begins).1.symm

end Reply

namespace State

variable {config : Config} {state : State}

/-- A value is never answered with a failure. -/
theorem Sound.check_isVerdict (h : state.Sound config) (value : String) :
    (state.check value).1.IsVerdict := by
  have checking := state.checking value
  generalize (state.check value).1 = reply, (state.check value).2 = after at checking ⊢
  cases checking with
  | unselected => exact .selectFirst
  | @failed signature error _ _ selected checked =>
    have ok := h.reaches.check_ok (h.usable signature selected) value 0 []
    rw [checked] at ok
    cases ok
  | clean =>
    split
    · exact .accepted
    · exact .unchecked
  | rejected => exact .rejected _ _

/-- **A value is always judged.** Whatever lines have been given to a checker, if the signature it
started with resolves in the project or there was none, then a line with a value is answered: there
is no signature yet, the value is accepted or cannot be checked, or diagnostics say what is wrong
with it. The answer never begins like one to a failure. -/
theorem value_is_judged (config : Config)
    (fit : ∀ signature, config.signature = some signature → config.inMemory.Resolves signature)
    (lines : List String) (line : String) (value : IsValue line) :
    let state := ((State.start config).answerAll lines).2
    ∃ reply, (state.answer line).1 = some reply ∧ reply.IsVerdict ∧
      ¬ "Error: ".toList <+: reply.render.toList := by
  intro state
  have sound : state.Sound config :=
    (Sound.start fun signature startup => .inl (fit signature startup)).answerAll lines
  refine ⟨(state.check (String.ofList (Command.dropLineEnd line.toList))).1, ?_, ?_⟩
  · rw [answer, Command.ofLine_of_isValue value]
    rfl
  · have verdict := sound.check_isVerdict (String.ofList (Command.dropLineEnd line.toList))
    exact ⟨verdict, verdict.not_error⟩

/-- After a failed selection, a reset and a question for the status, the signature of the
configuration is resolved anew, and one element is wrong. -/
theorem startup_list_value_is_judged :
    let config : Config := { signature := some "java.util.List<int>" }
    let lines := ["/type java.util.List<", "1,2", "/reset", "/status"]
    let state := ((State.start config).answerAll lines).2
    (∀ signature, config.signature = some signature → config.inMemory.Resolves signature) ∧
      IsValue " 1,x" ∧ ∃ reply, (state.answer " 1,x").1 = some reply ∧ reply.IsVerdict ∧
        ¬ "Error: ".toList <+: reply.render.toList := by
  have fit : ∀ signature, some "java.util.List<int>" = some signature →
      (({ signature := some "java.util.List<int>" } : Config)).inMemory.Resolves signature := by
    rintro _ ⟨⟩
    refine ⟨⟨"java.util.List", [.simple "int"]⟩, by decide +kernel, ?_⟩
    exact InMemory.hasValidator_iff.mpr (by decide +kernel)
  have value : IsValue " 1,x" := ⟨'1', [',', 'x'], by decide +kernel, by decide⟩
  exact ⟨fit, value, value_is_judged { signature := some "java.util.List<int>" } fit _ _ value⟩

end State

end TypedConfig.Repl
