import TypedConfig.Proofs.Reading

/-!
Where a signature goes wrong. Whatever the reader has passed can still become a signature, by
closing the brackets that are open, and what stops it cannot be mended by anything that follows.
-/
namespace TypedConfig.Signature

/-- Something can follow a text that makes a signature of it. -/
def Viable (text : List Char) : Prop :=
  ∃ rest d, parse (String.ofList (text ++ rest)) = .ok d

/-- An error stands where a text stops being viable: at its end, or at the character that nothing
can follow, which the message quotes. -/
structure SyntaxError.Marks (e : SyntaxError) (s : String) : Prop where
  signature : e.signature = s
  inside : e.offset ≤ s.length
  viable : Viable (s.toList.take e.offset)
  stops : (e.offset = s.length ∧ ∃ before, e.message = before ++ "found end of input") ∨
    (e.offset < s.length ∧ ¬ Viable (s.toList.take (e.offset + 1)) ∧
      ∃ c, s.toList[e.offset]? = some c ∧
        e.message ∈ ["expected type name, found " ++ charText c,
          "expected ',' or '>', found " ++ charText c,
          "unexpected " ++ charText c ++ " after type"])

/-- A complete type becomes a signature when every open bracket is closed behind it. -/
theorem State.completes_type (frames : List Frame) {cursor : Cursor} {type : Descriptor}
    (complete : cursor.type? = some type) :
    ∃ rest last d, State.reach ⟨frames, cursor⟩ rest = some last ∧ last.finish = .ok d := by
  induction frames generalizing cursor type with
  | nil => exact ⟨[], _, type, rfl, finish_of_type complete⟩
  | cons frame outer ih =>
    let closed : Descriptor := ⟨frame.name, (type :: frame.arguments).reverse⟩
    have step : State.step ⟨frame :: outer, cursor⟩ '>' = .ok ⟨outer, .afterGeneric closed⟩ :=
      step_separator complete (.inr rfl)
    have behind : (Cursor.afterGeneric closed).type? = some closed := rfl
    obtain ⟨rest, last, d, reached, finish⟩ := ih behind
    exact ⟨'>' :: rest, last, d, (reach_cons step rest).trans reached, finish⟩

/-- Every state can be brought to a good end; where a type has to begin, any name will do. -/
theorem State.completes (state : State) :
    ∃ rest last d, state.reach rest = some last ∧ last.finish = .ok d := by
  obtain ⟨frames, cursor⟩ := state
  cases complete : cursor.type? with
  | some type => exact completes_type frames complete
  | none =>
    cases cursor with
    | start =>
      have letter : (Cursor.inName ['T']).type? = some (.simple (nameOf ['T'])) := rfl
      obtain ⟨rest, last, d, reached, finish⟩ := completes_type frames letter
      have step : State.step ⟨frames, .start⟩ 'T' = .ok ⟨frames, .inName ['T']⟩ :=
        step_letter (by decide)
      exact ⟨'T' :: rest, last, d, (reach_cons step rest).trans reached, finish⟩
    | inName | afterName | afterGeneric => cases complete

theorem viable_of_reach {text : List Char} {state : State}
    (reached : State.initial.reach text = some state) : Viable text := by
  obtain ⟨rest, last, d, more, finish⟩ := state.completes
  refine ⟨rest, d, parse_ok_iff.mpr ⟨last, ?_, finish⟩⟩
  rw [String.toList_ofList, State.reach_append reached, more]

theorem not_viable_of_stop {before : List Char} {c : Char} {mid : State} {problem : Problem}
    (reached : State.initial.reach before = some mid) (stop : mid.step c = .error problem) :
    ¬ Viable (before ++ [c]) := by
  rintro ⟨rest, d, accepted⟩
  have text : (String.ofList (before ++ [c] ++ rest)).toList = before ++ c :: rest := by
    simp [String.toList_ofList]
  rw [parse_of_stop text reached stop] at accepted
  cases accepted

theorem State.follow_error {frames : List Frame} {type : Descriptor} {c : Char}
    {problem : Problem} (h : follow frames type c = .error problem) :
    problem = .separatorExpected c ∨ problem = .trailing c := by
  unfold follow at h
  split at h
  · cases h; exact .inr rfl
  · split at h
    · cases h
    · split at h <;> cases h
      exact .inl rfl

/-- A character that stops the reader is the one that the problem is about. -/
theorem State.step_error {state : State} {c : Char} {problem : Problem}
    (stop : state.step c = .error problem) :
    problem = .nameExpected c ∨ problem = .separatorExpected c ∨ problem = .trailing c := by
  obtain ⟨frames, cursor⟩ := state
  cases cursor with
  | start =>
    simp only [step] at stop
    split at stop
    · cases stop
    · split at stop <;> cases stop
      exact .inl rfl
  | inName letters =>
    simp only [step] at stop
    split at stop
    · cases stop
    · split at stop
      · cases stop
      · split at stop
        · cases stop
        · exact .inr (follow_error stop)
  | afterName name =>
    simp only [step] at stop
    split at stop
    · cases stop
    · split at stop
      · cases stop
      · exact .inr (follow_error stop)
  | afterGeneric type =>
    simp only [step] at stop
    split at stop
    · cases stop
    · exact .inr (follow_error stop)

theorem State.finish_error {state : State} {problem : Problem}
    (h : state.finish = .error problem) : problem = .nameMissing ∨ problem = .unclosed := by
  cases complete : state.cursor.type? with
  | none => rw [finish_of_start complete] at h; cases h; exact .inl rfl
  | some type =>
    rw [finish_of_type complete] at h
    cases frames : state.frames with
    | nil => rw [frames] at h; cases h
    | cons frame outer => rw [frames] at h; cases h; exact .inr rfl

/-- A signature that cannot be read is wrong exactly where no signature can go on as it does. -/
theorem error_marks_end_of_viability {s : String} {e : SyntaxError} (h : parse s = .error e) :
    e.Marks s := by
  rcases State.initial.reach_cases s.toList with
    ⟨last, reached⟩ | ⟨before, c, after, mid, problem, text, reached, stop⟩
  · rw [parse_of_reach reached] at h
    cases finish : last.finish with
    | ok d => rw [finish] at h; cases h
    | error problem =>
      rw [finish] at h
      cases h
      refine ⟨rfl, Nat.le_refl _, ?_, .inl ⟨rfl, ?_⟩⟩
      · rw [← String.length_toList, List.take_length]
        exact viable_of_reach reached
      · rcases State.finish_error finish with rfl | rfl
        · exact ⟨"expected type name, ", rfl⟩
        · exact ⟨"expected '>', ", rfl⟩
  · rw [parse_of_stop text reached stop] at h
    cases h
    have length : s.length = before.length + (after.length + 1) := by
      rw [← String.length_toList, text, List.length_append, List.length_cons]
    refine ⟨rfl, by dsimp only; omega, ?_, .inr ⟨by dsimp only; omega, ?_, c, ?_, ?_⟩⟩
    · rw [text, List.take_left]
      exact viable_of_reach reached
    · have passed : s.toList.take (before.length + 1) = before ++ [c] := by
        rw [text, List.take_length_add_append, List.take_succ_cons, List.take_zero]
      rw [passed]
      exact not_viable_of_stop reached stop
    · rw [text]
      simp
    · rcases State.step_error stop with rfl | rfl | rfl
      · exact .head _
      · exact .tail _ (.head _)
      · exact .tail _ (.tail _ (.head _))

/-- Behind a comma a bracket closes: the error is at that bracket, the eleventh character. -/
theorem error_behind_comma_marks :
    parse "Größe<A , >" = .error ⟨.nameExpected '>', 10, "Größe<A , >"⟩ ∧
    (⟨.nameExpected '>', 10, "Größe<A , >"⟩ : SyntaxError).Marks "Größe<A , >" :=
  ⟨by decide, error_marks_end_of_viability (by decide)⟩

end TypedConfig.Signature
