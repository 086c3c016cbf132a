import Mathlib.Data.List.TakeWhile
import TypedConfig.Signature.Reader

/-!
Where the reader of signatures gets to. A text leads from one state to another, or a character
of it stops the reader; what is known of reading a signature is said in these terms.
-/
namespace TypedConfig

/-- A text is what trimming leaves of it, between blanks. -/
theorem Text.dropBlanks_split (cs : List Char) :
    ∃ before after, (∀ c ∈ before, isBlank c = true) ∧ (∀ c ∈ after, isBlank c = true) ∧
      cs = before ++ dropBlanks cs ++ after := by
  refine ⟨cs.takeWhile isBlank, ((cs.dropWhile isBlank).reverse.takeWhile isBlank).reverse,
    fun c hc => List.mem_takeWhile_imp hc,
    fun c hc => List.mem_takeWhile_imp (List.mem_reverse.mp hc), ?_⟩
  rw [dropBlanks, dropBlankEnd, List.append_assoc, ← List.reverse_append,
    List.takeWhile_append_dropWhile, List.reverse_reverse, List.takeWhile_append_dropWhile]

namespace Signature

open Text (isBlank)

/-- The state that a text leads to, if no character of it stops the reader. -/
def State.reach (state : State) : List Char → Option State
  | [] => some state
  | c :: rest =>
    match state.step c with
    | .ok next => next.reach rest
    | .error _ => none

theorem State.reach_cons {state next : State} {c : Char} (h : state.step c = .ok next)
    (rest : List Char) : state.reach (c :: rest) = next.reach rest := by
  simp only [reach, h]

theorem State.reach_append {state next : State} {a : List Char} (h : state.reach a = some next)
    (b : List Char) : state.reach (a ++ b) = next.reach b := by
  induction a generalizing state with
  | nil => cases h; rfl
  | cons c rest ih =>
    rw [List.cons_append]
    cases hs : state.step c with
    | ok mid => rw [reach_cons hs] at h ⊢; exact ih h
    | error problem => simp [reach, hs] at h

theorem State.reach_split {state last : State} {a b : List Char}
    (h : state.reach (a ++ b) = some last) :
    ∃ mid, state.reach a = some mid ∧ mid.reach b = some last := by
  induction a generalizing state with
  | nil => exact ⟨state, rfl, h⟩
  | cons c rest ih =>
    rw [List.cons_append] at h
    cases hs : state.step c with
    | ok next => rw [reach_cons hs] at h ⊢; exact ih h
    | error problem => simp [reach, hs] at h

/-- Reading goes on from the state that the beginning of a text leads to. -/
theorem State.read_append {state next : State} {a : List Char} (h : state.reach a = some next)
    (before : Nat) (b : List Char) :
    state.read before (a ++ b) = next.read (before + a.length) b := by
  induction a generalizing state before with
  | nil => cases h; rfl
  | cons c rest ih =>
    cases hs : state.step c with
    | ok mid =>
      rw [reach_cons hs] at h
      rw [List.cons_append, read, hs, List.length_cons]
      have read := ih h (before + 1)
      rwa [Nat.add_right_comm, Nat.add_assoc] at read
    | error problem => simp [reach, hs] at h

/-- A text is read to its end, or one of its characters stops the reader. -/
theorem State.reach_cases (state : State) (text : List Char) :
    (∃ last, state.reach text = some last) ∨
    ∃ before c after mid problem, text = before ++ c :: after ∧
      state.reach before = some mid ∧ mid.step c = .error problem := by
  induction text generalizing state with
  | nil => exact .inl ⟨state, rfl⟩
  | cons c rest ih =>
    cases hs : state.step c with
    | error problem => exact .inr ⟨[], c, rest, state, problem, rfl, rfl, hs⟩
    | ok next =>
      rcases ih next with ⟨last, h⟩ | ⟨before, d, after, mid, problem, rfl, hb, hd⟩
      · exact .inl ⟨last, by rw [reach_cons hs, h]⟩
      · exact .inr ⟨c :: before, d, after, mid, problem, rfl, by rw [reach_cons hs, hb], hd⟩

/-- A signature that is read to its end stands for what its last state makes of the end. -/
theorem parse_of_reach {s : String} {last : State}
    (h : State.initial.reach s.toList = some last) :
    parse s = last.finish.mapError fun problem => ⟨problem, s.length, s⟩ := by
  have read := State.read_append h 0 []
  rw [List.append_nil, Nat.zero_add, String.length_toList] at read
  rw [parse, read, State.read]
  cases last.finish <;> rfl

/-- A character that stops the reader is where the signature is wrong. -/
theorem parse_of_stop {s : String} {before after : List Char} {c : Char} {mid : State}
    {problem : Problem} (text : s.toList = before ++ c :: after)
    (h : State.initial.reach before = some mid) (stop : mid.step c = .error problem) :
    parse s = .error ⟨problem, before.length, s⟩ := by
  rw [parse, text, State.read_append h, State.read, stop, Nat.zero_add]
  rfl

theorem parse_ok_iff {s : String} {d : Descriptor} :
    parse s = .ok d ↔ ∃ last, State.initial.reach s.toList = some last ∧ last.finish = .ok d := by
  constructor
  · intro h
    rcases State.initial.reach_cases s.toList with
      ⟨last, hr⟩ | ⟨before, c, after, mid, problem, text, hb, stop⟩
    · rw [parse_of_reach hr] at h
      refine ⟨last, hr, ?_⟩
      cases hf : last.finish with
      | ok found => rw [hf] at h; cases h; rfl
      | error problem => rw [hf] at h; cases h
    · rw [parse_of_stop text hb stop] at h
      cases h
  · rintro ⟨last, hr, hf⟩
    rw [parse_of_reach hr, hf]
    rfl

/-! ## What one character does -/

/-- The type that is complete where the cursor stands. -/
def Cursor.type? : Cursor → Option Descriptor
  | .start => none
  | .inName letters => some (.simple (nameOf letters))
  | .afterName name => some (.simple name)
  | .afterGeneric type => some type

/-- The name that a bracket may open behind. -/
def Cursor.name? : Cursor → Option String
  | .inName letters => some (nameOf letters)
  | .afterName name => some name
  | .start | .afterGeneric _ => none

/-- The cursor behind a blank. -/
def Cursor.behindBlank : Cursor → Cursor
  | .inName letters => .afterName (nameOf letters)
  | .start => .start
  | .afterName name => .afterName name
  | .afterGeneric type => .afterGeneric type

@[simp] theorem Cursor.type?_behindBlank (cursor : Cursor) :
    cursor.behindBlank.type? = cursor.type? := by
  cases cursor <;> rfl

@[simp] theorem Cursor.name?_behindBlank (cursor : Cursor) :
    cursor.behindBlank.name? = cursor.name? := by
  cases cursor <;> rfl

theorem Cursor.type?_of_name? {cursor : Cursor} {name : String} (h : cursor.name? = some name) :
    cursor.type? = some (.simple name) := by
  cases cursor <;> cases h <;> rfl

theorem isBlank_of_isNameChar {c : Char} (h : isNameChar c = true) : isBlank c = false := by
  simp only [isNameChar, Bool.not_eq_true', Bool.or_eq_false_iff] at h
  exact h.2

theorem State.step_blank (state : State) {c : Char} (blank : isBlank c = true) :
    state.step c = .ok ⟨state.frames, state.cursor.behindBlank⟩ := by
  obtain ⟨frames, cursor⟩ := state
  cases cursor <;> simp [step, blank, Cursor.behindBlank]

theorem State.step_letter {frames : List Frame} {c : Char} (letter : isNameChar c = true) :
    State.step ⟨frames, .start⟩ c = .ok ⟨frames, .inName [c]⟩ := by
  simp [step, letter, isBlank_of_isNameChar letter]

theorem State.step_next_letter {frames : List Frame} {letters : List Char} {c : Char}
    (letter : isNameChar c = true) :
    State.step ⟨frames, .inName letters⟩ c = .ok ⟨frames, .inName (c :: letters)⟩ := by
  simp [step, letter, isBlank_of_isNameChar letter]

theorem State.step_opening {state : State} {name : String} (h : state.cursor.name? = some name) :
    state.step '<' = .ok (opened state.frames name) := by
  obtain ⟨frames, cursor⟩ := state
  cases cursor <;> cases h <;> rfl

/-- What may follow a complete type does not depend on how the type was written. -/
theorem State.step_separator {state : State} {type : Descriptor} {c : Char}
    (h : state.cursor.type? = some type) (separator : c = ',' ∨ c = '>') :
    state.step c = follow state.frames type c := by
  obtain ⟨frames, cursor⟩ := state
  rcases separator with rfl | rfl <;> cases cursor <;> cases h <;> rfl

/-- All that one character can do. -/
theorem State.step_cases {state next : State} {c : Char} (h : state.step c = .ok next) :
    (isBlank c = true ∧ next = ⟨state.frames, state.cursor.behindBlank⟩) ∨
    (isNameChar c = true ∧ state.cursor = .start ∧ next = ⟨state.frames, .inName [c]⟩) ∨
    (isNameChar c = true ∧ ∃ letters, state.cursor = .inName letters ∧
      next = ⟨state.frames, .inName (c :: letters)⟩) ∨
    (c = '<' ∧ ∃ name, state.cursor.name? = some name ∧ next = opened state.frames name) ∨
    (∃ type, state.cursor.type? = some type ∧ follow state.frames type c = .ok next) := by
  by_cases blank : isBlank c = true
  · rw [step_blank state blank] at h
    cases h
    exact .inl ⟨blank, rfl⟩
  · obtain ⟨frames, cursor⟩ := state
    cases cursor with
    | start =>
      by_cases letter : isNameChar c = true
      · rw [step_letter letter] at h
        cases h
        exact .inr (.inl ⟨letter, rfl, rfl⟩)
      · simp [step, blank, letter] at h
    | inName letters =>
      by_cases letter : isNameChar c = true
      · rw [step_next_letter letter] at h
        cases h
        exact .inr (.inr (.inl ⟨letter, letters, rfl, rfl⟩))
      · by_cases opening : c = '<'
        · subst opening
          cases h
          exact .inr (.inr (.inr (.inl ⟨rfl, nameOf letters, rfl, rfl⟩)))
        · simp only [step, blank, letter, opening, Bool.false_eq_true, if_false] at h
          exact .inr (.inr (.inr (.inr ⟨_, rfl, h⟩)))
    | afterName name =>
      by_cases opening : c = '<'
      · subst opening
        cases h
        exact .inr (.inr (.inr (.inl ⟨rfl, name, rfl, rfl⟩)))
      · simp only [step, blank, opening, Bool.false_eq_true, if_false] at h
        exact .inr (.inr (.inr (.inr ⟨_, rfl, h⟩)))
    | afterGeneric type =>
      simp only [step, blank, Bool.false_eq_true, if_false] at h
      exact .inr (.inr (.inr (.inr ⟨type, rfl, h⟩)))

/-- A complete type is followed inside a bracket, by a comma or by the bracket's end. -/
theorem State.follow_cases {frames : List Frame} {type : Descriptor} {c : Char} {next : State}
    (h : follow frames type c = .ok next) :
    ∃ frame outer, frames = frame :: outer ∧
      ((c = ',' ∧ next = ⟨⟨frame.name, type :: frame.arguments⟩ :: outer, .start⟩) ∨
       (c = '>' ∧
        next = ⟨outer, .afterGeneric ⟨frame.name, (type :: frame.arguments).reverse⟩⟩)) := by
  cases frames with
  | nil => cases h
  | cons frame outer =>
    refine ⟨frame, outer, rfl, ?_⟩
    simp only [follow] at h
    split at h
    · rename_i comma
      cases h
      exact .inl ⟨comma, rfl⟩
    · split at h
      · rename_i closing
        cases h
        exact .inr ⟨closing, rfl⟩
      · cases h

theorem State.finish_of_type {state : State} {type : Descriptor}
    (h : state.cursor.type? = some type) : state.finish = close state.frames type := by
  obtain ⟨frames, cursor⟩ := state
  cases cursor <;> cases h <;> rfl

theorem State.finish_of_start {state : State} (h : state.cursor.type? = none) :
    state.finish = .error .nameMissing := by
  obtain ⟨frames, cursor⟩ := state
  cases cursor <;> first | rfl | cases h

/-! ## Blanks at the edges -/

/-- Blanks leave the open brackets and what has been read of a type as they are. -/
theorem State.reach_blanks (state : State) {blanks : List Char}
    (blank : ∀ c ∈ blanks, isBlank c = true) :
    ∃ cursor, state.reach blanks = some ⟨state.frames, cursor⟩ ∧
      cursor.type? = state.cursor.type? ∧ cursor.name? = state.cursor.name? := by
  induction blanks generalizing state with
  | nil => exact ⟨state.cursor, rfl, rfl, rfl⟩
  | cons c rest ih =>
    obtain ⟨hc, hrest⟩ := List.forall_mem_cons.mp blank
    obtain ⟨cursor, hr, type, name⟩ := ih ⟨state.frames, state.cursor.behindBlank⟩ hrest
    exact ⟨cursor, by rw [reach_cons (state.step_blank hc), hr], by simpa using type,
      by simpa using name⟩

theorem State.reach_blanks_start (frames : List Frame) {blanks : List Char}
    (blank : ∀ c ∈ blanks, isBlank c = true) :
    State.reach ⟨frames, .start⟩ blanks = some ⟨frames, .start⟩ := by
  obtain ⟨cursor, hr, type, _⟩ := State.reach_blanks ⟨frames, .start⟩ blank
  cases cursor <;> first | exact hr | cases type

theorem State.finish_congr {state other : State} (frames : state.frames = other.frames)
    (type : state.cursor.type? = other.cursor.type?) : state.finish = other.finish := by
  cases h : other.cursor.type? with
  | none => rw [finish_of_start (type.trans h), finish_of_start h]
  | some d => rw [finish_of_type (type.trans h), finish_of_type h, frames]

/-- Blanks at the edges of a signature do not belong to what it says. -/
theorem parse_ok_iff_trim (s : String) (d : Descriptor) :
    parse s = .ok d ↔ parse (Text.trim s) = .ok d := by
  obtain ⟨before, after, hb, ha, text⟩ := Text.dropBlanks_split s.toList
  have trimmed : (Text.trim s).toList = Text.dropBlanks s.toList := String.toList_ofList
  have skip (rest : List Char) :
      State.initial.reach (before ++ rest) = State.initial.reach rest :=
    State.reach_append (State.reach_blanks_start [] hb) rest
  rw [parse_ok_iff, parse_ok_iff, trimmed]
  generalize Text.dropBlanks s.toList = core at text
  rw [text, List.append_assoc, skip]
  constructor
  · rintro ⟨last, hr, hf⟩
    obtain ⟨mid, hm, hl⟩ := State.reach_split hr
    obtain ⟨cursor, hc, type, _⟩ := mid.reach_blanks ha
    have same : State.finish ⟨mid.frames, cursor⟩ = mid.finish := State.finish_congr rfl type
    rw [hc] at hl
    cases hl
    exact ⟨mid, hm, same.symm.trans hf⟩
  · rintro ⟨mid, hm, hf⟩
    obtain ⟨cursor, hc, type, _⟩ := mid.reach_blanks ha
    have same : State.finish ⟨mid.frames, cursor⟩ = mid.finish := State.finish_congr rfl type
    exact ⟨_, (State.reach_append hm after).trans hc, same.trans hf⟩

end Signature

end TypedConfig
