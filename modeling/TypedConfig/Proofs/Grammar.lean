import TypedConfig.Proofs.Reading
import TypedConfig.Signature.Layout

/-!
The reader and the grammar agree: a signature is read as a descriptor exactly when it spells it.
What has been read is always the tokens up to the cursor with blanks around them, and the tokens
of a type lead the reader behind that type, whatever brackets are open around it.
-/
namespace TypedConfig.Signature

open Text (isBlank)
open Descriptor (IsName AllWellNamed tokensRest)

/-! ## Tokens with blanks around them -/

theorem Spaced.blanks_before {tokens : List Token} {blanks text : List Char}
    (blank : ∀ c ∈ blanks, isBlank c = true) (h : Spaced tokens text) :
    Spaced tokens (blanks ++ text) := by
  cases h with
  | done more => exact .done (List.forall_mem_append.mpr ⟨blank, more⟩)
  | token more next =>
    simpa only [List.append_assoc] using
      Spaced.token (List.forall_mem_append.mpr ⟨blank, more⟩) next

theorem Spaced.append {before after : List Token} {a b : List Char} (h : Spaced before a)
    (h' : Spaced after b) : Spaced (before ++ after) (a ++ b) := by
  induction h with
  | done blank => exact h'.blanks_before blank
  | token blank next ih =>
    simpa only [List.append_assoc, List.cons_append] using Spaced.token blank ih

theorem Spaced.single (token : Token) : Spaced [token] token.chars := by
  have nothing : ∀ c ∈ ([] : List Char), isBlank c = true := List.forall_mem_nil _
  simpa only [List.nil_append, List.append_nil] using Spaced.token nothing (.done nothing)

theorem Spaced.blank_after {tokens : List Token} {text : List Char} {c : Char}
    (h : Spaced tokens text) (blank : isBlank c = true) : Spaced tokens (text ++ [c]) := by
  have one : ∀ d ∈ [c], isBlank d = true := List.forall_mem_singleton.mpr blank
  simpa only [List.append_nil] using h.append (.done one)

theorem Spaced.split (before : List Token) {after : List Token} {text : List Char}
    (h : Spaced (before ++ after) text) :
    ∃ a b, text = a ++ b ∧ Spaced before a ∧ Spaced after b := by
  induction before generalizing text with
  | nil => exact ⟨[], text, rfl, .done (by simp), h⟩
  | cons token rest ih =>
    cases h with
    | @token blanks _ _ following blank next =>
      obtain ⟨a, b, rfl, ha, hb⟩ := ih next
      exact ⟨blanks ++ token.chars ++ a, b, by simp, .token blank ha, hb⟩

/-- One token stands between blanks. -/
theorem Spaced.of_single {token : Token} {text : List Char} (h : Spaced [token] text) :
    ∃ before after, (∀ c ∈ before, isBlank c = true) ∧ (∀ c ∈ after, isBlank c = true) ∧
      text = before ++ token.chars ++ after := by
  cases h with
  | token blank next =>
    cases next with
    | done more => exact ⟨_, _, blank, more, rfl⟩

/-! ## Tokens of descriptors -/

theorem allWellNamed_iff {ds : List Descriptor} :
    AllWellNamed ds ↔ ∀ d ∈ ds, d.WellNamed := by
  induction ds with
  | nil => simp [AllWellNamed]
  | cons d ds ih => simp [AllWellNamed, ih]

/-- The last argument is the one without a comma behind it. -/
theorem tokens_snoc (name : String) (arguments : List Descriptor) (last : Descriptor) :
    Descriptor.tokens ⟨name, arguments ++ [last]⟩ =
      .name name :: .opening ::
        (arguments.flatMap (fun d => d.tokens ++ [.comma]) ++ last.tokens ++ [.closing]) := by
  cases arguments with
  | nil => simp [Descriptor.tokens, tokensRest]
  | cons first rest =>
    have behind : first.tokens ++ tokensRest (rest ++ [last]) =
        (first :: rest).flatMap (fun d => d.tokens ++ [.comma]) ++ last.tokens := by
      induction rest generalizing first with
      | nil => simp [tokensRest]
      | cons second rest ih => simp [tokensRest, ih second]
    rw [List.cons_append, Descriptor.tokens, behind]

/-! ## What has been read -/

/-- The tokens of an open bracket, up to the comma behind its latest complete argument. -/
def Frame.tokens (frame : Frame) : List Token :=
  .name frame.name :: .opening :: frame.arguments.reverse.flatMap fun d => d.tokens ++ [.comma]

/-- The tokens of all open brackets, the outermost first. -/
def openTokens : List Frame → List Token
  | [] => []
  | frame :: outer => openTokens outer ++ frame.tokens

/-- Every name in an open bracket may stand in a signature. -/
def Frame.WellNamed (frame : Frame) : Prop :=
  IsName frame.name ∧ ∀ d ∈ frame.arguments, d.WellNamed

/-- A text is some tokens with blanks around them and, behind these, as much of a type as the
cursor says. -/
inductive Cursor.Stands (before : List Token) (text : List Char) : Cursor → Prop where
  | start (spaced : Spaced before text) : Stands before text .start
  | inName {letters done : List Char} (split : text = done ++ letters.reverse)
      (spaced : Spaced before done) (nonempty : letters ≠ [])
      (named : ∀ c ∈ letters, isNameChar c = true) : Stands before text (.inName letters)
  | afterName {name : String} (spaced : Spaced (before ++ [.name name]) text)
      (named : IsName name) : Stands before text (.afterName name)
  | afterGeneric {type : Descriptor} (spaced : Spaced (before ++ type.tokens) text)
      (named : type.WellNamed) : Stands before text (.afterGeneric type)

/-- A state is what a text has led to. -/
structure State.Written (state : State) (text : List Char) : Prop where
  frames : ∀ frame ∈ state.frames, frame.WellNamed
  cursor : state.cursor.Stands (openTokens state.frames) text

theorem isName_nameOf {letters : List Char} (nonempty : letters ≠ [])
    (named : ∀ c ∈ letters, isNameChar c = true) : IsName (nameOf letters) := by
  refine ⟨fun empty => nonempty ?_, fun c hc => named c ?_⟩
  · simpa [nameOf] using congrArg String.toList empty
  · simpa [nameOf] using hc

theorem Cursor.Stands.name {before : List Token} {text : List Char} {cursor : Cursor}
    (h : cursor.Stands before text) {name : String} (found : cursor.name? = some name) :
    Spaced (before ++ [.name name]) text ∧ IsName name := by
  cases h with
  | start => cases found
  | @inName letters done split spaced nonempty named =>
    cases found
    have chars : (Token.name (nameOf letters)).chars = letters.reverse := String.toList_ofList
    exact ⟨split ▸ chars ▸ spaced.append (.single _), isName_nameOf nonempty named⟩
  | afterName spaced named => cases found; exact ⟨spaced, named⟩
  | afterGeneric => cases found

theorem Cursor.Stands.type {before : List Token} {text : List Char} {cursor : Cursor}
    (h : cursor.Stands before text) {type : Descriptor} (found : cursor.type? = some type) :
    Spaced (before ++ type.tokens) text ∧ type.WellNamed := by
  have simple {name : String} (complete : cursor.name? = some name) :
      Spaced (before ++ (Descriptor.simple name).tokens) text ∧
        (Descriptor.simple name).WellNamed := by
    obtain ⟨spaced, named⟩ := h.name complete
    exact ⟨by simpa [Descriptor.tokens] using spaced, named, trivial⟩
  cases cursor with
  | start => cases found
  | inName letters => cases found; exact simple rfl
  | afterName name => cases found; exact simple rfl
  | afterGeneric type =>
    cases found
    cases h with
    | afterGeneric spaced named => exact ⟨spaced, named⟩

theorem Cursor.Stands.blank {before : List Token} {text : List Char} {cursor : Cursor} {c : Char}
    (h : cursor.Stands before text) (blank : isBlank c = true) :
    cursor.behindBlank.Stands before (text ++ [c]) := by
  cases cursor with
  | start =>
    cases h with
    | start spaced => exact .start (spaced.blank_after blank)
  | inName letters =>
    obtain ⟨spaced, named⟩ := h.name rfl
    exact .afterName (spaced.blank_after blank) named
  | afterName name =>
    obtain ⟨spaced, named⟩ := h.name rfl
    exact .afterName (spaced.blank_after blank) named
  | afterGeneric type =>
    obtain ⟨spaced, named⟩ := h.type rfl
    exact .afterGeneric (spaced.blank_after blank) named

/-- A text that leads to a state with a complete type goes on to a comma or a bracket's end. -/
theorem State.Written.separator {state next : State} {text : List Char} {c : Char}
    (h : state.Written text) {type : Descriptor} (complete : state.cursor.type? = some type)
    (step : follow state.frames type c = .ok next) : next.Written (text ++ [c]) := by
  obtain ⟨spaced, named⟩ := h.cursor.type complete
  obtain ⟨frame, outer, frames, ⟨rfl, rfl⟩ | ⟨rfl, rfl⟩⟩ := follow_cases step
  · have sound := List.forall_mem_cons.mp (frames ▸ h.frames)
    refine ⟨List.forall_mem_cons.mpr ⟨⟨sound.1.1, ?_⟩, sound.2⟩, .start ?_⟩
    · exact List.forall_mem_cons.mpr ⟨named, sound.1.2⟩
    · have more := spaced.append (.single .comma)
      rw [frames] at more
      simpa [openTokens, Frame.tokens, Token.chars] using more
  · have sound := List.forall_mem_cons.mp (frames ▸ h.frames)
    refine ⟨sound.2, .afterGeneric ?_ ⟨sound.1.1, ?_⟩⟩
    · have more := spaced.append (.single .closing)
      rw [frames] at more
      simpa [openTokens, Frame.tokens, Token.chars, tokens_snoc] using more
    · refine allWellNamed_iff.mpr fun d hd => ?_
      rcases List.mem_cons.mp (List.mem_reverse.mp hd) with rfl | earlier
      · exact named
      · exact sound.1.2 d earlier

theorem State.Written.step {state next : State} {text : List Char} {c : Char}
    (h : state.Written text) (step : state.step c = .ok next) : next.Written (text ++ [c]) := by
  rcases step_cases step with ⟨blank, rfl⟩ | ⟨letter, start, rfl⟩ |
    ⟨letter, letters, cursor, rfl⟩ | ⟨rfl, name, found, rfl⟩ | ⟨type, complete, following⟩
  · exact ⟨h.frames, h.cursor.blank blank⟩
  · have cursor := h.cursor
    rw [start] at cursor
    cases cursor with
    | start spaced =>
      exact ⟨h.frames, .inName rfl spaced (by simp) (List.forall_mem_singleton.mpr letter)⟩
  · have cursor' := h.cursor
    rw [cursor] at cursor'
    cases cursor' with
    | inName split spaced nonempty named =>
      exact ⟨h.frames, .inName (by simp [split]) spaced (by simp)
        (List.forall_mem_cons.mpr ⟨letter, named⟩)⟩
  · obtain ⟨spaced, named⟩ := h.cursor.name found
    refine ⟨List.forall_mem_cons.mpr ⟨⟨named, List.forall_mem_nil _⟩, h.frames⟩, .start ?_⟩
    simpa [opened, openTokens, Frame.tokens, Token.chars] using spaced.append (.single .opening)
  · exact h.separator complete following

theorem State.Written.reach {state last : State} {before text : List Char}
    (h : state.Written before) (reached : state.reach text = some last) :
    last.Written (before ++ text) := by
  induction text generalizing state before with
  | nil => cases reached; simpa using h
  | cons c rest ih =>
    cases hs : state.step c with
    | ok next =>
      rw [reach_cons hs] at reached
      simpa using ih (h.step hs) reached
    | error problem => simp [State.reach, hs] at reached

theorem State.written_initial : State.initial.Written [] :=
  ⟨List.forall_mem_nil _, .start (.done (List.forall_mem_nil _))⟩

/-- What is read as a descriptor spells it. -/
theorem isLayout_of_parse {s : String} {d : Descriptor} (h : parse s = .ok d) :
    IsLayout s.toList d := by
  obtain ⟨last, reached, finish⟩ := parse_ok_iff.mp h
  have written := State.written_initial.reach reached
  rw [List.nil_append] at written
  cases complete : last.cursor.type? with
  | none => rw [State.finish_of_start complete] at finish; cases finish
  | some type =>
    obtain ⟨spaced, named⟩ := written.cursor.type complete
    rw [State.finish_of_type complete] at finish
    cases frames : last.frames with
    | nil =>
      rw [frames] at finish spaced
      cases finish
      exact ⟨named, spaced⟩
    | cons frame outer => rw [frames] at finish; cases finish

/-! ## Where tokens lead -/

theorem State.reach_letters (frames : List Frame) {cs : List Char} (letters : List Char)
    (named : ∀ c ∈ cs, isNameChar c = true) :
    State.reach ⟨frames, .inName letters⟩ cs = some ⟨frames, .inName (cs.reverse ++ letters)⟩ := by
  induction cs generalizing letters with
  | nil => rfl
  | cons c rest ih =>
    obtain ⟨hc, hrest⟩ := List.forall_mem_cons.mp named
    rw [reach_cons (step_next_letter hc), ih (c :: letters) hrest]
    simp

theorem State.reach_name (frames : List Frame) {name : String} {text : List Char}
    (named : IsName name) (spaced : Spaced [.name name] text) :
    ∃ cursor, State.reach ⟨frames, .start⟩ text = some ⟨frames, cursor⟩ ∧
      cursor.name? = some name := by
  obtain ⟨before, after, hb, ha, rfl⟩ := spaced.of_single
  obtain ⟨nonempty, letters⟩ := named
  cases hn : name.toList with
  | nil => exact absurd (String.toList_eq_nil_iff.mp hn) nonempty
  | cons c rest =>
    rw [hn] at letters
    obtain ⟨hc, hrest⟩ := List.forall_mem_cons.mp letters
    obtain ⟨cursor, hr, _, same⟩ :=
      State.reach_blanks ⟨frames, .inName (rest.reverse ++ [c])⟩ ha
    refine ⟨cursor, ?_, same.trans ?_⟩
    · rw [Token.chars, hn, List.append_assoc, reach_append (reach_blanks_start frames hb),
        List.cons_append, reach_cons (step_letter hc),
        reach_append (reach_letters frames [c] hrest), hr]
    · simp [Cursor.name?, nameOf, ← hn]

theorem State.reach_opening (frames : List Frame) {cursor : Cursor} {name : String}
    {text : List Char} (found : cursor.name? = some name) (spaced : Spaced [.opening] text) :
    State.reach ⟨frames, cursor⟩ text = some (opened frames name) := by
  obtain ⟨before, after, hb, ha, rfl⟩ := spaced.of_single
  obtain ⟨later, hr, _, same⟩ := State.reach_blanks ⟨frames, cursor⟩ hb
  have step : State.step ⟨frames, later⟩ '<' = .ok (opened frames name) :=
    step_opening (same.trans found)
  rw [List.append_assoc, reach_append hr, Token.chars, List.singleton_append, reach_cons step]
  exact reach_blanks_start _ ha

theorem State.reach_comma (outer : List Frame) (frame : Frame) {cursor : Cursor}
    {type : Descriptor} {text : List Char} (complete : cursor.type? = some type)
    (spaced : Spaced [.comma] text) :
    State.reach ⟨frame :: outer, cursor⟩ text =
      some ⟨⟨frame.name, type :: frame.arguments⟩ :: outer, .start⟩ := by
  obtain ⟨before, after, hb, ha, rfl⟩ := spaced.of_single
  obtain ⟨later, hr, same, _⟩ := State.reach_blanks ⟨frame :: outer, cursor⟩ hb
  have step : State.step ⟨frame :: outer, later⟩ ',' =
      .ok ⟨⟨frame.name, type :: frame.arguments⟩ :: outer, .start⟩ :=
    step_separator (same.trans complete) (.inl rfl)
  rw [List.append_assoc, reach_append hr, Token.chars, List.singleton_append, reach_cons step]
  exact reach_blanks_start _ ha

theorem State.reach_closing (outer : List Frame) (frame : Frame) {cursor : Cursor}
    {type : Descriptor} {text : List Char} (complete : cursor.type? = some type)
    (spaced : Spaced [.closing] text) :
    ∃ behind, State.reach ⟨frame :: outer, cursor⟩ text = some ⟨outer, behind⟩ ∧
      behind.type? = some ⟨frame.name, (type :: frame.arguments).reverse⟩ := by
  obtain ⟨before, after, hb, ha, rfl⟩ := spaced.of_single
  obtain ⟨later, hr, same, _⟩ := State.reach_blanks ⟨frame :: outer, cursor⟩ hb
  let closed : State := ⟨outer, .afterGeneric ⟨frame.name, (type :: frame.arguments).reverse⟩⟩
  have step : State.step ⟨frame :: outer, later⟩ '>' = .ok closed :=
    step_separator (same.trans complete) (.inr rfl)
  obtain ⟨behind, hr', same', _⟩ := closed.reach_blanks ha
  refine ⟨behind, ?_, same'⟩
  rw [List.append_assoc, reach_append hr, Token.chars, List.singleton_append, reach_cons step]
  exact hr'

mutual

/-- The tokens of a type lead behind it, and the brackets around it stay as they are. -/
theorem State.reach_type (frames : List Frame) : (d : Descriptor) → d.WellNamed →
    ∀ text, Spaced d.tokens text →
    ∃ cursor, State.reach ⟨frames, .start⟩ text = some ⟨frames, cursor⟩ ∧ cursor.type? = some d
  | ⟨name, []⟩, named, text, spaced => by
    obtain ⟨cursor, hr, found⟩ := State.reach_name frames named.1 spaced
    exact ⟨cursor, hr, Cursor.type?_of_name? found⟩
  | ⟨name, first :: rest⟩, ⟨named, hfirst, hrest⟩, text, spaced => by
    obtain ⟨a, text, rfl, hname, spaced⟩ := Spaced.split [.name name] spaced
    obtain ⟨b, text, rfl, hopening, spaced⟩ := Spaced.split [.opening] spaced
    obtain ⟨text, e, rfl, spaced, hclosing⟩ := Spaced.split _ spaced
    obtain ⟨c, d, rfl, harg, hargs⟩ := Spaced.split _ spaced
    obtain ⟨cursor, ha, found⟩ := State.reach_name frames named hname
    have hb := State.reach_opening frames found hopening
    obtain ⟨cursor, hc, complete⟩ :=
      State.reach_type (⟨name, []⟩ :: frames) first hfirst c harg
    obtain ⟨frame, last, cursor, hd, complete, same, arguments⟩ :=
      State.reach_rest frames rest hrest ⟨name, []⟩ complete d hargs
    obtain ⟨behind, he, type⟩ := State.reach_closing frames frame complete hclosing
    refine ⟨behind, ?_, ?_⟩
    · rw [reach_append ha, reach_append hb, List.append_assoc]
      exact (reach_append hc _).trans ((reach_append hd _).trans he)
    · rw [type, same, arguments]
      simp

/-- The tokens of the arguments after the first lead behind the last. -/
theorem State.reach_rest (outer : List Frame) : (ds : List Descriptor) → AllWellNamed ds →
    (frame : Frame) → {cursor : Cursor} → {type : Descriptor} → cursor.type? = some type →
    ∀ text, Spaced (tokensRest ds) text →
    ∃ grown last behind,
      State.reach ⟨frame :: outer, cursor⟩ text = some ⟨grown :: outer, behind⟩ ∧
      behind.type? = some last ∧ grown.name = frame.name ∧
      last :: grown.arguments = ds.reverse ++ type :: frame.arguments
  | [], _, frame, cursor, type, complete, text, spaced => by
    cases spaced with
    | done blank =>
      obtain ⟨behind, hr, same, _⟩ := State.reach_blanks ⟨frame :: outer, cursor⟩ blank
      exact ⟨frame, type, behind, hr, same.trans complete, rfl, rfl⟩
  | d :: ds, ⟨hd, hds⟩, frame, cursor, type, complete, text, spaced => by
    obtain ⟨a, text, rfl, hcomma, spaced⟩ := Spaced.split [.comma] spaced
    obtain ⟨b, c, rfl, htype, hrest⟩ := Spaced.split _ spaced
    have ha := State.reach_comma outer frame complete hcomma
    obtain ⟨cursor, hb, complete⟩ :=
      State.reach_type (⟨frame.name, type :: frame.arguments⟩ :: outer) d hd b htype
    obtain ⟨grown, last, behind, hc, found, same, arguments⟩ :=
      State.reach_rest outer ds hds ⟨frame.name, type :: frame.arguments⟩ complete c hrest
    refine ⟨grown, last, behind, ?_, found, same, by simpa using arguments⟩
    rw [reach_append ha, reach_append hb, hc]

end

/-- What spells a descriptor is read as it. -/
theorem parse_of_isLayout {s : String} {d : Descriptor} (h : IsLayout s.toList d) :
    parse s = .ok d := by
  obtain ⟨cursor, hr, complete⟩ := State.reach_type [] d h.1 s.toList h.2
  exact parse_ok_iff.mpr ⟨_, hr, State.finish_of_type complete⟩

/-- A signature stands for a descriptor exactly when it spells it, and it is refused exactly when
it spells none. -/
theorem parse_iff_isLayout (s : String) :
    (∀ d, parse s = .ok d ↔ IsLayout s.toList d) ∧
    ((∃ e, parse s = .error e) ↔ ¬ ∃ d, IsLayout s.toList d) := by
  have accepts (d : Descriptor) : parse s = .ok d ↔ IsLayout s.toList d :=
    ⟨isLayout_of_parse, parse_of_isLayout⟩
  refine ⟨accepts, ?_⟩
  simp only [← accepts]
  cases parse s <;> simp

end TypedConfig.Signature
