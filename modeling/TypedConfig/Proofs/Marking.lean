import TypedConfig.Proofs.Asking
import TypedConfig.Standard.Context
import TypedConfig.Validator.Basic

/-!
What the diagnostics of a check mark. However collections are nested, each diagnostic stands on
just the piece of the value that was converted and rejected, and the pieces do not touch.
-/
namespace TypedConfig

/-! ## Sums of places -/

/-- Places up to this one are added without loss, unless the work crashes. -/
def Overflow.Exact (overflow : Overflow) (stop : Nat) : Prop :=
  overflow = .wraps → stop < UInt64.size

/-- Places up to this one are added without a crash. -/
def Overflow.Room (overflow : Overflow) (stop : Nat) : Prop :=
  overflow = .crashes → stop < UInt64.size

namespace Overflow

variable {overflow : Overflow} {place count next stop : Nat} {crash : Crash}

theorem Exact.mono (h : overflow.Exact stop) (le : next ≤ stop) : overflow.Exact next :=
  fun wraps => Nat.lt_of_le_of_lt le (h wraps)

theorem Exact.of_crashes (crashes : overflow = .crashes) : overflow.Exact stop := by
  intro wraps
  rw [crashes] at wraps
  cases wraps

theorem Exact.advance (h : overflow.Exact (place + count))
    (advanced : overflow.advance place count = .ok next) : next = place + count := by
  cases overflow with
  | wraps =>
    cases advanced
    exact Nat.mod_eq_of_lt (h rfl)
  | crashes =>
    rw [Overflow.advance] at advanced
    split at advanced
    · exact (Except.ok.inj advanced).symm
    · cases advanced

theorem Room.mono (h : overflow.Room stop) (le : next ≤ stop) : overflow.Room next :=
  fun crashes => Nat.lt_of_le_of_lt le (h crashes)

theorem Room.advance (h : overflow.Room (place + count)) :
    overflow.advance place count = .ok ((place + count) % UInt64.size) := by
  cases overflow with
  | wraps => rfl
  | crashes =>
    have fits := h rfl
    rw [Overflow.advance, if_pos fits, Nat.mod_eq_of_lt fits]

/-- Room for a place and what is behind it is room behind it. -/
theorem Room.behind {rest : Nat} (h : overflow.Room (place + (count + rest))) :
    overflow.Room ((place + count) % UInt64.size + rest) := by
  intro crashes
  have fits := h crashes
  rw [Nat.mod_eq_of_lt (by omega)]
  omega

theorem advance_eq_error (h : overflow.advance place count = .error crash) :
    overflow = .crashes ∧ crash = Overflow.crash ∧ UInt64.size ≤ place + count := by
  cases overflow with
  | wraps => cases h
  | crashes =>
    rw [Overflow.advance] at h
    split at h
    · cases h
    · rename_i full
      exact ⟨rfl, (Except.error.inj h).symm, Nat.not_lt.mp full⟩

end Overflow

/-! ## Conversions -/

/-- Between two histories a context was asked to convert a text, and this is what it said. -/
def Context.Converted (context : Context) (before after : History) (text type : String)
    (answer : Except Fault Conversion) : Prop :=
  ∃ asked, before <:+ asked ∧ .convert text type :: asked <:+ after ∧
    context.convert asked text type = answer

/-- The context of the leaf was asked between two histories to convert a text to its type. -/
def Validator.Said (v : Validator) (before after : History) (text : String)
    (answer : Except Fault Conversion) : Prop :=
  ∃ context, v.leaf.2 = some context ∧ context.Converted before after text v.leaf.1 answer

theorem Validator.Said.widen {v : Validator} {before before' after after' : History}
    {text : String} {answer : Except Fault Conversion} (said : v.Said before' after' text answer)
    (earlier : before <:+ before') (later : after' <:+ after) :
    v.Said before after text answer := by
  obtain ⟨context, leaf, asked, begun, ended, answered⟩ := said
  exact ⟨context, leaf, asked, earlier.trans begun, ended.trans later, answered⟩

/-! ## Reports -/

/-- A diagnostic stands on a piece of a value, which was rejected with its message. -/
inductive Diagnostic.Marks (marking : Marking) (heard : String → Except Fault Conversion → Prop)
    (start : Nat) : List Char → Diagnostic → Prop where
  | rejected (left text right : List Char) (message : String)
      (said : heard (String.ofList text) (.ok (.rejected message))) :
      Marks marking heard start (left ++ text ++ right)
        ⟨message, marking.source, marking.code, start + left.length,
          start + left.length + text.length⟩

/-- What is reported of a value is what was said of its pieces, from the left to the right. It stops
where something was said to fail, or where a place is too large. -/
structure Report.Faithful (marking : Marking) (heard : String → Except Fault Conversion → Prop)
    (start : Nat) (value : List Char) (report : Report) : Prop where
  marks : marking.overflow.Exact (start + value.length) →
    ∀ d ∈ report.diagnostics, Diagnostic.Marks marking heard start value d
  apart : marking.overflow.Exact (start + value.length) →
    report.diagnostics.Pairwise fun a b => a.stop < b.start
  fault : ∀ fault, report.outcome = .error fault → (∃ text, heard text (.error fault)) ∨
    marking.overflow = .crashes ∧ fault = .crashed Overflow.crash ∧
      UInt64.size ≤ start + value.length + 1

section
variable {marking : Marking} {heard heard' : String → Except Fault Conversion → Prop} {start : Nat}
  {value : List Char}

namespace Diagnostic.Marks

variable {d : Diagnostic}

theorem start_le (h : Marks marking heard start value d) : start ≤ d.start := by
  cases h with
  | rejected left text right message said => exact Nat.le_add_right ..

theorem stop_le (h : Marks marking heard start value d) : d.stop ≤ start + value.length := by
  cases h with
  | rejected left text right message said =>
    simp only [List.length_append]
    omega

/-- What marks a piece marks the whole. -/
theorem within {left : List Char} (h : Marks marking heard (start + left.length) value d)
    (right : List Char) : Marks marking heard start (left ++ value ++ right) d := by
  cases h with
  | rejected left' text right' message said =>
    have marked : Marks marking heard start ((left ++ left') ++ text ++ (right' ++ right)) _ :=
      .rejected (left ++ left') text (right' ++ right) message said
    simpa only [List.append_assoc, List.length_append, Nat.add_assoc] using marked

theorem mono (h : Marks marking heard start value d)
    (more : ∀ text answer, heard text answer → heard' text answer) :
    Marks marking heard' start value d := by
  cases h with
  | rejected left text right message said => exact .rejected left text right message (more _ _ said)

end Diagnostic.Marks

namespace Report.Faithful

theorem clean : Report.clean.Faithful marking heard start value :=
  ⟨fun _ => List.forall_mem_nil _, fun _ => .nil, by rintro fault ⟨⟩⟩

/-- Nothing is reported but a fault. -/
theorem faulty {fault : Fault} (excuse : (∃ text, heard text (.error fault)) ∨
      marking.overflow = .crashes ∧ fault = .crashed Overflow.crash ∧
        UInt64.size ≤ start + value.length + 1) :
    (Report.faulty fault).Faithful marking heard start value :=
  ⟨fun _ => List.forall_mem_nil _, fun _ => .nil, by rintro fault ⟨⟩; exact excuse⟩

/-- A value that is converted as a whole. -/
theorem ofConversion {value : String} {answer : Except Fault Conversion}
    (said : heard value answer) :
    (Report.ofConversion marking value start answer).Faithful marking heard start value.toList := by
  match answer with
  | .ok .accepted => exact clean
  | .ok (.rejected message) =>
    rw [Report.ofConversion]
    cases advanced : marking.overflow.advance start value.length with
    | error crash =>
      obtain ⟨crashes, rfl, full⟩ := Overflow.advance_eq_error advanced
      rw [← String.length_toList] at full
      exact faulty (.inr ⟨crashes, rfl, Nat.le_succ_of_le full⟩)
    | ok stop =>
      refine ⟨fun exact => List.forall_mem_singleton.mpr ?_, fun _ => List.pairwise_singleton ..,
        by rintro fault ⟨⟩⟩
      rw [String.length_toList] at exact
      obtain rfl := exact.advance advanced
      have text : heard (String.ofList value.toList) (.ok (.rejected message)) := by
        rwa [String.ofList_toList]
      have whole : Diagnostic.Marks marking heard start ([] ++ value.toList ++ []) _ :=
        .rejected [] value.toList [] message text
      simpa [String.length_toList] using whole
  | .error fault => exact faulty (.inl ⟨value, said⟩)

variable {report first next : Report}

theorem mono (h : report.Faithful marking heard start value)
    (more : ∀ text answer, heard text answer → heard' text answer) :
    report.Faithful marking heard' start value where
  marks exact d member := (h.marks exact d member).mono more
  apart := h.apart
  fault fault stopped := (h.fault fault stopped).imp_left fun ⟨text, said⟩ => ⟨text, more _ _ said⟩

theorem within (left : List Char) (h : report.Faithful marking heard (start + left.length) value)
    (right : List Char) : report.Faithful marking heard start (left ++ value ++ right) := by
  have inside : start + left.length + value.length ≤ start + (left ++ value ++ right).length := by
    simp only [List.length_append]
    omega
  refine ⟨fun exact d member => (h.marks (exact.mono inside) d member).within right,
    fun exact => h.apart (exact.mono inside), fun fault stopped => ?_⟩
  refine (h.fault fault stopped).imp_right fun ⟨crashes, said, full⟩ => ⟨crashes, said, ?_⟩
  exact Nat.le_trans full (Nat.succ_le_succ inside)

theorem extend {whole : List Char} (h : report.Faithful marking heard start value)
    (begins : value <+: whole) : report.Faithful marking heard start whole := by
  obtain ⟨right, rfl⟩ := begins
  exact within [] h right

/-- Reports of two pieces of a value are put together. -/
theorem after (h : first.Faithful marking heard start value)
    (h' : next.Faithful marking heard start value)
    (ordered : marking.overflow.Exact (start + value.length) →
      ∀ a ∈ first.diagnostics, ∀ b ∈ next.diagnostics, a.stop < b.start) :
    (first.after next).Faithful marking heard start value where
  marks exact := List.forall_mem_append.mpr ⟨h.marks exact, h'.marks exact⟩
  apart exact := List.pairwise_append.mpr ⟨h.apart exact, h'.apart exact, ordered exact⟩
  fault := h'.fault

/-- The separator stands between the marks of what is before it and of what is behind it. -/
theorem separated {piece rest : List Char} {place : Nat} (separator : Char)
    (h : first.Faithful marking heard start piece)
    (advanced : marking.overflow.advance start (piece.length + 1) = .ok place)
    (h' : next.Faithful marking heard place rest) :
    (first.after next).Faithful marking heard start (piece ++ [separator] ++ rest) := by
  have length : (piece ++ [separator] ++ rest).length = piece.length + 1 + rest.length := by
    simp only [List.length_append, List.length_singleton]
  by_cases exact : marking.overflow.Exact (start + (piece ++ [separator] ++ rest).length)
  · have before : first.Faithful marking heard start (piece ++ [separator] ++ rest) := by
      rw [List.append_assoc]
      exact h.extend (List.prefix_append ..)
    obtain rfl : place = start + (piece.length + 1) :=
      Overflow.Exact.advance (exact.mono (by omega)) advanced
    have behind : next.Faithful marking heard start (piece ++ [separator] ++ rest) := by
      have shifted : next.Faithful marking heard (start + (piece ++ [separator]).length) rest := by
        simpa using h'
      simpa using shifted.within _ []
    refine before.after behind fun exact a ha b hb => ?_
    rw [length] at exact
    have stop := (h.marks (exact.mono (by omega)) a ha).stop_le
    have start := (h'.marks (exact.mono (by omega)) b hb).start_le
    omega
  · -- the place has wrapped, so nothing is said of it; and the work does not crash
    refine ⟨fun fits => absurd fits exact, fun fits => absurd fits exact, fun fault stopped => ?_⟩
    exact (h'.fault fault stopped).imp_right fun ⟨crashes, _⟩ => absurd (.of_crashes crashes) exact

end Report.Faithful
end

/-! ## Elements -/

/-- The text of the first pieces comes first. -/
theorem Text.intercalate_prefix (separator : List Char) (pieces more : List (List Char)) :
    separator.intercalate pieces <+: separator.intercalate (pieces ++ more) := by
  by_cases none : pieces = []
  · rw [none]
    exact List.nil_prefix
  · by_cases all : more = []
    · simp [all]
    · rw [intercalate_append separator none all, List.append_assoc]
      exact List.prefix_append ..

namespace Validator

/-- The elements with commas between them are what a list begins with; a comma at its end may be
left. -/
theorem intercalate_elements (value : String) :
    [','].intercalate ((elements value).map String.toList) <+: value.toList := by
  have pieces : [','].intercalate (value.toList.splitOn ',') = value.toList :=
    List.intercalate_splitOn ','
  unfold elements
  simp only [List.map_map, Function.comp_def, String.toList_ofList, List.map_id']
  split
  · rename_i last
    obtain ⟨before, split⟩ := List.getLast?_eq_some_iff.mp last
    rw [split] at pieces ⊢
    rw [List.dropLast_concat, ← pieces]
    exact Text.intercalate_prefix ..
  · simp only [pieces, List.prefix_refl]

section
variable {overflow : Overflow} {check : String → Nat → Asking Report} {element : String}
  {rest : List String} {start next : Nat} {before history : History} {first : Report}

theorem checkEach_of_error {fault : Fault} (checked : check element start before = (first, history))
    (stopped : first.outcome = .error fault) :
    checkEach overflow check (element :: rest) start before = (first, history) := by
  simp only [checkEach, Asking.bind_apply, checked, stopped]
  rfl

theorem checkEach_of_crash {crash : Crash} (checked : check element start before = (first, history))
    (passed : first.outcome = .ok ())
    (full : overflow.advance start (element.length + 1) = .error crash) :
    checkEach overflow check (element :: rest) start before =
      (first.after (.faulty (.crashed crash)), history) := by
  simp only [checkEach, Asking.bind_apply, checked, passed, full]
  rfl

theorem checkEach_of_ok (checked : check element start before = (first, history))
    (passed : first.outcome = .ok ())
    (advanced : overflow.advance start (element.length + 1) = .ok next) :
    checkEach overflow check (element :: rest) start before =
      let others := checkEach overflow check rest next history
      (first.after others.1, others.2) := by
  simp only [checkEach, Asking.bind_apply, checked, passed, advanced]
  rfl

theorem checkEach_extends (grows : ∀ element start, Asking.Extends (check element start))
    (elements : List String) (start : Nat) :
    Asking.Extends (checkEach overflow check elements start) := by
  induction elements generalizing start with
  | nil => exact .pure _
  | cons element rest ih =>
    rw [checkEach]
    refine (grows element start).bind fun first => ?_
    split
    · exact .pure _
    · split
      · exact (ih _).bind fun _ => .pure _
      · exact .pure _

end

theorem check_extends (marking : Marking) (v : Validator) (value : String) (start : Nat) :
    Asking.Extends (v.check marking value start) := by
  induction v generalizing value start with
  | scalar type context =>
    cases context with
    | none => exact .pure _
    | some context =>
      have asked : Asking.Extends (context.askConvert value type) := Asking.Extends.ask _ _
      exact asked.bind fun _ => .pure _
  | collection delegate ih => exact checkEach_extends ih _ start
  | optional delegate ih => exact ih value start

/-- Elements are reported of where they stand in the list. -/
theorem checkEach_faithful {marking : Marking} {delegate : Validator}
    (each : ∀ element start before, let work := delegate.check marking element start before
      work.1.Faithful marking (delegate.Said before work.2) start element.toList)
    (elements : List String) (start : Nat) (before : History) :
    let work := checkEach marking.overflow
      (fun element offset => delegate.check marking element offset) elements start before
    work.1.Faithful marking (delegate.Said before work.2) start
      ([','].intercalate (elements.map String.toList)) := by
  induction elements generalizing start before with
  | nil => exact .clean
  | cons element rest ih =>
    have one := each element start before
    have one_grows := delegate.check_extends marking element start before
    have begins := Text.intercalate_prefix [','] [element.toList] (rest.map String.toList)
    rw [List.intercalate_singleton, List.singleton_append] at begins
    rcases checked : delegate.check marking element start before with ⟨first, history⟩
    simp only [checked] at one one_grows
    cases outcome : first.outcome with
    | error fault =>
      rw [checkEach_of_error checked outcome]
      exact one.extend begins
    | ok =>
      cases advanced : marking.overflow.advance start (element.length + 1) with
      | error crash =>
        rw [checkEach_of_crash checked outcome advanced]
        obtain ⟨crashes, rfl, full⟩ := Overflow.advance_eq_error advanced
        rw [← String.length_toList, ← Nat.add_assoc] at full
        have last := (one.after (.faulty (.inr ⟨crashes, rfl, full⟩)) (by rintro _ _ _ _ ⟨⟩))
        exact last.extend begins
      | ok next =>
        rw [checkEach_of_ok checked outcome advanced]
        have others := ih next history
        have others_grow : history <:+
            (checkEach marking.overflow (delegate.check marking) rest next history).2 :=
          checkEach_extends (delegate.check_extends marking) rest next history
        have one := one.mono fun text answer said => said.widen (List.suffix_refl _) others_grow
        have others := others.mono fun text answer said => said.widen one_grows (List.suffix_refl _)
        cases rest with
        | nil =>
          rw [List.map_singleton, List.intercalate_singleton]
          exact one.after .clean (by rintro _ _ _ _ ⟨⟩)
        | cons second rest =>
          rw [List.map_cons, List.map_cons, List.intercalate_cons_cons]
          rw [← String.length_toList] at advanced
          exact one.separated ',' advanced others

/-- A check reports of a value what the context of the leaf has said of its pieces meanwhile. -/
theorem check_faithful (marking : Marking) (v : Validator) (value : String) (start : Nat)
    (before : History) : let work := v.check marking value start before
    work.1.Faithful marking (v.Said before work.2) start value.toList := by
  induction v generalizing value start before with
  | scalar type context =>
    cases context with
    | none => exact .clean
    | some context =>
      exact .ofConversion ⟨context, rfl, before, List.suffix_refl _, List.suffix_refl _, rfl⟩
  | collection delegate ih =>
    have elements := checkEach_faithful ih (elements value) start before
    exact elements.extend (intercalate_elements value)
  | optional delegate ih => exact ih value start before

end Validator

/-! ## Places -/

end TypedConfig
