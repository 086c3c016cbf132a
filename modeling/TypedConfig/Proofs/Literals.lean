import TypedConfig.Standard.Context
import TypedConfig.Standard.Grammar

/-!
Floating-point values. What the reader takes off a text, a sign, a type letter and then digits from
the left, are the parts that the grammar puts together. The reader takes off one sign too many: a
number behind two signs is a value as well, though no literal has two.
-/
namespace TypedConfig.Standard

/-! ## Signs and digits -/

theorem Sign.cases_cons {sign : List Char} (signed : Sign sign) :
    sign = [] ∨ ∃ c, (c = '+' ∨ c = '-') ∧ sign = [c] := by
  cases signed with
  | none => exact .inl rfl
  | plus => exact .inr ⟨'+', .inl rfl, rfl⟩
  | minus => exact .inr ⟨'-', .inr rfl, rfl⟩

theorem Sign.of_char {c : Char} (sign : c = '+' ∨ c = '-') : Sign [c] := by
  rcases sign with rfl | rfl
  · exact .plus
  · exact .minus

/-- A text that begins with something else than a sign, if it begins with anything. -/
def Unheaded (cs : List Char) : Prop := ∀ c rest, cs = c :: rest → c ≠ '+' ∧ c ≠ '-'

theorem dropSign_sign {c : Char} (sign : c = '+' ∨ c = '-') (cs : List Char) :
    dropSign (c :: cs) = cs := by
  rcases sign with rfl | rfl <;> rfl

theorem dropSign_of_unheaded {cs : List Char} (unheaded : Unheaded cs) : dropSign cs = cs := by
  unfold dropSign
  split
  · exact absurd rfl (unheaded '+' _ rfl).1
  · exact absurd rfl (unheaded '-' _ rfl).2
  · rfl

theorem dropSign_append {sign cs : List Char} (signed : Sign sign) (unheaded : Unheaded cs) :
    dropSign (sign ++ cs) = cs := by
  rcases signed.cases_cons with rfl | ⟨c, sign, rfl⟩
  · exact dropSign_of_unheaded unheaded
  · exact dropSign_sign sign cs

/-- What is taken off the front is a sign. -/
theorem dropSign_split (cs : List Char) : ∃ sign, Sign sign ∧ cs = sign ++ dropSign cs := by
  unfold dropSign
  split
  · exact ⟨['+'], .plus, rfl⟩
  · exact ⟨['-'], .minus, rfl⟩
  · exact ⟨[], .none, rfl⟩

theorem isDigits_iff {cs : List Char} : isDigits cs = true ↔ Digits cs := by
  simp [isDigits, Digits, DigitRow]

theorem unheaded_cons {c : Char} {cs : List Char} (other : c ≠ '+' ∧ c ≠ '-') :
    Unheaded (c :: cs) := by
  rintro d rest split
  cases split
  exact other

theorem Digits.unheaded {ds : List Char} (digits : Digits ds) (rest : List Char) :
    Unheaded (ds ++ rest) := by
  obtain ⟨some, row⟩ := digits
  cases ds with
  | nil => exact absurd rfl some
  | cons d ds =>
    have digit : d.isDigit = true := row d List.mem_cons_self
    apply unheaded_cons
    constructor
    · rintro rfl
      exact absurd digit (by decide)
    · rintro rfl
      exact absurd digit (by decide)

/-- Digits reach as far as the text behind them allows. -/
theorem span_digits {ds rest : List Char} (row : DigitRow ds)
    (behind : ∀ c more, rest = c :: more → c.isDigit = false) :
    (ds ++ rest).takeWhile Char.isDigit = ds ∧ (ds ++ rest).dropWhile Char.isDigit = rest := by
  rw [List.takeWhile_append_of_pos row, List.dropWhile_append_of_pos row]
  cases rest with
  | nil => simp
  | cons c more =>
    have stop := behind c more rfl
    simp [stop]

theorem takeWhile_digits (cs : List Char) : DigitRow (cs.takeWhile Char.isDigit) := by
  intro c member
  exact List.all_eq_true.mp List.all_takeWhile c member

/-! ## Exponents and mantissas -/

theorem isExponent_iff {cs : List Char} : isExponent cs = true ↔ Exponent cs := by
  constructor
  · intro exponent
    cases cs with
    | nil => exact .none
    | cons e rest =>
      simp only [isExponent, Bool.and_eq_true, Bool.or_eq_true, decide_eq_true_eq,
        isDigits_iff] at exponent
      obtain ⟨letter, digits⟩ := exponent
      obtain ⟨sign, signed, split⟩ := dropSign_split rest
      rw [split]
      exact .some letter signed digits
  · intro exponent
    cases exponent with
    | none => rfl
    | @some e sign ds letter signed digits =>
      have dropped : dropSign (sign ++ ds) = ds := by
        apply dropSign_append signed
        simpa using digits.unheaded []
      simp only [isExponent, dropped, isDigits_iff.mpr digits, Bool.and_true, Bool.or_eq_true,
        decide_eq_true_eq]
      exact letter

theorem Exponent.no_digit {cs : List Char} (exponent : Exponent cs) :
    ∀ c more, cs = c :: more → c.isDigit = false := by
  rintro c more split
  cases exponent with
  | none => cases split
  | some letter signed digits =>
    cases split
    rcases letter with rfl | rfl <;> decide

theorem isMagnitude_whole {ds exponent : List Char} (digits : Digits ds)
    (e : Exponent exponent) : isMagnitude (ds ++ exponent) = true := by
  obtain ⟨some, row⟩ := digits
  obtain ⟨front, behind⟩ := span_digits row e.no_digit
  have read := isExponent_iff.mpr e
  unfold isMagnitude
  rw [front, behind]
  cases e with
  | none => simp [some, read]
  | some letter signed digits => rcases letter with rfl | rfl <;> simp [some, read]

theorem isMagnitude_pointed {ds fs exponent : List Char} (row : DigitRow ds) (row' : DigitRow fs)
    (some : ds ≠ [] ∨ fs ≠ []) (e : Exponent exponent) :
    isMagnitude (ds ++ '.' :: (fs ++ exponent)) = true := by
  have point : ∀ c more, '.' :: (fs ++ exponent) = c :: more → c.isDigit = false := by
    rintro c more split
    cases split
    decide
  obtain ⟨front, behind⟩ := span_digits row point
  obtain ⟨front', behind'⟩ := span_digits row' e.no_digit
  have read := isExponent_iff.mpr e
  unfold isMagnitude
  rw [front, behind]
  simp only [front', behind', read, Bool.and_true, Bool.not_eq_true', Bool.and_eq_false_iff,
    List.isEmpty_eq_false_iff]
  exact some

/-- A number without a sign and a type letter is a mantissa and an exponent. -/
theorem isMagnitude_iff {cs : List Char} : isMagnitude cs = true ↔
    ∃ mantissa exponent, Mantissa mantissa ∧ Exponent exponent ∧ cs = mantissa ++ exponent := by
  constructor
  · intro magnitude
    have front := takeWhile_digits cs
    have whole : cs.takeWhile Char.isDigit ++ cs.dropWhile Char.isDigit = cs :=
      List.takeWhile_append_dropWhile
    unfold isMagnitude at magnitude
    split at magnitude
    · rename_i rest point
      have back := takeWhile_digits rest
      have fraction : rest.takeWhile Char.isDigit ++ rest.dropWhile Char.isDigit = rest :=
        List.takeWhile_append_dropWhile
      rw [Bool.and_eq_true, isExponent_iff] at magnitude
      obtain ⟨some, exponent⟩ := magnitude
      refine ⟨cs.takeWhile Char.isDigit ++ '.' :: rest.takeWhile Char.isDigit, _, ?_, exponent, ?_⟩
      · by_cases bare : cs.takeWhile Char.isDigit = []
        · rw [bare] at some ⊢
          refine .fraction ⟨?_, back⟩
          intro empty
          simp [empty] at some
        · exact .pointed ⟨bare, front⟩ back
      · rw [List.append_assoc, List.cons_append, fraction, ← point, whole]
    · simp only [Bool.and_eq_true, isExponent_iff, Bool.not_eq_true', List.isEmpty_eq_false_iff]
        at magnitude
      obtain ⟨some, exponent⟩ := magnitude
      exact ⟨_, _, .whole ⟨some, front⟩, exponent, whole.symm⟩
  · rintro ⟨mantissa, exponent, m, e, rfl⟩
    cases m with
    | whole digits => exact isMagnitude_whole digits e
    | pointed digits fraction =>
      rw [List.append_assoc, List.cons_append]
      exact isMagnitude_pointed digits.2 fraction (.inl digits.1) e
    | fraction digits =>
      have empty : DigitRow [] := fun c member => absurd member List.not_mem_nil
      exact isMagnitude_pointed empty digits.2 (.inr digits.1) e

/-! ## Type letters -/

/-- What is taken off the end is a type letter. -/
theorem dropTypeLetter_split (cs : List Char) :
    ∃ letter, TypeLetter letter ∧ cs = dropTypeLetter cs ++ letter := by
  unfold dropTypeLetter
  split
  · rename_i c last
    split
    · rename_i named
      obtain ⟨before, rfl⟩ := List.getLast?_eq_some_iff.mp last
      exact ⟨[c], .some named, by rw [List.dropLast_concat]⟩
    · exact ⟨[], .none, (List.append_nil cs).symm⟩
  · exact ⟨[], .none, (List.append_nil cs).symm⟩

theorem dropTypeLetter_append {cs letter : List Char} (l : TypeLetter letter)
    (plain : ∀ c ∈ cs, c ∉ ['f', 'F', 'd', 'D']) : dropTypeLetter (cs ++ letter) = cs := by
  cases l with
  | none =>
    rw [List.append_nil]
    unfold dropTypeLetter
    split
    · rename_i c last
      rw [if_neg (plain c (List.mem_of_getLast? last))]
    · rfl
  | @some c named =>
    unfold dropTypeLetter
    simp only [List.getLast?_concat, List.dropLast_concat, if_pos named]

/-- A character of a number's digits, point and exponent. -/
def IsNumeric (c : Char) : Prop := c.isDigit = true ∨ c ∈ ['.', 'e', 'E', '+', '-']

theorem IsNumeric.not_typeLetter {c : Char} (numeric : IsNumeric c) :
    c ∉ ['f', 'F', 'd', 'D'] := by
  intro letter
  have other : c.isDigit = false ∧ c ∉ ['.', 'e', 'E', '+', '-'] := by
    simp only [List.mem_cons, List.not_mem_nil, or_false] at letter
    rcases letter with rfl | rfl | rfl | rfl <;> decide
  obtain ⟨digit, sign⟩ := other
  rcases numeric with found | found
  · rw [digit] at found
    cases found
  · exact sign found

theorem DigitRow.numeric {ds : List Char} (row : DigitRow ds) : ∀ c ∈ ds, IsNumeric c :=
  fun c member => .inl (row c member)

theorem Sign.numeric {sign : List Char} (signed : Sign sign) : ∀ c ∈ sign, IsNumeric c := by
  intro c member
  cases signed with
  | none => cases member
  | plus => exact .inr (by simp_all)
  | minus => exact .inr (by simp_all)

theorem Mantissa.numeric {cs : List Char} (m : Mantissa cs) : ∀ c ∈ cs, IsNumeric c := by
  have point : IsNumeric '.' := .inr (by decide)
  cases m with
  | whole digits => exact digits.2.numeric
  | pointed digits fraction =>
    exact List.forall_mem_append.mpr
      ⟨digits.2.numeric, List.forall_mem_cons.mpr ⟨point, fraction.numeric⟩⟩
  | fraction digits => exact List.forall_mem_cons.mpr ⟨point, digits.2.numeric⟩

theorem Exponent.numeric {cs : List Char} (e : Exponent cs) : ∀ c ∈ cs, IsNumeric c := by
  cases e with
  | none => exact List.forall_mem_nil _
  | some letter signed digits =>
    refine List.forall_mem_cons.mpr
      ⟨?_, List.forall_mem_append.mpr ⟨signed.numeric, digits.2.numeric⟩⟩
    rcases letter with rfl | rfl
    · exact .inr (by decide)
    · exact .inr (by decide)

theorem Mantissa.unheaded {cs : List Char} (m : Mantissa cs) (rest : List Char) :
    Unheaded (cs ++ rest) := by
  cases m with
  | whole digits => exact digits.unheaded rest
  | pointed digits fraction =>
    rw [List.append_assoc]
    exact digits.unheaded _
  | fraction digits =>
    rintro c more split
    cases split
    decide

/-! ## Literals -/

/-- Behind the sign that is taken off first, a number may have one more. -/
theorem isMagnitude_unsigned_iff {cs : List Char} :
    isMagnitude (dropSign (dropTypeLetter cs)) = true ↔
      ∃ sign body, Sign sign ∧ Unsigned body ∧ cs = sign ++ body := by
  rw [isMagnitude_iff]
  constructor
  · rintro ⟨mantissa, exponent, m, e, number⟩
    obtain ⟨letter, l, ended⟩ := dropTypeLetter_split cs
    obtain ⟨sign, signed, begun⟩ := dropSign_split (dropTypeLetter cs)
    refine ⟨sign, mantissa ++ exponent ++ letter, signed, .intro m e l, ?_⟩
    rw [ended, begun, number, List.append_assoc, List.append_assoc]
  · rintro ⟨sign, body, signed, unsigned, rfl⟩
    cases unsigned with
    | @intro mantissa exponent letter m e l =>
      have numeric : ∀ c ∈ sign ++ (mantissa ++ exponent), IsNumeric c :=
        List.forall_mem_append.mpr
          ⟨signed.numeric, List.forall_mem_append.mpr ⟨m.numeric, e.numeric⟩⟩
      have plain : ∀ c ∈ sign ++ (mantissa ++ exponent), c ∉ ['f', 'F', 'd', 'D'] :=
        fun c member => (numeric c member).not_typeLetter
      refine ⟨mantissa, exponent, m, e, ?_⟩
      rw [← List.append_assoc, dropTypeLetter_append l plain,
        dropSign_append signed (m.unheaded exponent)]

theorem Unsigned.unheaded {cs : List Char} (unsigned : Unsigned cs) : Unheaded cs := by
  cases unsigned with
  | intro m e l =>
    rw [List.append_assoc]
    exact m.unheaded _

theorem unheaded_nan : Unheaded "NaN".toList := unheaded_cons (by decide)

theorem unheaded_infinity : Unheaded "Infinity".toList := unheaded_cons (by decide)

/-- Taking off the sign of a literal leaves a name or a number. -/
theorem Literal.dropSign {cs : List Char} (literal : Literal cs) :
    Standard.dropSign cs = "NaN".toList ∨ Standard.dropSign cs = "Infinity".toList ∨
      Unsigned (Standard.dropSign cs) := by
  cases literal with
  | nan signed =>
    left
    exact dropSign_append signed unheaded_nan
  | infinity signed =>
    right
    left
    exact dropSign_append signed unheaded_infinity
  | number signed unsigned =>
    right
    right
    rwa [dropSign_append signed unsigned.unheaded]

/-- Behind the sign of a literal there is no second one. -/
theorem DoublySigned.not_literal {cs : List Char} (h : DoublySigned cs) : ¬ Literal cs := by
  intro literal
  cases h with
  | @intro first second body front again unsigned =>
    have rest := literal.dropSign
    rw [dropSign_sign front] at rest
    have unheaded : Unheaded (second :: body) := by
      rcases rest with nan | infinity | number
      · rw [nan]
        exact unheaded_nan
      · rw [infinity]
        exact unheaded_infinity
      · exact number.unheaded
    obtain ⟨plus, minus⟩ := unheaded second body rfl
    rcases again with rfl | rfl
    · exact plus rfl
    · exact minus rfl

/-- The reader accepts the literals, and numbers with two signs. -/
theorem isFloating_iff {cs : List Char} :
    isFloating cs = true ↔ Literal cs ∨ DoublySigned cs := by
  simp only [isFloating, Bool.or_eq_true, decide_eq_true_eq, isMagnitude_unsigned_iff]
  constructor
  · obtain ⟨sign, signed, begun⟩ := dropSign_split cs
    rintro ((nan | infinity) | ⟨again, body, signed', unsigned, rest⟩)
    · rw [begun, nan]
      exact .inl (.nan signed)
    · rw [begun, infinity]
      exact .inl (.infinity signed)
    · rw [begun, rest]
      rcases signed.cases_cons with rfl | ⟨first, front, rfl⟩
      · rw [List.nil_append]
        exact .inl (.number signed' unsigned)
      · rcases signed'.cases_cons with rfl | ⟨second, behind, rfl⟩
        · exact .inl (.number signed unsigned)
        · exact .inr (.intro front behind unsigned)
  · rintro (literal | doubly)
    · rcases literal.dropSign with nan | infinity | unsigned
      · exact .inl (.inl nan)
      · exact .inl (.inr infinity)
      · exact .inr ⟨[], dropSign cs, .none, unsigned, rfl⟩
    · cases doubly with
      | @intro first second body front again unsigned =>
        rw [dropSign_sign front]
        exact .inr ⟨[second], body, .of_char again, unsigned, rfl⟩

/-! ## Values -/

/-- The types of floating-point numbers, and what is said to be expected of their values. -/
def floatingTypes : List (String × String) :=
  [("float", "SRCFG00032: Expected a float value"),
    ("java.lang.Float", "SRCFG00032: Expected a float value"),
    ("double", "SRCFG00031: Expected a double value"),
    ("java.lang.Double", "SRCFG00031: Expected a double value")]

theorem target_of_floating {type expected : String}
    (floating : (type, expected) ∈ floatingTypes) : ∃ target, Target.ofType? type = some target ∧
      target.expectation = expected ∧ ∀ cs, target.admits cs = isFloating cs := by
  simp only [floatingTypes, List.mem_cons, Prod.mk.injEq, List.not_mem_nil, or_false] at floating
  rcases floating with ⟨rfl, rfl⟩ | ⟨rfl, rfl⟩ | ⟨rfl, rfl⟩ | ⟨rfl, rfl⟩
  · exact ⟨.float, by decide, rfl, fun _ => rfl⟩
  · exact ⟨.float, by decide, rfl, fun _ => rfl⟩
  · exact ⟨.double, by decide, rfl, fun _ => rfl⟩
  · exact ⟨.double, by decide, rfl, fun _ => rfl⟩

/-- **What is accepted as a floating-point number.** Blanks at the ends do not count, and a value of
blanks only is accepted. Any other value is accepted just when it is a literal or a number behind
two signs, which is no literal; else it is rejected, and the message quotes it without blanks. -/
theorem floating_value_accepted_iff (type expected : String)
    (floating : (type, expected) ∈ floatingTypes) (value : String) :
    let trimmed := Text.trim value
    (convert value type = .ok .accepted ↔
        trimmed = "" ∨ Literal trimmed.toList ∨ DoublySigned trimmed.toList) ∧
      (convert value type ≠ .ok .accepted →
        convert value type = .ok (.rejected (expected ++ ", got \"" ++ trimmed ++ "\""))) ∧
      ¬ (Literal trimmed.toList ∧ DoublySigned trimmed.toList) := by
  intro trimmed
  obtain ⟨target, found, expects, admits⟩ := target_of_floating floating
  obtain ⟨accepts, rejects⟩ := convert_of_target found value
  refine ⟨?_, ?_, ?_⟩
  · rw [accepts, admits, isFloating_iff]
  · intro refused
    rw [rejects refused, Target.rejection, expects]
  · rintro ⟨literal, doubly⟩
    exact doubly.not_literal literal

/-- A fraction with everything that a literal may have, between blanks. -/
theorem signed_fraction_accepted :
    ("java.lang.Float", "SRCFG00032: Expected a float value") ∈ floatingTypes ∧
      convert " -.5e+30F " "java.lang.Float" = .ok .accepted := by
  have floating : ("java.lang.Float", "SRCFG00032: Expected a float value") ∈ floatingTypes := by
    decide
  obtain ⟨accepts, -, -⟩ := floating_value_accepted_iff _ _ floating " -.5e+30F "
  have trimmed : Text.trim " -.5e+30F " = "-.5e+30F" := by decide +kernel
  have fraction : Mantissa ".5".toList := .fraction (isDigits_iff.mp rfl)
  have exponent : Exponent "e+30".toList := .some (.inl rfl) .plus (isDigits_iff.mp rfl)
  have letter : TypeLetter ['F'] := .some (by decide)
  have literal : Literal "-.5e+30F".toList := .number .minus (.intro fraction exponent letter)
  rw [trimmed] at accepts
  exact ⟨floating, accepts.mpr (.inr (.inl literal))⟩

/-- A minus behind a plus is accepted, though no literal has two signs. -/
theorem doubly_signed_value_accepted :
    convert "+-5" "double" = .ok .accepted ∧ Text.trim "+-5" ≠ "" ∧
      ¬ Literal (Text.trim "+-5").toList := by
  have trimmed : Text.trim "+-5" = "+-5" := by decide +kernel
  have digits : Digits ['5'] := isDigits_iff.mp rfl
  have doubly : DoublySigned "+-5".toList :=
    .intro (.inl rfl) (.inr rfl) (.intro (.whole digits) .none .none)
  refine ⟨rfl, by decide +kernel, ?_⟩
  rw [trimmed]
  exact doubly.not_literal

end TypedConfig.Standard
