import TypedConfig.Descriptor.Json

namespace TypedConfig

/-! ## Literals -/

namespace Json

/-- The characters that have an escape of their own, with its letter. -/
def escapeLetters : List (Char × Char) :=
  [('"', '"'), ('\\', '\\'), ('\n', 'n'), ('\r', 'r'), ('\t', 't'), ('\x08', 'b'), ('\x0c', 'f')]

/-- A character has an escape of its own, is a control with two digits, or stands for itself. -/
theorem escapeChar_cases (c : Char) :
    (∃ letter, (c, letter) ∈ escapeLetters ∧ escapeChar c = ['\\', letter]) ∨
    (c.toNat < 0x20 ∧ escapeChar c =
      ['\\', 'u', '0', '0', Text.hexDigit (c.toNat / 16), Text.hexDigit (c.toNat % 16)]) ∨
    (c ≠ '"' ∧ c ≠ '\\' ∧ escapeChar c = [c]) := by
  by_cases listed : c ∈ escapeLetters.map Prod.fst
  · have each : ∀ escape ∈ escapeLetters, escapeChar escape.1 = ['\\', escape.2] := by decide
    obtain ⟨⟨d, letter⟩, among, rfl⟩ := List.mem_map.mp listed
    exact .inl ⟨letter, among, each _ among⟩
  · simp only [escapeLetters, List.map_cons, List.map_nil, List.mem_cons, List.not_mem_nil,
      or_false, not_or] at listed
    obtain ⟨quote, slash, others⟩ := listed
    by_cases control : c.toNat < 0x20
    · exact .inr (.inl ⟨control, by simp [escapeChar, quote, slash, others, control]⟩)
    · exact .inr (.inr ⟨quote, slash, by simp [escapeChar, quote, slash, others, control]⟩)

/-- What a digit of base 16 in lower case stands for. -/
def hexValue (c : Char) : Nat := if c.isDigit then c.toNat - 48 else c.toNat - 87

theorem hexValue_hexDigit {n : Nat} (small : n < 16) : hexValue (Text.hexDigit n) = n := by
  have each : ∀ n < 16, hexValue (Text.hexDigit n) = n := by decide
  exact each n small

/-- The first character of a literal's body, and what is behind its escape. -/
def readChar : List Char → Option (Char × List Char)
  | '\\' :: 'u' :: '0' :: '0' :: high :: low :: rest =>
    some (Char.ofNat (16 * hexValue high + hexValue low), rest)
  | '\\' :: letter :: rest =>
    (escapeLetters.find? fun escape => escape.2 = letter).map fun escape => (escape.1, rest)
  | c :: rest => some (c, rest)
  | [] => none

theorem readChar_escapeChar (c : Char) (rest : List Char) :
    readChar (escapeChar c ++ rest) = some (c, rest) := by
  rcases escapeChar_cases c with ⟨letter, listed, escaped⟩ | ⟨control, escaped⟩ |
    ⟨-, slash, escaped⟩ <;> rw [escaped]
  · have each : ∀ escape ∈ escapeLetters, escape.2 ≠ 'u' ∧
        escapeLetters.find? (fun other => other.2 = escape.2) = some escape := by decide
    obtain ⟨other, found⟩ := each _ listed
    simp [readChar, other, found]
  · have high := hexValue_hexDigit (n := c.toNat / 16) (by omega)
    have low := hexValue_hexDigit (n := c.toNat % 16) (by omega)
    have digits : 16 * (c.toNat / 16) + c.toNat % 16 = c.toNat := by omega
    simp [readChar, high, low, digits, Char.ofNat_toNat]
  · simp [readChar, slash]

theorem escapeChar_cancel {c d : Char} {rest rest' : List Char}
    (same : escapeChar c ++ rest = escapeChar d ++ rest') : c = d ∧ rest = rest' := by
  have read := readChar_escapeChar c rest
  rw [same, readChar_escapeChar] at read
  cases read
  exact ⟨rfl, rfl⟩

/-- A quote that is not escaped is no escape. -/
theorem escapeChar_ne_quote (c : Char) (rest rest' : List Char) :
    escapeChar c ++ rest ≠ '"' :: rest' := by
  rcases escapeChar_cases c with ⟨letter, -, escaped⟩ | ⟨-, escaped⟩ | ⟨quote, -, escaped⟩ <;>
    rw [escaped]
  · simp
  · simp
  · simp [quote]

/-- A literal tells its text, and where it ends. -/
theorem body_cancel {cs ds rest rest' : List Char}
    (same : cs.flatMap escapeChar ++ '"' :: rest = ds.flatMap escapeChar ++ '"' :: rest') :
    cs = ds ∧ rest = rest' := by
  induction cs generalizing ds with
  | nil =>
    cases ds with
    | nil => exact ⟨rfl, (List.cons.inj same).2⟩
    | cons d ds =>
      rw [List.flatMap_cons, List.append_assoc] at same
      exact absurd same.symm (escapeChar_ne_quote d _ _)
  | cons c cs ih =>
    cases ds with
    | nil =>
      rw [List.flatMap_cons, List.append_assoc] at same
      exact absurd same (escapeChar_ne_quote c _ _)
    | cons d ds =>
      simp only [List.flatMap_cons, List.append_assoc] at same
      obtain ⟨rfl, more⟩ := escapeChar_cancel same
      obtain ⟨rfl, rfl⟩ := ih more
      exact ⟨rfl, rfl⟩

theorem literal_cancel {s t : String} {rest rest' : List Char}
    (same : (literal s).toList ++ rest = (literal t).toList ++ rest') : s = t ∧ rest = rest' := by
  have bodies : s.toList.flatMap escapeChar ++ '"' :: rest =
      t.toList.flatMap escapeChar ++ '"' :: rest' := by
    simpa [literal] using same
  obtain ⟨chars, behind⟩ := body_cancel bodies
  exact ⟨String.toList_inj.mp chars, behind⟩

end Json

/-! ## Descriptors -/

namespace Descriptor

open Json (literal)

/-- What stands before a descriptor's name. -/
def heading : List Char := ("\x7b" ++ literal nameField ++ ":").toList

/-- What stands between a descriptor's name and its arguments. -/
def divider : List Char := ("," ++ literal argumentsField ++ ":[").toList

/-- What stands behind a descriptor's name. -/
def behindName : List Descriptor → List Char
  | [] => ['\x7d']
  | first :: rest =>
    divider ++ (Json.compactItems (toJsonAll (first :: rest))).toList ++ [']', '\x7d']

/-- The text of a descriptor tells its name, and where its arguments begin. -/
theorem behindName_of_compact {name name' : String} {ds es : List Descriptor}
    {rest rest' : List Char}
    (same : (toJson ⟨name, ds⟩).compact.toList ++ rest =
      (toJson ⟨name', es⟩).compact.toList ++ rest') :
    name = name' ∧ behindName ds ++ rest = behindName es ++ rest' := by
  have text (name : String) (arguments : List Descriptor) :
      (toJson ⟨name, arguments⟩).compact.toList =
        heading ++ ((literal name).toList ++ behindName arguments) := by
    cases arguments <;>
      simp [toJson, toJsonAll, Json.compact, Json.compactFields, heading, divider, behindName]
  simp only [text, List.append_assoc, List.append_cancel_left_eq] at same
  exact Json.literal_cancel same

/-- The character behind a name says whether there are arguments. -/
theorem behindName_ne (first : Descriptor) (others : List Descriptor) (rest rest' : List Char) :
    behindName [] ++ rest ≠ behindName (first :: others) ++ rest' := by
  have comma : divider = ',' :: divider.tail := by decide
  rw [behindName, behindName, comma]
  simp

theorem compactItems_single (d : Descriptor) :
    (Json.compactItems (toJsonAll [d])).toList = d.toJson.compact.toList := by
  simp [toJsonAll, Json.compactItems]

theorem compactItems_cons (d next : Descriptor) (rest : List Descriptor) :
    (Json.compactItems (toJsonAll (d :: next :: rest))).toList =
      d.toJson.compact.toList ++ ',' :: (Json.compactItems (toJsonAll (next :: rest))).toList := by
  simp [toJsonAll, Json.compactItems]

mutual

/-- The text of a descriptor tells it, and where it ends. -/
theorem compact_cancel : (d e : Descriptor) → ∀ {rest rest' : List Char},
    d.toJson.compact.toList ++ rest = e.toJson.compact.toList ++ rest' → d = e ∧ rest = rest'
  | ⟨name, []⟩, ⟨name', []⟩ => by
    intro same
    obtain ⟨rfl, behind⟩ := behindName_of_compact same
    exact ⟨rfl, (List.cons.inj behind).2⟩
  | ⟨name, []⟩, ⟨name', e :: es⟩ => by
    intro same
    exact absurd (behindName_of_compact same).2 (behindName_ne e es _ _)
  | ⟨name, d :: ds⟩, ⟨name', []⟩ => by
    intro same
    exact absurd (behindName_of_compact same).2.symm (behindName_ne d ds _ _)
  | ⟨name, d :: ds⟩, ⟨name', e :: es⟩ => by
    intro same
    obtain ⟨rfl, behind⟩ := behindName_of_compact same
    simp only [behindName, List.append_assoc, List.append_cancel_left_eq] at behind
    obtain ⟨arguments, ended⟩ := compactItems_cancel (d :: ds) (e :: es) (List.cons_ne_nil d ds)
      (List.cons_ne_nil e es) behind
    exact ⟨by rw [arguments], (List.cons.inj ended).2⟩

/-- The text of some descriptors tells each, up to the bracket behind them. -/
theorem compactItems_cancel : (ds es : List Descriptor) → ds ≠ [] → es ≠ [] →
    ∀ {rest rest' : List Char}, (Json.compactItems (toJsonAll ds)).toList ++ ']' :: rest =
      (Json.compactItems (toJsonAll es)).toList ++ ']' :: rest' → ds = es ∧ rest = rest'
  | [], _, nonempty, _ => absurd rfl nonempty
  | _ :: _, [], _, nonempty => absurd rfl nonempty
  | [d], [e], _, _ => by
    intro same
    rw [compactItems_single, compactItems_single] at same
    obtain ⟨rfl, behind⟩ := compact_cancel d e same
    exact ⟨rfl, (List.cons.inj behind).2⟩
  | [d], e :: next' :: others', _, _ => by
    intro same
    rw [compactItems_single, compactItems_cons, List.append_assoc] at same
    obtain ⟨-, behind⟩ := compact_cancel d e same
    simp at behind
  | d :: next :: others, [e], _, _ => by
    intro same
    rw [compactItems_single, compactItems_cons, List.append_assoc] at same
    obtain ⟨-, behind⟩ := compact_cancel d e same
    simp at behind
  | d :: next :: others, e :: next' :: others', _, _ => by
    intro same
    rw [compactItems_cons, compactItems_cons, List.append_assoc, List.append_assoc] at same
    obtain ⟨rfl, behind⟩ := compact_cancel d e same
    obtain ⟨arguments, ended⟩ := compactItems_cancel (next :: others) (next' :: others')
      (List.cons_ne_nil next others) (List.cons_ne_nil next' others') (List.cons.inj behind).2
    exact ⟨by rw [arguments], ended⟩

end

mutual

/-- A descriptor is read from the value that it was made into. -/
theorem ofJson?_toJson : (d : Descriptor) → ofJson? d.toJson = some d
  | ⟨name, []⟩ => by
    simp [toJson, ofJson?, readFields, Json.text?, Fields.withName?, Fields.descriptor?]
  | ⟨name, first :: rest⟩ => by
    have arguments := readItems_toJsonAll (first :: rest)
    rw [toJsonAll] at arguments
    have apart : argumentsField ≠ nameField := by decide
    simp [toJson, ofJson?, readFields, readArguments, arguments, apart, Json.text?,
      Fields.withName?, Fields.withArguments?, Fields.descriptor?]

theorem readItems_toJsonAll : (ds : List Descriptor) → readItems (toJsonAll ds) = some ds
  | [] => rfl
  | d :: ds => by
    simp [toJsonAll, readItems, ofJson?_toJson d, readItems_toJsonAll ds]

end

/-- **JSON loses nothing of a descriptor.** Whatever its names are and however deep it is, it is
read again from the value that it was made into, and no other descriptor has the same text. -/
theorem json_keeps_descriptors (d e : Descriptor) :
    ofJson? d.toJson = some d ∧ (d.toJson.compact = e.toJson.compact ↔ d = e) := by
  refine ⟨ofJson?_toJson d, ?_, ?_⟩
  · intro same
    have alone : d.toJson.compact.toList ++ [] = e.toJson.compact.toList ++ [] := by rw [same]
    exact (compact_cancel d e alone).1
  · intro same
    rw [same]

/-- Without its escape, the quote in the first name would end it. -/
example : (toJson ⟨"a\"", [.simple "\\\x01"]⟩).compact =
    "\x7b\"raw_name\":\"a\\\"\",\"type_arguments\":[\x7b\"raw_name\":\"\\\\\\u0001\"\x7d]\x7d" := by
  decide +kernel

end Descriptor

end TypedConfig
