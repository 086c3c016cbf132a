import Mathlib.Algebra.Order.Ring.Int
import Mathlib.Tactic.Ring
import TypedConfig.Proofs.Literals

/-!
Whole numbers as values. The reader goes through the digits from the left and makes ten of one at
each step, which comes to what the places of the digits say. It reads every number as one of 64
bits before it looks at the width that is asked for; no width is larger, so nothing is lost by that.
-/
namespace TypedConfig.Standard

/-! ## Numbers as they are written -/

/-- Reading digits behind others shifts these by as many places. -/
theorem digitsFrom_eq (before : Nat) (ds : List Char) :
    digitsFrom before ds = before * 10 ^ ds.length + placeValue ds := by
  induction ds generalizing before with
  | nil => simp [digitsFrom, placeValue]
  | cons d ds ih =>
    have step : digitsFrom before (d :: ds) =
        digitsFrom (10 * before + (d.toNat - '0'.toNat)) ds := rfl
    rw [step, ih, placeValue, List.length_cons, pow_succ]
    ring

theorem digitsFrom_zero (ds : List Char) : digitsFrom 0 ds = placeValue ds := by
  rw [digitsFrom_eq, Nat.zero_mul, Nat.zero_add]

theorem natural?_of_digits {ds : List Char} (digits : Digits ds) :
    natural? ds = some (placeValue ds) := by
  have read : (!ds.isEmpty && ds.all Char.isDigit) = true := isDigits_iff.mpr digits
  rw [natural?, if_pos read, digitsFrom_zero]

theorem digits_of_natural? {ds : List Char} {n : Nat} (read : natural? ds = some n) :
    Digits ds ∧ placeValue ds = n := by
  unfold natural? at read
  split at read
  · rename_i digits
    cases read
    exact ⟨isDigits_iff.mp digits, (digitsFrom_zero ds).symm⟩
  · cases read

theorem integer?_of_unheaded {ds : List Char} (unheaded : Unheaded ds) :
    integer? ds = (natural? ds).map fun n : Nat => (n : Int) := by
  unfold integer?
  split
  · exact absurd rfl (unheaded '-' _ rfl).2
  · exact absurd rfl (unheaded '+' _ rfl).1
  · rfl

/-- What is read of a text is the number that it denotes. -/
theorem integer?_eq_some_iff {cs : List Char} {n : Int} : integer? cs = some n ↔ Denotes cs n := by
  constructor
  · intro read
    unfold integer? at read
    split at read <;> obtain ⟨m, magnitude, rfl⟩ := Option.map_eq_some_iff.mp read <;>
      obtain ⟨digits, rfl⟩ := digits_of_natural? magnitude
    · exact .minus digits
    · exact .plus digits
    · exact .plain digits
  · intro denotes
    cases denotes with
    | plain digits =>
      have unheaded : Unheaded cs := by simpa using digits.unheaded []
      rw [integer?_of_unheaded unheaded, natural?_of_digits digits]
      rfl
    | plus digits =>
      rw [integer?, natural?_of_digits digits]
      rfl
    | minus digits =>
      rw [integer?, natural?_of_digits digits]
      rfl

/-! ## Widths -/

theorem fitsBits_iff {bits : Nat} {n : Int} :
    fitsBits bits n = true ↔ -2 ^ (bits - 1) ≤ n ∧ n ≤ 2 ^ (bits - 1) - 1 := by
  simp [fitsBits]

theorem fitsBits_mono {bits more : Nat} (wider : bits ≤ more) {n : Int}
    (fits : fitsBits bits n = true) : fitsBits more n = true := by
  obtain ⟨low, high⟩ := fitsBits_iff.mp fits
  have grows : (2 : Int) ^ (bits - 1) ≤ 2 ^ (more - 1) := by
    apply pow_le_pow_right₀ (by decide)
    omega
  exact fitsBits_iff.mpr ⟨by omega, by omega⟩

theorem Width.bits_le (width : Width) : width.bits ≤ 64 := by
  cases width <;> decide

/-- Reading a number as one of 64 bits first makes no difference. -/
theorem admits_integral_iff {width : Width} {cs : List Char} :
    (Target.integral width).admits cs = true ↔
      ∃ n, Denotes cs n ∧ fitsBits width.bits n = true := by
  simp only [Target.admits, long?, Option.any_eq_true, Option.filter_eq_some_iff,
    integer?_eq_some_iff]
  constructor
  · rintro ⟨n, ⟨denotes, -⟩, fits⟩
    exact ⟨n, denotes, fits⟩
  · rintro ⟨n, denotes, fits⟩
    exact ⟨n, ⟨denotes, fitsBits_mono width.bits_le fits⟩, fits⟩

/-! ## Values -/

/-- The types of whole numbers, with the bits that their numbers have and what is said to be
expected of their values. -/
def integralTypes : List (String × Nat × String) :=
  [("byte", 8, "SRCFG00029: Expected an integer value"),
    ("java.lang.Byte", 8, "SRCFG00029: Expected an integer value"),
    ("short", 16, "SRCFG00029: Expected an integer value"),
    ("java.lang.Short", 16, "SRCFG00029: Expected an integer value"),
    ("int", 32, "SRCFG00029: Expected an integer value"),
    ("java.lang.Integer", 32, "SRCFG00029: Expected an integer value"),
    ("long", 64, "SRCFG00030: Expected a long value"),
    ("java.lang.Long", 64, "SRCFG00030: Expected a long value")]

theorem target_of_integral {type expected : String} {bits : Nat}
    (integral : (type, bits, expected) ∈ integralTypes) :
    ∃ width : Width, Target.ofType? type = some (.integral width) ∧ width.bits = bits ∧
      (Target.integral width).expectation = expected := by
  simp only [integralTypes, List.mem_cons, Prod.mk.injEq, List.not_mem_nil, or_false] at integral
  rcases integral with ⟨rfl, rfl, rfl⟩ | ⟨rfl, rfl, rfl⟩ | ⟨rfl, rfl, rfl⟩ | ⟨rfl, rfl, rfl⟩ |
    ⟨rfl, rfl, rfl⟩ | ⟨rfl, rfl, rfl⟩ | ⟨rfl, rfl, rfl⟩ | ⟨rfl, rfl, rfl⟩
  · exact ⟨.byte, by decide, rfl, rfl⟩
  · exact ⟨.byte, by decide, rfl, rfl⟩
  · exact ⟨.short, by decide, rfl, rfl⟩
  · exact ⟨.short, by decide, rfl, rfl⟩
  · exact ⟨.int, by decide, rfl, rfl⟩
  · exact ⟨.int, by decide, rfl, rfl⟩
  · exact ⟨.long, by decide, rfl, rfl⟩
  · exact ⟨.long, by decide, rfl, rfl⟩

/-- **What is accepted as a whole number.** Blanks at the ends do not count, and a value of blanks
only is accepted. Any other value is accepted just when it is digits behind one sign or none and the
number that it denotes, which may have any size, lies within the two's complement of the type's
bits; else it is rejected, and the message quotes it without the blanks. -/
theorem integral_value_accepted_iff (type expected : String) (bits : Nat)
    (integral : (type, bits, expected) ∈ integralTypes) (value : String) :
    let trimmed := Text.trim value
    (convert value type = .ok .accepted ↔
        trimmed = "" ∨ ∃ n : Int, Denotes trimmed.toList n ∧
          -2 ^ (bits - 1) ≤ n ∧ n ≤ 2 ^ (bits - 1) - 1) ∧
      (convert value type ≠ .ok .accepted →
        convert value type = .ok (.rejected (expected ++ ", got \"" ++ trimmed ++ "\""))) := by
  intro trimmed
  obtain ⟨width, found, rfl, expects⟩ := target_of_integral integral
  obtain ⟨accepts, rejects⟩ := convert_of_target found value
  constructor
  · simp only [accepts, admits_integral_iff, fitsBits_iff]
    rfl
  · intro refused
    rw [rejects refused, Target.rejection, expects]

/-- The least number of a byte is accepted behind zeros, and between blanks outside of ASCII. The
number of its size above zero is rejected. -/
theorem byte_ends_at_128 :
    ("byte", 8, "SRCFG00029: Expected an integer value") ∈ integralTypes ∧
      convert "\u2003-00128\u00a0" "byte" = .ok .accepted ∧
      convert " +128" "byte" =
        .ok (.rejected "SRCFG00029: Expected an integer value, got \"+128\"") := by
  have integral : ("byte", 8, "SRCFG00029: Expected an integer value") ∈ integralTypes := by decide
  obtain ⟨least, -⟩ := integral_value_accepted_iff _ _ _ integral "\u2003-00128\u00a0"
  obtain ⟨above, refused⟩ := integral_value_accepted_iff _ _ _ integral " +128"
  have trimmed : Text.trim "\u2003-00128\u00a0" = "-00128" := by decide +kernel
  have trimmed' : Text.trim " +128" = "+128" := by decide +kernel
  rw [trimmed] at least
  rw [trimmed'] at above refused
  have denotes : Denotes "-00128".toList (-128) := .minus (isDigits_iff.mp rfl)
  refine ⟨integral, least.mpr (.inr ⟨_, denotes, by decide, by decide⟩), ?_⟩
  apply refused
  intro accepted
  rcases above.mp accepted with empty | ⟨n, denotes, -, high⟩
  · exact absurd empty (by decide)
  · have read := integer?_eq_some_iff.mpr denotes
    have value : integer? "+128".toList = some 128 := by decide +kernel
    obtain rfl : 128 = n := Option.some.inj (value.symm.trans read)
    exact absurd high (by decide)

end TypedConfig.Standard
