import TypedConfig.Capability.Host
import TypedConfig.Standard.Numeral
import TypedConfig.Text.Basic

namespace TypedConfig.Standard

def providerName : String := "typeconv.StandardConverters"

inductive Width where
  | byte
  | short
  | int
  | long
  deriving DecidableEq, Repr

def Width.bits : Width → Nat
  | byte => 8
  | short => 16
  | int => 32
  | long => 64

/-- What a value may be converted to. -/
inductive Target where
  /-- Every text is a value. -/
  | text
  | integral (width : Width)
  | float
  | double
  | character
  deriving DecidableEq, Repr

namespace Target

/-- The types that are known, with what they stand for. -/
def table : List (String × Target) :=
  [("java.lang.String", text), ("java.lang.CharSequence", text), ("java.lang.Object", text),
    ("boolean", text), ("java.lang.Boolean", text),
    ("byte", integral .byte), ("java.lang.Byte", integral .byte),
    ("short", integral .short), ("java.lang.Short", integral .short),
    ("int", integral .int), ("java.lang.Integer", integral .int),
    ("long", integral .long), ("java.lang.Long", integral .long),
    ("float", float), ("java.lang.Float", float),
    ("double", double), ("java.lang.Double", double),
    ("char", character), ("java.lang.Character", character)]

/-- What a type's name stands for. -/
def ofType? (type : String) : Option Target := table.lookup type

/-- Whether a text without blanks at its ends, which is not empty, is a value. -/
def admits : Target → List Char → Bool
  | text, _ => true
  | integral width, cs => (long? cs).any (fitsBits width.bits)
  | float, cs | double, cs => isFloating cs
  | character, cs => cs.length = 1

/-- What is said to be expected of a value; nothing, where every text is one. -/
def expectation : Target → String
  | text => ""
  | integral .long => "SRCFG00030: Expected a long value"
  | integral _ => "SRCFG00029: Expected an integer value"
  | double => "SRCFG00031: Expected a double value"
  | float => "SRCFG00032: Expected a float value"
  | character => "SRCFG00033: Expected a char value"

/-- The message that rejects a text without blanks at its ends. -/
def rejection (target : Target) (trimmed : String) : String :=
  target.expectation ++ ", got \"" ++ trimmed ++ "\""

/-- Blanks around a value do not count, and a value of blanks only is no value, which every type
accepts. -/
def convert (target : Target) (value : String) : Conversion :=
  let trimmed := Text.dropBlanks value.toList
  if trimmed.isEmpty || target.admits trimmed then .accepted
  else .rejected (target.rejection (String.ofList trimmed))

end Target

/-- Converts a value to a type, which has to be known. -/
def convert (value type : String) : Except Fault Conversion :=
  match Target.ofType? type with
  | some target => .ok (target.convert value)
  | none => .error (.failed (.conversion type "no converter registered"))

/-- What a value comes to for a type that is known. -/
theorem convert_of_target {type : String} {target : Target}
    (found : Target.ofType? type = some target) (value : String) :
    let trimmed := Text.trim value
    (convert value type = .ok .accepted ↔
        trimmed = "" ∨ target.admits trimmed.toList = true) ∧
      (convert value type ≠ .ok .accepted →
        convert value type = .ok (.rejected (target.rejection trimmed))) := by
  intro trimmed
  have letters : trimmed.toList = Text.dropBlanks value.toList := String.toList_ofList
  have nothing : trimmed = "" ↔ (Text.dropBlanks value.toList).isEmpty = true := by
    rw [← letters, List.isEmpty_iff, String.toList_eq_nil_iff]
  rw [nothing, letters, ← Bool.or_eq_true]
  simp only [convert, found, Target.convert]
  split
  · rename_i accepted
    exact ⟨iff_of_true rfl accepted, fun refused => absurd rfl refused⟩
  · rename_i refused
    refine ⟨iff_of_false ?_ refused, fun _ => rfl⟩
    rintro ⟨⟩

def supports (type : String) : Bool := (Target.ofType? type).isSome

/-- The standard context. Its answers depend on nothing but the question. -/
def context : Context where
  provider := providerName
  supports _ type := .ok (supports type)
  convert _ value type := convert value type

/-- The provider of the standard context, which never fails to build it. -/
def provider : Provider where
  name := providerName
  serial := 0
  build _ := .ok context

end TypedConfig.Standard
