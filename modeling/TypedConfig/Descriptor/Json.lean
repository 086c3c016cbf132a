import TypedConfig.Descriptor.Basic
import TypedConfig.Json.Basic

namespace TypedConfig.Descriptor

abbrev nameField : String := "raw_name"

abbrev argumentsField : String := "type_arguments"

mutual

/-- A descriptor as JSON; the arguments are left out when there are none. -/
def toJson : Descriptor → Json
  | ⟨name, []⟩ => .object [(nameField, .string name)]
  | ⟨name, first :: rest⟩ =>
    .object [(nameField, .string name), (argumentsField, .array (toJson first :: toJsonAll rest))]

def toJsonAll : List Descriptor → List Json
  | [] => []
  | d :: ds => toJson d :: toJsonAll ds

end

/-- The fields of a descriptor that have been read so far. -/
structure Fields where
  name : Option String := none
  arguments : Option (List Descriptor) := none

/-- The descriptor, once its name is known. -/
def Fields.descriptor? (fields : Fields) : Option Descriptor :=
  fields.name.map fun name => ⟨name, fields.arguments.getD []⟩

/-- A name that is given for the first time. -/
def Fields.withName? (fields : Fields) (name : String) : Option Fields :=
  if fields.name.isSome then none else some { fields with name := some name }

/-- Arguments that are given for the first time. -/
def Fields.withArguments? (fields : Fields) (arguments : List Descriptor) : Option Fields :=
  if fields.arguments.isSome then none else some { fields with arguments := some arguments }

mutual

/-- Reads a descriptor: an object, which may have further fields, or an array of the name and
perhaps the arguments. -/
def ofJson? : Json → Option Descriptor
  | .object fields => (readFields {} fields).bind Fields.descriptor?
  | .array [.string name] => some (simple name)
  | .array [.string name, arguments] => (readArguments arguments).map fun ds => ⟨name, ds⟩
  | _ => none

def readArguments : Json → Option (List Descriptor)
  | .array items => readItems items
  | _ => none

def readItems : List Json → Option (List Descriptor)
  | [] => some []
  | item :: rest => do return (← ofJson? item) :: (← readItems rest)

/-- Reads an object's fields in order. A field may be given once; one that is not known is passed
over. -/
def readFields (seen : Fields) : List (String × Json) → Option Fields
  | [] => some seen
  | (field, value) :: rest =>
    if field = nameField then do
      readFields (← seen.withName? (← value.text?)) rest
    else if field = argumentsField then do
      readFields (← seen.withArguments? (← readArguments value)) rest
    else readFields seen rest

end

end TypedConfig.Descriptor
