import TypedConfig.Descriptor.Basic
import TypedConfig.Validator.Basic
/-!
From a type to its validator.

Every type that a descriptor names has to exist, in the project or as a primitive. The names are
asked for in the order in which they are written, and only what a value can show is kept of the
descriptor's structure.
-/
namespace TypedConfig

/-- What a type is to a reader of configuration values. -/
inductive Shape where
  | array
  | collection
  | map
  | optional
  | supplier
  | scalar
  deriving DecidableEq, Repr

namespace Shape

/-- The collections of one element type. -/
def collectionNames : List String := ["java.util.List", "java.util.Set"]

/-- The wrapper of a value that may be absent. -/
def optionalName : String := "java.util.Optional"

/-- The wrappers of a value that is made when it is asked for. -/
def supplierNames : List String :=
  ["java.util.function.Supplier", "jakarta.inject.Provider", "javax.inject.Provider"]

def mapName : String := "java.util.Map"

/-- The shape of a type with a name and a number of arguments that is no array. -/
def ofGeneric (name : String) (arity : Nat) : Shape :=
  if arity = 1 then
    if name ∈ collectionNames then collection
    else if name = optionalName then optional
    else if name ∈ supplierNames then supplier
    else scalar
  else if arity = 2 && name = mapName then map
  else scalar

/-- The shape of a type; a known name with another number of arguments is a scalar. -/
def of (d : Descriptor) : Shape :=
  if d.isArray then array else ofGeneric d.name d.arity

def name : Shape → String
  | array => "Array"
  | collection => "Collection"
  | map => "Map"
  | optional => "Optional"
  | supplier => "Supplier"
  | scalar => "Scalar"

end Shape

namespace Resolution

/-- The types that exist in every project. -/
def primitives : List String :=
  ["boolean", "byte", "short", "int", "long", "float", "double", "char"]

/-- Why a descriptor has no validator. -/
inductive Failure where
  | unknownType (name : String)
  | crashed (crash : Crash)
  deriving DecidableEq, Repr

/-- Work that asks the surroundings and may fail. -/
abbrev Resolving (α : Type) := ExceptT Failure (StateM History) α

/-- A question that is answered or crashes. -/
def orCrash {α : Type} (question : Asking (Except Crash α)) : Resolving α :=
  ExceptT.mk do return (← question).mapError .crashed

def require (project : Project) (name : String) : Resolving Unit := do
  unless name ∈ primitives do
    unless ← orCrash (project.askHasType name) do
      throw (.unknownType name)

/-- The context is bound to a leaf if it can convert to its type. -/
def bindContext (context : Option Context) (type : String) : Resolving (Option Context) := do
  match context with
  | none => return none
  | some context =>
    return if ← orCrash (context.askSupports type) then some context else none

/-- A value that is converted as a whole. -/
def scalar (context : Option Context) (type : String) : Resolving Validator := do
  return .scalar type (← bindContext context type)

/-- A type without arguments: an array of arrays of a named type, or just this type. -/
def resolveName (project : Project) (context : Option Context) (name : String) :
    Resolving Validator := do
  let (depth, base) := Descriptor.peel name
  require project base
  return (← scalar context base).nest depth

/-- A type with arguments, once its arguments have validators. -/
def combine (context : Option Context) (name : String) (arguments : List Validator) :
    Resolving Validator :=
  match Shape.ofGeneric name arguments.length, arguments with
  | .collection, argument :: _ => return .collection argument
  | .optional, argument :: _ => return .optional argument
  | .supplier, argument :: _ => return argument
  | .map, key :: _ => return key
  | _, _ => scalar context name

mutual

def resolve (project : Project) (context : Option Context) : Descriptor → Resolving Validator
  | ⟨name, []⟩ => resolveName project context name
  | ⟨name, first :: rest⟩ => do
    require project name
    let argument ← resolve project context first
    let arguments ← resolveAll project context rest
    combine context name (argument :: arguments)

def resolveAll (project : Project) (context : Option Context) :
    List Descriptor → Resolving (List Validator)
  | [] => return []
  | d :: ds => do
    let argument ← resolve project context d
    let arguments ← resolveAll project context ds
    return argument :: arguments

end

end Resolution

end TypedConfig
