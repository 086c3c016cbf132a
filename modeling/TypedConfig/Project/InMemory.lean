import TypedConfig.Capability.Search
import TypedConfig.Entries
import TypedConfig.Standard.Context
import TypedConfig.Text.Quoted

namespace TypedConfig

/-- Providers that are loaded by name, and the services of interfaces in the order in which they
were registered. -/
structure Registry where
  providers : List (String × Provider) := []
  services : List (String × List Provider) := []

namespace Registry

def get? (registry : Registry) (name : String) : Option Provider :=
  registry.providers.lookup name

def servicesOf (registry : Registry) (interface : String) : List Provider :=
  (registry.services.lookup interface).getD []

/-- A provider is put under its own name. -/
def register (registry : Registry) (provider : Provider) : Registry :=
  { registry with providers := Entries.put provider.name provider registry.providers }

/-- A provider becomes the last service of an interface. -/
def registerService (registry : Registry) (interface : String) (provider : Provider) :
    Registry :=
  { registry with
    services :=
      Entries.put interface (registry.servicesOf interface ++ [provider]) registry.services }

/-- Providers become services of interfaces, one after the other. -/
def registerServices (registry : Registry) (services : List (String × Provider)) : Registry :=
  services.foldl (fun registry (interface, provider) => registry.registerService interface provider)
    registry

def contains (registry : Registry) (name : String) : Bool := (registry.get? name).isSome

def names (registry : Registry) : List String := sortNames (registry.providers.map (·.1))

def size (registry : Registry) : Nat := registry.providers.length

def isEmpty (registry : Registry) : Bool :=
  registry.providers.isEmpty && registry.services.isEmpty

def inspect (registry : Registry) : String :=
  let providers := registry.names.map Text.quoted
  let services := registry.services.map fun (interface, found) =>
    "(" ++ Text.quoted interface ++ ", " ++ toString found.length ++ ")"
  "ProviderRegistry \x7b providers: [" ++ ", ".intercalate providers ++ "], services: [" ++
    ", ".intercalate services ++ "] \x7d"

end Registry

/-- A project that knows its types and providers itself. No type is listed twice. -/
structure InMemory where
  name : String
  types : List String := []
  registry : Registry := {}

namespace InMemory

/-- A type belongs to the project from now on. -/
def addType (project : InMemory) (type : String) : InMemory :=
  if type ∈ project.types then project
  else { project with types := project.types ++ [type] }

def addTypes (project : InMemory) (types : List String) : InMemory :=
  types.foldl addType project

/-- The types of every installation. -/
def baseTypes : List String :=
  ["java.lang.Object", "java.lang.String", "java.lang.CharSequence", "java.lang.Boolean",
    "java.lang.Byte", "java.lang.Short", "java.lang.Integer", "java.lang.Long",
    "java.lang.Float", "java.lang.Double", "java.lang.Character", "java.util.List",
    "java.util.Set", "java.util.Map", "java.util.Optional", "java.util.function.Supplier"]

/-- A project without types and providers. -/
def empty (name : String) : InMemory := { name }

/-- A project with the types of every installation and without providers. -/
def base (name : String) : InMemory := { name, types := baseTypes }

/-- The standard converters can be loaded by name and are found as a service of the default
interface. -/
def addStandard (project : InMemory) : InMemory :=
  { project with
    registry :=
      (project.registry.register Standard.provider).registerService defaultInterface
        Standard.provider }

/-- A project with the types of every installation and the standard converters. -/
def standard (name : String) : InMemory := (base name).addStandard

def typeNames (project : InMemory) : List String := sortNames project.types

/-- The project as a session sees it: its answers depend on nothing but the question. -/
def toProject (project : InMemory) : Project where
  name := project.name
  hasType _ type := .ok (project.types.contains type)
  load _ implementation := .ok (project.registry.get? implementation)
  scan _ interface := .ok (project.registry.servicesOf interface)

end InMemory

end TypedConfig
