/-!
The surroundings of a session: the project, the providers it offers and the conversion contexts
that they build.

None of them is ours, so each is known by its answers alone. An answer may depend on every call
that the session has made before, and the session keeps these calls in its history.
-/
namespace TypedConfig

/-- Code that is not ours stops in the middle of its work, with a message. -/
structure Crash where
  message : String
  deriving DecidableEq, Repr

/-- What a capability, or the search for one, reports as its failure. -/
inductive CapabilityError where
  | unavailable (provider : String)
  | build (provider reason : String)
  | conversion (type reason : String)
  | discovery (reason : String)
  /-- A crash that was caught during an operation. -/
  | crashed (operation message : String)
  deriving DecidableEq, Repr

def CapabilityError.message : CapabilityError → String
  | .unavailable provider => "capability provider " ++ provider ++ " is not available"
  | .build provider reason =>
    "provider " ++ provider ++ " could not build a conversion context: " ++ reason
  | .conversion type reason => "conversion to " ++ type ++ " failed unexpectedly: " ++ reason
  | .discovery reason => "provider discovery failed: " ++ reason
  | .crashed operation message => "capability panicked during " ++ operation ++ ": " ++ message

/-- A call that does not answer either reports a failure or crashes. -/
inductive Fault where
  | failed (error : CapabilityError)
  | crashed (crash : Crash)
  deriving DecidableEq, Repr

/-- A crash during an operation becomes an error like any other. -/
def Fault.contain (operation : String) : Fault → CapabilityError
  | .failed error => error
  | .crashed crash => .crashed operation crash.message

/-- A call that a session makes. A provider is told from another of its name by its serial
number. -/
inductive Call where
  | load (implementation : String)
  | scan (interface : String)
  | build (provider : String) (serial : Nat)
  | hasType (name : String)
  | supports (type : String)
  | convert (value type : String)
  deriving DecidableEq, Repr

/-- The calls made so far, the latest first. -/
abbrev History := List Call

/-- Work that makes calls: from the history before it, its result and the history after it. -/
abbrev Asking (α : Type) := StateM History α

/-- One call: it is answered from the history before it and then belongs to the history. -/
def ask {α : Type} (call : Call) (answer : History → α) : Asking α :=
  fun history => (answer history, call :: history)

/-- What becomes of a value that is converted. -/
inductive Conversion where
  | accepted
  | rejected (message : String)
  deriving DecidableEq, Repr

/-- What a capability offers: conversion of text to the types it knows. -/
structure Context where
  /-- The name of the provider that has built the context. -/
  provider : String
  supports : History → String → Except Crash Bool
  /-- Converts a value, given first, to a type. -/
  convert : History → String → String → Except Fault Conversion

/-- Something that can build a context. -/
structure Provider where
  name : String
  serial : Nat
  build : History → Except Fault Context

/-- The types of a project and the ways to its providers. -/
structure Project where
  name : String
  hasType : History → String → Except Crash Bool
  /-- The provider with an implementation's name; there may be none. -/
  load : History → String → Except Fault (Option Provider)
  /-- The providers of an interface, in the order in which they are tried. -/
  scan : History → String → Except Fault (List Provider)

namespace Context

def askSupports (context : Context) (type : String) : Asking (Except Crash Bool) :=
  ask (.supports type) fun history => context.supports history type

def askConvert (context : Context) (value type : String) : Asking (Except Fault Conversion) :=
  ask (.convert value type) fun history => context.convert history value type

end Context

def Provider.askBuild (provider : Provider) : Asking (Except Fault Context) :=
  ask (.build provider.name provider.serial) provider.build

namespace Project

def askHasType (project : Project) (name : String) : Asking (Except Crash Bool) :=
  ask (.hasType name) fun history => project.hasType history name

def askLoad (project : Project) (implementation : String) :
    Asking (Except Fault (Option Provider)) :=
  ask (.load implementation) fun history => project.load history implementation

def askScan (project : Project) (interface : String) : Asking (Except Fault (List Provider)) :=
  ask (.scan interface) fun history => project.scan history interface

end Project

/-! ## Steady surroundings

What they say to a question depends on the question and on what the last search for a capability has
left, and not on the questions that were asked since. What a search finds may depend on everything
before it. -/

/-- Whether a call only asks something; the others are made to find a capability. -/
def Call.isQuestion : Call → Bool
  | .hasType _ | .supports _ | .convert _ _ => true
  | .load _ | .scan _ | .build _ _ => false

/-- A history up to the last call of a search. It settles which context is in use. -/
def searched (history : History) : History := history.dropWhile Call.isQuestion

/-- A context answers the same question always in the same way. -/
structure Context.Steady (context : Context) : Prop where
  supports : ∀ h h' type, searched h = searched h' →
    context.supports h type = context.supports h' type
  convert : ∀ h h' value type, searched h = searched h' →
    context.convert h value type = context.convert h' value type

/-- Every context that a provider builds is steady. -/
def Provider.Steady (provider : Provider) : Prop :=
  ∀ h context, provider.build h = .ok context → context.Steady

/-- A project's types stay the same until a capability is looked for again, and its providers
build steady contexts. -/
structure Project.Steady (project : Project) : Prop where
  hasType : ∀ h h' name, searched h = searched h' → project.hasType h name = project.hasType h' name
  load : ∀ h name provider, project.load h name = .ok (some provider) → provider.Steady
  scan : ∀ h interface providers, project.scan h interface = .ok providers →
    ∀ provider ∈ providers, provider.Steady

end TypedConfig
