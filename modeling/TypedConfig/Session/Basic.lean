import TypedConfig.Cache
import TypedConfig.Capability.Search
import TypedConfig.Resolution
import TypedConfig.Signature.Reader
/-!
Sessions: values are checked against signatures, for one project.

A session looks for a conversion capability when it first needs one, and keeps what it finds, or
that it found nothing, until it is reset. Validators are kept as long as the capability.
-/
namespace TypedConfig

/-- A session's name, where it looks for a capability, and how it makes diagnostics. -/
structure Session.Settings where
  name : String := "default"
  wellKnown : List String := ["io.smallrye.config.SmallRyeConfigProviderResolver"]
  interface : String := defaultInterface
  source : String := "typeconv"
  code : String := "value"
  overflow : Overflow := .wraps
  deriving DecidableEq, Repr

namespace Session.Settings

def named (name : String) : Settings := { name }

def plan (settings : Settings) : SearchPlan := ⟨settings.wellKnown, settings.interface⟩

def marking (settings : Settings) : Marking :=
  { source := settings.source, code := settings.code, overflow := settings.overflow }

end Session.Settings

/-- Why a value cannot be checked. -/
inductive CheckError where
  | malformed (error : Signature.SyntaxError)
  | unknownType (name : String)
  | capability (error : CapabilityError)
  deriving DecidableEq, Repr

namespace CheckError

def message : CheckError → String
  | .malformed error => error.render
  | .unknownType name => "unknown type: " ++ name
  | .capability error => "capability failed during resolution: " ++ error.message

/-- A descriptor has no validator. -/
def ofResolution : Resolution.Failure → CheckError
  | .unknownType name => .unknownType name
  | .crashed crash => .capability (Fault.contain "resolve" (.crashed crash))

/-- A conversion did not answer. -/
def ofConversion (fault : Fault) : CheckError := .capability (fault.contain "convert")

end CheckError

/-- The validator of a signature's text. -/
def resolveSignature (project : Project) (context : Context) (signature : String) :
    Asking (Except CheckError Validator) :=
  match Signature.parse signature with
  | .error error => return .error (.malformed error)
  | .ok descriptor => do
    return (← (Resolution.resolve project (some context) descriptor).run).mapError
      CheckError.ofResolution

/-- What a session knows about the capability. -/
inductive Handle where
  | unsought
  | missing
  | found (context : Context)

namespace Handle

def ofSearch : Option Context → Handle
  | none => missing
  | some context => found context

def context? : Handle → Option Context
  | found context => some context
  | unsought | missing => none

def isResolved : Handle → Bool
  | unsought => false
  | missing | found _ => true

end Handle

/-- One project's validation: what is known, what is kept, and the calls that were made. -/
structure Session where
  project : Project
  settings : Session.Settings
  handle : Handle := .unsought
  /-- How often a capability was looked for. -/
  searches : Nat := 0
  cache : Cache := {}
  history : History := []

namespace Session

/-- A session that has done nothing yet. -/
def new (project : Project) (settings : Settings) : Session := { project, settings }

/-- The capability, which is looked for if that has not been done. -/
def capability (session : Session) : Option Context × Session :=
  match session.handle with
  | .unsought =>
    let (found, history) := session.settings.plan.search session.project session.history
    (found,
      { session with
        handle := .ofSearch found
        searches := session.searches + 1
        history })
  | .missing => (none, session)
  | .found context => (some context, session)

/-- The builder of a signature's validator, which leaves the cache alone. -/
def builder (project : Project) (context : Context) (signature : String) :
    Cache × History → Except CheckError Validator × Cache × History :=
  fun (cache, history) =>
    let (built, history) := resolveSignature project context signature history
    (built, cache, history)

/-- The validator for a signature: the one that is kept, or else one that is built with the
capability. Without a capability there is none, and the signature is not even read. -/
def validator (session : Session) (signature : String) :
    Except CheckError (Option Instance) × Session :=
  match session.cache.get? signature with
  | some kept => (.ok (some kept), session)
  | none =>
    match session.capability with
    | (none, session) => (.ok none, session)
    | (some context, session) =>
      let (answer, cache, history) :=
        Cache.provideAt session.cache.epoch signature
          (builder session.project context signature) (session.cache, session.history)
      (answer.map some, { session with cache, history })

/-- Checks a value whose first character stands at `start`. Its diagnostics go behind those that
are `collected` already, but only once the whole value has been checked. -/
def check (session : Session) (value signature : String) (start : Nat)
    (collected : List Diagnostic) : (Except CheckError Unit × List Diagnostic) × Session :=
  match session.validator signature with
  | (.error error, session) => ((.error error, collected), session)
  | (.ok none, session) => ((.ok (), collected), session)
  | (.ok (some kept), session) =>
    let (report, history) :=
      kept.validator.check session.settings.marking value start session.history
    let session := { session with history }
    match report.outcome with
    | .error fault => ((.error (.ofConversion fault), collected), session)
    | .ok () => ((.ok (), collected ++ report.diagnostics), session)

/-- Checks a value and says nothing about why it could not be done. -/
def checkQuietly (session : Session) (value signature : String) (start : Nat)
    (collected : List Diagnostic) : List Diagnostic × Session :=
  let ((_, collected), session) := session.check value signature start collected
  (collected, session)

/-- Whether there is a capability, which is looked for if that has not been done. -/
def available (session : Session) : Bool × Session :=
  let (found, session) := session.capability
  (found.isSome, session)

def providerName (session : Session) : Option String × Session :=
  let (found, session) := session.capability
  (found.map Context.provider, session)

/-- The capability and every validator are forgotten. -/
def reset (session : Session) : Session :=
  { session with handle := .unsought, cache := session.cache.clear }

def inspect (session : Session) : String :=
  let provider := match session.handle.context? with
    | none => "None"
    | some context => "Some(" ++ Text.quoted context.provider ++ ")"
  "CapabilityBridge \x7b project: " ++ Text.quoted session.project.name ++ ", resolved: " ++
    (if session.handle.isResolved then "true" else "false") ++ ", provider: " ++ provider ++
    ", cached_validators: " ++ toString session.cache.size ++ " \x7d"

end Session

end TypedConfig
