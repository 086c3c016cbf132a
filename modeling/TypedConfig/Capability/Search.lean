import TypedConfig.Capability.Host

namespace TypedConfig

/-- The interface whose services are tried where nothing else is asked for. -/
def defaultInterface : String := "org.eclipse.microprofile.config.spi.ConfigProviderResolver"

/-- Where a session looks for a provider. -/
structure SearchPlan where
  wellKnown : List String
  /-- The interface whose services are tried after them. -/
  interface : String
  deriving DecidableEq, Repr

namespace SearchPlan

def tryEach : List Provider → Asking (Option Context)
  | [] => return none
  | provider :: rest => do
    match ← provider.askBuild with
    | .ok context => return some context
    | .error _ => tryEach rest

def tryNames (project : Project) : List String → Asking (Option Context)
  | [] => return none
  | name :: rest => do
    match ← project.askLoad name with
    | .ok (some provider) =>
      match ← provider.askBuild with
      | .ok context => return some context
      | .error _ => tryNames project rest
    | .ok none | .error _ => tryNames project rest

def tryServices (project : Project) (interface : String) : Asking (Option Context) := do
  match ← project.askScan interface with
  | .ok providers => tryEach providers
  | .error _ => return none

/-- The capability that the plan finds in a project, the first that is built. A call that fails or
crashes is passed over, as if there were nothing to find. -/
def search (plan : SearchPlan) (project : Project) : Asking (Option Context) := do
  match ← tryNames project plan.wellKnown with
  | some context => return some context
  | none => tryServices project plan.interface

end SearchPlan

end TypedConfig
