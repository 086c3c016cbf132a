import TypedConfig.Session.Request
import TypedConfig.Workspace

namespace TypedConfig.Workspace

inductive Action where
  /-- The project object with a number is opened. -/
  | openProject (object : Nat)
  | get (name : String)
  | closeProject (name : String)
  | typesChanged (name : String)
  /-- A request to the session at a place. -/
  | on (place : Nat) (request : Session.Request)

inductive Answer where
  | place (place : Option Nat)
  | changed (isOpen : Bool)
  /-- The answer of the session at a place, if there is one. -/
  | session (answer : Option Session.Answer)

/-- What comes to a session of a workspace. -/
inductive Input where
  | request (request : Session.Request)
  /-- Another session of the project object has made calls, and this is the object's history now. -/
  | heard (history : History)

def Input.request? : Input → Option Session.Request
  | request asked => some asked
  | heard _ => none

/-- A session alone, with the inputs that come to it one after the other. It says nothing to what it
hears. -/
def receive (session : Session) : List Input → List Session.Answer × Session
  | [] => ([], session)
  | .request request :: rest =>
    let (answer, session) := session.perform request
    let (answers, session) := receive session rest
    (answer :: answers, session)
  | .heard history :: rest => receive { session with history } rest

variable (objects : Nat → Project)

def perform (workspace : Workspace) : Action → Answer × Workspace
  | .openProject object =>
    let (place, workspace) := workspace.openProject (objects object) object
    (.place (some place), workspace)
  | .get name => (.place (workspace.get? name), workspace)
  | .closeProject name =>
    let (place, workspace) := workspace.closeProject name
    (.place place, workspace)
  | .typesChanged name =>
    let (isOpen, workspace) := workspace.typesChanged name
    (.changed isOpen, workspace)
  | .on place request =>
    let (answer, workspace) := workspace.onSession place fun session => session.perform request
    (.session answer, workspace)

def run (workspace : Workspace) : List Action → List Answer × Workspace
  | [] => ([], workspace)
  | action :: rest =>
    let (answer, workspace) := workspace.perform objects action
    let (answers, workspace) := workspace.run rest
    (answer :: answers, workspace)

/-- What an action brings to the session at a place: a request that is put to it, or word of one
that is put to another session of its project object. When the types of a project change, that is a
reset of the session that is open under its name then. -/
def inputsTo (workspace : Workspace) (place : Nat) : Action → List Input
  | .on other request =>
    match workspace.opened[other]?, workspace.opened[place]? with
    | some asked, some opened =>
      if other = place then [.request request]
      else if opened.object = asked.object then
        [.heard (asked.session.perform request).2.history]
      else []
    | _, _ => []
  | .typesChanged name => if workspace.get? name = some place then [.request .reset] else []
  | .openProject _ | .get _ | .closeProject _ => []

/-- What actions in order bring to the session at a place. -/
def allInputsTo (workspace : Workspace) (place : Nat) : List Action → List Input
  | [] => []
  | action :: rest =>
    workspace.inputsTo place action ++
      (workspace.perform objects action).2.allInputsTo place rest

/-- The requests that actions in order put to the session at a place. -/
def allRequestsTo (workspace : Workspace) (place : Nat) (actions : List Action) :
    List Session.Request :=
  (workspace.allInputsTo objects place actions).filterMap Input.request?

/-- What the session at a place says to the requests of an action that was answered. It is reset
without a word. -/
def answersFrom (workspace : Workspace) (place : Nat) : Action → Answer → List Session.Answer
  | .on other _, .session (some answer) => if other = place then [answer] else []
  | .typesChanged name, _ => if workspace.get? name = some place then [.done] else []
  | _, _ => []

/-- What the session at a place says in the answers to actions in order. -/
def allAnswersFrom (workspace : Workspace) (place : Nat) : List Action → List Session.Answer
  | [] => []
  | action :: rest =>
    let (answer, after) := workspace.perform objects action
    workspace.answersFrom place action answer ++ after.allAnswersFrom place rest

/-- The place that is open under a name after an action was answered, from the one before. -/
def openAfter (name : String) (before : Option Nat) : Action × Answer → Option Nat
  | (.openProject object, .place place) => if (objects object).name = name then place else before
  | (.closeProject closed, _) => if closed = name then none else before
  | _ => before

/-- No other session is for the project object of the session at a place. -/
def Unshared (workspace : Workspace) (place : Nat) : Prop :=
  ∀ other asked opened, workspace.opened[other]? = some asked →
    workspace.opened[place]? = some opened → asked.object = opened.object → other = place

end TypedConfig.Workspace
