import TypedConfig.Session.Basic
/-!
The sessions of all open projects, by the projects' names.

A session that has been handed out stays usable when its project is closed; a project that is
opened again under the name gets a session of its own. A project object that is opened again brings
the same providers into its new session, so all that was called on it is known there.
-/
namespace TypedConfig

/-- A session that was handed out, and the number of the project object that it is for. -/
structure Opened where
  session : Session
  object : Nat

/-- Calls were made to a project object: they are in the history of each session that is for it. -/
def Opened.hear (object : Nat) (history : History) (opened : Opened) : Opened :=
  if opened.object = object then { opened with session := { opened.session with history } }
  else opened

/-- Every session that was handed out, in order, and for each open project's name the place of
its session. -/
structure Workspace where
  settings : Session.Settings
  opened : List Opened := []
  live : List (String × Nat) := []

namespace Workspace

def new (settings : Session.Settings) : Workspace := { settings }

def sessions (workspace : Workspace) : List Session := workspace.opened.map Opened.session

/-- The place of an open project's session. -/
def get? (workspace : Workspace) (name : String) : Option Nat := workspace.live.lookup name

/-- How the session of a project is set up: its name says which project it is for. -/
def settingsFor (workspace : Workspace) (name : String) : Session.Settings :=
  { workspace.settings with name := workspace.settings.name ++ ":" ++ name }

/-- The calls that were made to a project object. -/
def historyOf (workspace : Workspace) (object : Nat) : History :=
  match workspace.opened.find? fun opened => opened.object = object with
  | some opened => opened.session.history
  | none => []

/-- A session for a project object that has done nothing yet. -/
def sessionFor (workspace : Workspace) (project : Project) (object : Nat) : Session :=
  { Session.new project (workspace.settingsFor project.name) with
    history := workspace.historyOf object }

/-- The place of a project's session. The first one of its name to be opened is the one that
the session is for. A project object without a number is taken to be a new one, and is numbered by
the place of its session. -/
def openProject (workspace : Workspace) (project : Project)
    (object : Nat := workspace.opened.length) : Nat × Workspace :=
  match workspace.get? project.name with
  | some place => (place, workspace)
  | none =>
    let place := workspace.opened.length
    (place,
      { workspace with
        opened := workspace.opened ++ [⟨workspace.sessionFor project object, object⟩]
        live := workspace.live ++ [(project.name, place)] })

/-- Work in one session; none, if there is no session at the place. The other sessions of its
project object hear of the calls. -/
def onSession {α : Type} (workspace : Workspace) (place : Nat) (work : Session → α × Session) :
    Option α × Workspace :=
  match workspace.opened[place]? with
  | none => (none, workspace)
  | some ⟨session, object⟩ =>
    let (answer, session) := work session
    (some answer,
      { workspace with
        opened :=
          (workspace.opened.map (Opened.hear object session.history)).set place ⟨session, object⟩ })

/-- The types of an open project have changed: its session is reset, which calls nothing. Says
whether it is open. -/
def typesChanged (workspace : Workspace) (name : String) : Bool × Workspace :=
  match workspace.get? name with
  | none => (false, workspace)
  | some place =>
    (true,
      { workspace with
        opened := workspace.opened.modify place fun opened =>
          { opened with session := opened.session.reset } })

/-- A project is closed. Answers with the place of its session. -/
def closeProject (workspace : Workspace) (name : String) : Option Nat × Workspace :=
  (workspace.get? name, { workspace with live := workspace.live.filter (·.1 ≠ name) })

def names (workspace : Workspace) : List String := sortNames (workspace.live.map (·.1))

end Workspace

end TypedConfig
