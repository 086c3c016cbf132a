import TypedConfig.Session.Request

namespace TypedConfig.Session

/-- The signature that a request is about. -/
def Request.signature? : Request → Option String
  | .checkQuietly _ signature _ | .check _ signature _ | .validator signature => some signature
  | .available | .providerName | .reset => none

/-- A request, and the session that it found. -/
structure Visit where
  session : Session
  request : Request

namespace Visit

/-- The session that the request leaves. -/
def after (visit : Visit) : Session := (visit.session.perform visit.request).2

/-- The validator that the request is answered with, or that it checks its value with, under its
signature without blanks around it. There is none for a signature that fails or without a
capability. -/
def served? (visit : Visit) : Option (String × Instance) :=
  match visit.request.signature? with
  | none => none
  | some signature =>
    match (visit.session.validator signature).1 with
    | .ok (some kept) => some (Text.trim signature, kept)
    | .ok none | .error _ => none

end Visit

/-- Requests without a reset between them, the latest first. -/
abbrev Segment := List Visit

/-- The signatures that have got to a validator, without blanks around them, each as often as it
did. -/
def Segment.keys (segment : Segment) : List String :=
  segment.filterMap fun visit => visit.served?.map (·.1)

/-- All that was asked of a session: what was asked since the last reset, and the segments before,
the latest first. -/
structure Log where
  current : Segment := []
  earlier : List Segment := []

namespace Log

def segments (log : Log) : List Segment := log.current :: log.earlier

def add (log : Log) (visit : Visit) : Log :=
  match visit.request with
  | .reset => ⟨[], log.segments⟩
  | _ => ⟨visit :: log.current, log.earlier⟩

end Log

/-- The log goes on with more requests. -/
def record (session : Session) (log : Log) : List Request → Log
  | [] => log
  | request :: rest =>
    (session.perform request).2.record (log.add ⟨session, request⟩) rest

end TypedConfig.Session
