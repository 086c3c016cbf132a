import TypedConfig.Session.Basic

namespace TypedConfig.Session

inductive Request where
  | checkQuietly (value signature : String) (start : Nat)
  | check (value signature : String) (start : Nat)
  | validator (signature : String)
  | available
  | providerName
  | reset
  deriving DecidableEq, Repr

inductive Answer where
  | diagnostics (collected : List Diagnostic)
  | checked (outcome : Except CheckError Unit) (collected : List Diagnostic)
  | validator (answer : Except CheckError (Option Instance))
  | available (answer : Bool)
  | provider (name : Option String)
  | done

def perform (session : Session) : Request → Answer × Session
  | .checkQuietly value signature start =>
    let (collected, session) := session.checkQuietly value signature start []
    (.diagnostics collected, session)
  | .check value signature start =>
    let ((outcome, collected), session) := session.check value signature start []
    (.checked outcome collected, session)
  | .validator signature =>
    let (answer, session) := session.validator signature
    (.validator answer, session)
  | .available =>
    let (answer, session) := session.available
    (.available answer, session)
  | .providerName =>
    let (name, session) := session.providerName
    (.provider name, session)
  | .reset => (.done, session.reset)

def run (session : Session) : List Request → List Answer × Session
  | [] => ([], session)
  | request :: rest =>
    let (answer, session) := session.perform request
    let (answers, session) := session.run rest
    (answer :: answers, session)

theorem run_append (session : Session) (requests more : List Request) :
    session.run (requests ++ more) =
      ((session.run requests).1 ++ ((session.run requests).2.run more).1,
        ((session.run requests).2.run more).2) := by
  induction requests generalizing session with
  | nil => rfl
  | cons request rest ih => simp only [List.cons_append, run, ih]

end TypedConfig.Session

/-! ## Checking without keeping anything

Every signature is read and resolved anew. -/

namespace TypedConfig

/-- Checks a value against a signature through a context, from a history on. A failure of any
stage is the outcome, and then there are no diagnostics. -/
def Context.evaluate (context : Context) (project : Project) (marking : Marking)
    (value signature : String) (start : Nat) (history : History) :
    Except CheckError Unit × List Diagnostic :=
  let (resolved, history) := resolveSignature project context signature history
  match resolved with
  | .error error => (.error error, [])
  | .ok validator =>
    let report := (validator.check marking value start history).1
    match report.outcome with
    | .error fault => (.error (.ofConversion fault), [])
    | .ok () => (.ok (), report.diagnostics)

/-- Checks a value with the capability of a session, which is looked for if that has not been
done. Without a capability there is nothing to check. -/
def Session.evaluate (session : Session) (value signature : String) (start : Nat) :
    Except CheckError Unit × List Diagnostic :=
  match session.capability with
  | (none, _) => (.ok (), [])
  | (some context, session) =>
    context.evaluate session.project session.settings.marking value signature start session.history

end TypedConfig
