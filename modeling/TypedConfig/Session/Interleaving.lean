import TypedConfig.Session.Basic
/-!
Many clients of one session. A client that asks for a validator goes through five steps: it looks
it up, reads the capability with the epoch, looks again, builds, and stores. Between any two of
them other clients may take theirs, and the session may be reset.
-/
namespace TypedConfig.Session.Interleaving

inductive Phase where
  | idle
  /-- It is about to look a signature up. -/
  | looking (signature : String)
  /-- There was nothing; it is about to read the capability. -/
  | missed (signature : String)
  /-- It has read the capability and the epoch, and is about to look again. -/
  | holding (signature : String) (context : Context) (epoch : Nat)
  /-- There was nothing; it is about to build. -/
  | building (signature : String) (context : Context) (epoch : Nat)
  /-- It has built a validator and is about to store it. -/
  | built (signature : String) (epoch : Nat) (validator : Validator)

/-- An instance that a client was given out of the cache, with the epoch at that time. -/
structure Given where
  epoch : Nat
  key : String
  kept : Instance

/-- The session, its clients, and what they were given, the latest first. -/
structure World where
  session : Session
  clients : Nat → Phase
  given : List Given

def World.move (world : World) (client : Nat) (phase : Phase) : World :=
  { world with clients := fun other => if other = client then phase else world.clients other }

/-- A client is given an instance out of the cache and is done. -/
def World.give (world : World) (client : Nat) (signature : String) (kept : Instance) : World :=
  { world.move client .idle with
    given := ⟨world.session.cache.epoch, Cache.key signature, kept⟩ :: world.given }

/-- A client has stored a validator: it is given what is kept, unless the epoch is over. -/
def World.stored (world : World) (client : Nat) (signature : String) (epoch : Nat)
    (validator : Validator) : World :=
  let (kept, cache) := world.session.cache.store epoch signature validator
  let after := { world with session := { world.session with cache } }
  if world.session.cache.epoch = epoch then after.give client signature kept
  else after.move client .idle

/-- One step of one client, or of anyone who resets the session or asks for the capability. -/
inductive Step : World → World → Prop where
  | start (world : World) (client : Nat) (signature : String)
      (idle : world.clients client = .idle) :
      Step world (world.move client (.looking signature))
  | found (world : World) (client : Nat) (signature : String) (kept : Instance)
      (phase : world.clients client = .looking signature)
      (hit : world.session.cache.get? signature = some kept) :
      Step world (world.give client signature kept)
  | miss (world : World) (client : Nat) (signature : String)
      (phase : world.clients client = .looking signature)
      (absent : world.session.cache.get? signature = none) :
      Step world (world.move client (.missed signature))
  | unavailable (world : World) (client : Nat) (signature : String) (session : Session)
      (phase : world.clients client = .missed signature)
      (read : world.session.capability = (none, session)) :
      Step world ({ world with session }.move client .idle)
  | read (world : World) (client : Nat) (signature : String) (context : Context)
      (session : Session) (phase : world.clients client = .missed signature)
      (read : world.session.capability = (some context, session)) :
      Step world
        ({ world with session }.move client (.holding signature context session.cache.epoch))
  | foundAgain (world : World) (client : Nat) (signature : String) (context : Context)
      (epoch : Nat) (kept : Instance)
      (phase : world.clients client = .holding signature context epoch)
      (hit : world.session.cache.get? signature = some kept) :
      Step world (world.give client signature kept)
  | missAgain (world : World) (client : Nat) (signature : String) (context : Context)
      (epoch : Nat) (phase : world.clients client = .holding signature context epoch)
      (absent : world.session.cache.get? signature = none) :
      Step world (world.move client (.building signature context epoch))
  | fail (world : World) (client : Nat) (signature : String) (context : Context) (epoch : Nat)
      (error : CheckError) (history : History)
      (phase : world.clients client = .building signature context epoch)
      (built : resolveSignature world.session.project context signature world.session.history =
        (.error error, history)) :
      Step world ({ world with session := { world.session with history } }.move client .idle)
  | build (world : World) (client : Nat) (signature : String) (context : Context) (epoch : Nat)
      (validator : Validator) (history : History)
      (phase : world.clients client = .building signature context epoch)
      (built : resolveSignature world.session.project context signature world.session.history =
        (.ok validator, history)) :
      Step world
        ({ world with session := { world.session with history } }.move client
          (.built signature epoch validator))
  | store (world : World) (client : Nat) (signature : String) (epoch : Nat)
      (validator : Validator)
      (phase : world.clients client = .built signature epoch validator) :
      Step world (world.stored client signature epoch validator)
  | reset (world : World) : Step world { world with session := world.session.reset }
  | ask (world : World) : Step world { world with session := world.session.available.2 }

/-- Nobody has asked for anything. -/
def World.initial (project : Project) (settings : Settings) : World :=
  ⟨.new project settings, fun _ => .idle, []⟩

/-- The worlds that any order of steps leads to. -/
inductive Reachable (project : Project) (settings : Settings) : World → Prop where
  | start : Reachable project settings (.initial project settings)
  | next {a b : World} : Reachable project settings a → Step a b → Reachable project settings b

end TypedConfig.Session.Interleaving
