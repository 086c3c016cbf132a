import TypedConfig.Project.InMemory
import TypedConfig.Proofs.Requests
import TypedConfig.Session.Interleaving

/-!
Nothing stale is kept, in whatever order clients take their steps. A client may hold a capability
that a reset has taken away meanwhile; then the epoch that it read with it is over, and what it
builds comes too late to be kept.
-/
namespace TypedConfig

namespace Session

/-! ## One session -/

/-- Every validator that is kept asks the capability in use. -/
def Fresh (session : Session) : Prop :=
  ∀ entry ∈ session.cache.entries, ∃ context, session.handle = .found context ∧
    entry.2.validator.BoundTo context

/-- What a client can count on while others take their steps. Epochs do not come back, and as long
as one lasts, a capability that was found stays in use and what is kept stays kept. -/
structure Onward (before after : Session) : Prop where
  epoch : before.cache.epoch ≤ after.cache.epoch
  handle : before.cache.epoch = after.cache.epoch →
    ∀ context, before.handle = .found context → after.handle = .found context
  kept : before.cache.epoch = after.cache.epoch → ∀ key kept,
    before.cache.entries.lookup key = some kept → after.cache.entries.lookup key = some kept

/-- An epoch that had begun and lasts has lasted all the while. -/
theorem Onward.lasted {before after : Session} (on : before.Onward after) {epoch : Nat}
    (begun : epoch ≤ before.cache.epoch) (lasts : epoch = after.cache.epoch) :
    before.cache.epoch = after.cache.epoch := by
  have onward := on.epoch
  omega

/-- A context that was read with an epoch. It is in use as long as the epoch lasts. -/
structure Lent (session : Session) (context : Context) (epoch : Nat) : Prop where
  begun : epoch ≤ session.cache.epoch
  lasting : epoch = session.cache.epoch → session.handle = .found context

variable {session : Session}

theorem onward_asked (session : Session) (history : History) :
    session.Onward { session with history } :=
  ⟨Nat.le_refl _, fun _ _ found => found, fun _ _ _ hit => hit⟩

theorem onward_capability (session : Session) : session.Onward session.capability.2 where
  epoch := Nat.le_of_eq (by rw [capability_cache])
  handle := by
    intro _ context found
    rw [capability_of_found found]
    exact found
  kept := by
    intro _ key kept hit
    rwa [capability_cache]

/-- A reset ends the epoch, and so nobody can count on anything. -/
theorem onward_reset (session : Session) : session.Onward session.reset := by
  have later : session.cache.epoch < session.reset.cache.epoch := Nat.lt_succ_self _
  exact ⟨Nat.le_of_lt later, fun same => absurd same (Nat.ne_of_lt later),
    fun same => absurd same (Nat.ne_of_lt later)⟩

theorem onward_store (session : Session) (epoch : Nat) (signature : String) (v : Validator) :
    session.Onward { session with cache := (session.cache.store epoch signature v).2 } where
  epoch := by simp
  handle _ _ found := found
  kept _ _ _ hit := session.cache.lookup_store epoch signature v hit

theorem Lent.onward {after : Session} {context : Context} {epoch : Nat}
    (h : session.Lent context epoch) (on : session.Onward after) : after.Lent context epoch where
  begun := Nat.le_trans h.begun on.epoch
  lasting := by
    intro lasts
    have same := on.lasted h.begun lasts
    exact on.handle same context (h.lasting (lasts.trans same.symm))

namespace Fresh

theorem capability (h : session.Fresh) : session.capability.2.Fresh := by
  intro entry member
  rw [capability_cache] at member
  obtain ⟨context, found, bound⟩ := h entry member
  exact ⟨context, session.onward_capability.handle (by rw [capability_cache]) context found, bound⟩

/-- What was built with a capability that may have been taken away is kept only if it was not. -/
theorem store (h : session.Fresh) {context : Context} {epoch : Nat} {v : Validator}
    (lent : session.Lent context epoch) (bound : v.BoundTo context) (signature : String) :
    ({ session with cache := (session.cache.store epoch signature v).2 } : Session).Fresh := by
  intro entry member
  rcases Cache.mem_store _ _ _ _ member with earlier | ⟨lasts, rfl, _⟩
  · exact h entry earlier
  · exact ⟨context, lent.lasting lasts.symm, bound⟩

end Fresh

/-! ## Many clients -/

namespace Interleaving

/-- What a client holds was in use when it read it, and what it has built asks just that. -/
def Phase.Sound (session : Session) : Phase → Prop
  | .idle | .looking _ | .missed _ => True
  | .holding _ context epoch | .building _ context epoch => session.Lent context epoch
  | .built _ epoch v => ∃ context, session.Lent context epoch ∧ v.BoundTo context

/-- What a client was given is kept as long as the epoch lasts. -/
structure Given.Sound (session : Session) (given : Given) : Prop where
  begun : given.epoch ≤ session.cache.epoch
  lasting : given.epoch = session.cache.epoch →
    session.cache.entries.lookup given.key = some given.kept

/-- What holds of the session, of each client and of what the clients were given. -/
structure World.Sound (world : World) : Prop where
  fresh : world.session.Fresh
  clients : ∀ client, (world.clients client).Sound world.session
  given : ∀ given ∈ world.given, given.Sound world.session
  agree : ∀ a ∈ world.given, ∀ b ∈ world.given, a.epoch = b.epoch → a.key = b.key →
    a.kept = b.kept

theorem Phase.Sound.onward {before after : Session} {phase : Phase} (h : phase.Sound before)
    (on : before.Onward after) : phase.Sound after := by
  cases phase with
  | idle => trivial
  | looking => trivial
  | missed => trivial
  | holding signature context epoch => exact Lent.onward h on
  | building signature context epoch => exact Lent.onward h on
  | built signature epoch v =>
    obtain ⟨context, lent, bound⟩ := h
    exact ⟨context, lent.onward on, bound⟩

theorem Given.Sound.onward {before after : Session} {given : Given} (h : given.Sound before)
    (on : before.Onward after) : given.Sound after where
  begun := Nat.le_trans h.begun on.epoch
  lasting := by
    intro lasts
    have same := on.lasted h.begun lasts
    exact on.kept same _ _ (h.lasting (lasts.trans same.symm))

theorem initial_sound (project : Project) (settings : Settings) :
    (World.initial project settings).Sound where
  fresh := by rintro entry ⟨⟩
  clients _ := trivial
  given := by rintro given ⟨⟩
  agree := by rintro a ⟨⟩

namespace World.Sound

variable {world : World}

/-- The session goes on, and the clients stay where they are. -/
theorem onward (h : world.Sound) {after : Session} (fresh : after.Fresh)
    (on : world.session.Onward after) : ({ world with session := after } : World).Sound where
  fresh := fresh
  clients client := (h.clients client).onward on
  given given member := (h.given given member).onward on
  agree := h.agree

theorem asked (h : world.Sound) (history : History) :
    ({ world with session := { world.session with history } } : World).Sound :=
  h.onward h.fresh (onward_asked world.session history)

theorem capability (h : world.Sound) {found : Option Context} {after : Session}
    (read : world.session.capability = (found, after)) :
    ({ world with session := after } : World).Sound := by
  have fresh := h.fresh.capability
  have on := world.session.onward_capability
  rw [read] at fresh on
  exact h.onward fresh on

theorem move (h : world.Sound) {client : Nat} {phase : Phase}
    (sound : phase.Sound world.session) : (world.move client phase).Sound where
  fresh := h.fresh
  clients := by
    intro other
    by_cases same : other = client
    · simpa only [World.move, if_pos same] using sound
    · simpa only [World.move, if_neg same] using h.clients other
  given := h.given
  agree := h.agree

/-- What a client is given agrees with what others were given for the same key in this epoch: that
is still kept, and a key has one instance. -/
theorem give (h : world.Sound) {client : Nat} {signature : String} {kept : Instance}
    (hit : world.session.cache.get? signature = some kept) :
    (world.give client signature kept).Sound := by
  have moved : (world.move client .idle).Sound := h.move trivial
  have agrees : ∀ given ∈ world.given, given.epoch = world.session.cache.epoch →
      given.key = Cache.key signature → given.kept = kept := by
    intro given member epoch key
    have still := (h.given given member).lasting epoch
    rw [key] at still
    exact Option.some.inj (still.symm.trans hit)
  refine ⟨moved.fresh, moved.clients, ?_, ?_⟩
  · rintro given (_ | ⟨_, earlier⟩)
    · exact ⟨Nat.le_refl _, fun _ => hit⟩
    · exact h.given given earlier
  · rintro a (_ | ⟨_, ha⟩) b (_ | ⟨_, hb⟩) epoch key
    · rfl
    · exact (agrees b hb epoch.symm key.symm).symm
    · exact agrees a ha epoch key
    · exact h.agree a ha b hb epoch key

theorem stored (h : world.Sound) {client : Nat} {signature : String} {epoch : Nat}
    {v : Validator} (phase : world.clients client = .built signature epoch v) :
    (world.stored client signature epoch v).Sound := by
  obtain ⟨context, lent, bound⟩ : (Phase.built signature epoch v).Sound world.session :=
    phase ▸ h.clients client
  have after := h.onward (h.fresh.store lent bound signature)
    (onward_store world.session epoch signature v)
  by_cases lasts : world.session.cache.epoch = epoch
  · subst lasts
    simp only [World.stored, if_true]
    exact after.give (Cache.get?_store _ _ _)
  · simp only [World.stored, if_neg lasts]
    exact after.move trivial

end World.Sound

/-- Every step leaves a sound world. -/
theorem Step.sound {a b : World} (step : Step a b) (h : a.Sound) : b.Sound := by
  cases step with
  | start client signature idle => exact h.move trivial
  | found client signature kept phase hit => exact h.give hit
  | miss client signature phase absent => exact h.move trivial
  | unavailable client signature session phase read => exact (h.capability read).move trivial
  | read client signature context session phase read =>
    exact (h.capability read).move ⟨Nat.le_refl _, fun _ => handle_of_capability read⟩
  | foundAgain client signature context epoch kept phase hit => exact h.give hit
  | missAgain client signature context epoch phase absent =>
    have lent : (Phase.holding signature context epoch).Sound a.session :=
      phase ▸ h.clients client
    exact h.move lent
  | fail client signature context epoch error history phase built =>
    exact (h.asked history).move trivial
  | build client signature context epoch v history phase built =>
    have lent : (Phase.building signature context epoch).Sound a.session :=
      phase ▸ h.clients client
    have bound : v.BoundTo context := resolveSignature_boundTo (congrArg Prod.fst built)
    have moved : (a.move client (.built signature epoch v)).Sound := h.move ⟨context, lent, bound⟩
    exact moved.asked history
  | store client signature epoch v phase => exact h.stored phase
  | reset => exact h.onward (by rintro entry ⟨⟩) (onward_reset a.session)
  | ask => exact h.capability rfl

theorem Reachable.sound {project : Project} {settings : Settings} {world : World}
    (reachable : Reachable project settings world) : world.Sound := by
  induction reachable with
  | start => exact initial_sound project settings
  | next _ step ih => exact step.sound ih

/-! ## One client alone -/

@[simp] theorem World.move_clients (world : World) (client : Nat) (phase : Phase) :
    (world.move client phase).clients client = phase := by
  simp [World.move]

section
variable {project : Project} {settings : Settings} {world : World} {client : Nat}
  {signature : String}

/-- A client that finds nothing kept comes to build with the capability. -/
theorem Reachable.building (reachable : Reachable project settings world)
    (idle : world.clients client = .idle) {context : Context} {session : Session}
    (absent : world.session.cache.get? signature = none)
    (found : world.session.capability = (some context, session)) :
    ∃ after, Reachable project settings after ∧ after.session = session ∧
      after.clients client = .building signature context session.cache.epoch := by
  have still : session.cache.get? signature = none := cache_of_capability found ▸ absent
  have looking := reachable.next (.start world client signature idle)
  have missed := looking.next (.miss _ client signature (World.move_clients ..) absent)
  have holding := missed.next (.read _ client signature _ _ (World.move_clients ..) found)
  exact ⟨_, holding.next (.missAgain _ client signature _ _ (World.move_clients ..) still), rfl,
    World.move_clients ..⟩

/-- A client that nobody interrupts does what a request for a validator does, and is given its
answer. -/
theorem Reachable.alone (reachable : Reachable project settings world)
    (idle : world.clients client = .idle) (signature : String) :
    ∃ after, Reachable project settings after ∧ after.clients client = .idle ∧
      after.session = (world.session.validator signature).2 ∧
      ∀ kept, (world.session.validator signature).1 = .ok (some kept) →
        ⟨after.session.cache.epoch, Cache.key signature, kept⟩ ∈ after.given := by
  rcases asked : world.session.validator signature with ⟨answer, session⟩
  cases answered_of_validator asked with
  | hit hit =>
    have looking := reachable.next (.start world client signature idle)
    refine ⟨_, looking.next (.found _ client signature _ (World.move_clients ..) hit),
      World.move_clients .., rfl, ?_⟩
    rintro kept ⟨⟩
    exact List.mem_cons_self
  | unavailable absent missing =>
    have looking := reachable.next (.start world client signature idle)
    have missed := looking.next (.miss _ client signature (World.move_clients ..) absent)
    refine ⟨_, missed.next (.unavailable _ client signature _ (World.move_clients ..) missing),
      World.move_clients .., rfl, ?_⟩
    rintro kept ⟨⟩
  | failed absent found failed =>
    obtain ⟨after, reached, rfl, building⟩ := reachable.building idle absent found
    refine ⟨_, reached.next (.fail _ client signature _ _ _ _ building failed),
      World.move_clients .., rfl, ?_⟩
    rintro kept ⟨⟩
  | built absent found resolved =>
    obtain ⟨after, reached, rfl, building⟩ := reachable.building idle absent found
    have still : after.session.cache.get? signature = none := cache_of_capability found ▸ absent
    have built := reached.next (.build _ client signature _ _ _ _ building resolved)
    have stored := built.next (.store _ client signature _ _ (World.move_clients ..))
    simp only [World.stored, World.move, Cache.store_free still, if_true] at stored
    refine ⟨_, stored, World.move_clients .., rfl, ?_⟩
    rintro kept ⟨⟩
    exact List.mem_cons_self

end

/-! ## All of them -/

/-- **Nothing stale is kept.** In whatever order clients and resets take their steps, a cache that
is not empty belongs to a capability in use, which is the one that every kept validator asks. And
whoever stores or finds a key in the same epoch is given the same instance. Surroundings may build
a new context for every search, and then one from before a reset is never the one in use. -/
theorem nothing_stale_is_kept {project : Project} {settings : Settings} {world : World}
    (reachable : Reachable project settings world) :
    (world.session.cache.entries ≠ [] → ∃ context, world.session.handle = .found context ∧
      ∀ entry ∈ world.session.cache.entries, entry.2.validator.BoundTo context) ∧
    ∀ a ∈ world.given, ∀ b ∈ world.given, a.epoch = b.epoch → a.key = b.key →
      a.kept = b.kept := by
  have sound := reachable.sound
  refine ⟨fun some => ?_, sound.agree⟩
  obtain ⟨first, member⟩ := List.exists_mem_of_ne_nil _ some
  obtain ⟨context, found, _⟩ := sound.fresh first member
  refine ⟨context, found, fun entry kept => ?_⟩
  obtain ⟨other, found', bound⟩ := sound.fresh entry kept
  obtain rfl : other = context := Handle.found.inj (found'.symm.trans found)
  exact bound

/-- A client stores a validator, a reset forgets it, and the client stores one again. -/
theorem standard_nothing_stale_is_kept :
    ∃ world, Reachable (InMemory.standard "app").toProject
        { wellKnown := [Standard.providerName] } world ∧
      world.session.cache.epoch = 1 ∧ world.session.cache.size = 1 ∧
      (world.session.cache.entries ≠ [] → ∃ context, world.session.handle = .found context ∧
        ∀ entry ∈ world.session.cache.entries, entry.2.validator.BoundTo context) ∧
      ∀ a ∈ world.given, ∀ b ∈ world.given, a.epoch = b.epoch → a.key = b.key →
        a.kept = b.kept := by
  have idle : (World.initial (InMemory.standard "app").toProject
      { wellKnown := [Standard.providerName] }).clients 0 = .idle := rfl
  obtain ⟨first, reached, idle, known, _⟩ := Reachable.start.alone idle "int"
  have reset := reached.next (.reset first)
  obtain ⟨second, reached, _, renewed, _⟩ := reset.alone idle " int "
  have session := renewed.trans
    (congrArg (fun session : Session => (session.reset.validator " int ").2) known)
  refine ⟨second, reached, ?_, ?_, nothing_stale_is_kept reached⟩
  · rw [session]
    decide +kernel
  · rw [session]
    decide +kernel

end Interleaving

end Session

end TypedConfig
