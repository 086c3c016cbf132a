import TypedConfig.Capability.Host
import TypedConfig.Resolution

namespace TypedConfig

variable {α β : Type}

namespace Asking

/-- Work goes on with the result and the history of the work before it. -/
theorem bind_apply (work : Asking α) (next : α → Asking β) (history : History) :
    (work >>= next) history = next (work history).1 (work history).2 :=
  rfl

/-- The result of the work has a property, whatever the surroundings answer. -/
def Ensures (work : Asking α) (property : α → Prop) : Prop := ∀ history, property (work history).1

theorem Ensures.pure {a : α} {property : α → Prop} (h : property a) :
    Asking.Ensures (Pure.pure a) property := fun _ => h

theorem Ensures.bind {work : Asking α} {next : α → Asking β} {first : α → Prop}
    {property : β → Prop} (h : Asking.Ensures work first)
    (after : ∀ a, first a → Asking.Ensures (next a) property) :
    Asking.Ensures (work >>= next) property := by
  intro history
  rw [bind_apply]
  exact after _ (h history) _

/-- Work that only asks, and whose result does not depend on what was asked since the search. -/
def Steady (work : Asking α) : Prop :=
  ∀ h h', searched h = searched h' →
    (work h).1 = (work h').1 ∧ searched (work h).2 = searched h

theorem Steady.pure (a : α) : Asking.Steady (Pure.pure a) := fun _ _ _ => ⟨rfl, rfl⟩

theorem Steady.bind {work : Asking α} {next : α → Asking β} (steady : Asking.Steady work)
    (after : ∀ a, Asking.Steady (next a)) : Asking.Steady (work >>= next) := by
  intro h h' same
  rw [bind_apply, bind_apply]
  obtain ⟨result, history⟩ := steady h h' same
  obtain ⟨_, history'⟩ := steady h' h same.symm
  have same' : searched (work h).2 = searched (work h').2 := by rw [history, history', same]
  obtain ⟨found, left⟩ := after (work h).1 _ _ same'
  exact ⟨result ▸ found, left.trans history⟩

theorem Steady.ask {call : Call} {answer : History → α} (question : call.isQuestion = true)
    (keeps : ∀ h h', searched h = searched h' → answer h = answer h') :
    Asking.Steady (ask call answer) := by
  intro h h' same
  exact ⟨keeps h h' same, by simp [TypedConfig.ask, searched, question]⟩

/-- Work that only asks leaves what the last search has settled. -/
theorem Steady.searched_eq {work : Asking α} (steady : Asking.Steady work)
    {before after : History} {a : α} (h : work before = (a, after)) :
    searched after = searched before := by
  have left := (steady before before rfl).2
  rwa [h] at left

/-- What was asked before the work still belongs to the history after it. -/
def Extends (work : Asking α) : Prop := ∀ history, history <:+ (work history).2

theorem Extends.pure (a : α) : Asking.Extends (Pure.pure a) := List.suffix_refl

theorem Extends.bind {work : Asking α} {next : α → Asking β} (first : Asking.Extends work)
    (after : ∀ a, Asking.Extends (next a)) : Asking.Extends (work >>= next) := by
  intro history
  rw [bind_apply]
  exact (first history).trans (after _ _)

theorem Extends.ask (call : Call) (answer : History → α) : Asking.Extends (ask call answer) :=
  List.suffix_cons call

end Asking

/-! ## Work that may fail -/

namespace Resolution.Resolving

/-- A result of the work has a property, whatever the surroundings answer. -/
def Ensures (work : Resolving α) (property : α → Prop) : Prop :=
  Asking.Ensures work.run fun result => ∀ a, result = .ok a → property a

theorem Ensures.pure {a : α} {property : α → Prop} (h : property a) :
    Resolving.Ensures (Pure.pure a) property := by
  rintro history found ⟨⟩
  exact h

theorem Ensures.bind {work : Resolving α} {next : α → Resolving β} {first : α → Prop}
    {property : β → Prop} (h : work.Ensures first)
    (after : ∀ a, first a → (next a).Ensures property) : (work >>= next).Ensures property := by
  rw [Ensures, ExceptT.run_bind]
  refine Asking.Ensures.bind h fun result first => ?_
  cases result with
  | ok a => exact after a (first a rfl)
  | error failure => exact .pure fun b impossible => by cases impossible

theorem Ensures.any (work : Resolving α) : work.Ensures fun _ => True := fun _ _ _ => trivial

/-- Work that may fail keeps to its answer when its steps do, up to the one that fails. -/
theorem steady_bind {work : Resolving α} {next : α → Resolving β}
    (steady : Asking.Steady work.run) (after : ∀ a, Asking.Steady (next a).run) :
    Asking.Steady (work >>= next).run := by
  rw [ExceptT.run_bind]
  refine steady.bind fun result => ?_
  cases result with
  | ok a => exact after a
  | error failure => exact .pure _

theorem steady_pure (a : α) : Asking.Steady (Pure.pure a : Resolving α).run := by
  rw [ExceptT.run_pure]
  exact .pure _

theorem steady_map {work : Resolving α} (f : α → β) (steady : Asking.Steady work.run) :
    Asking.Steady (f <$> work).run := by
  rw [map_eq_pure_bind]
  exact steady_bind steady fun a => steady_pure (f a)

theorem run_map (f : α → β) (work : Resolving α) (history : History) :
    ((f <$> work).run history).1 = (work.run history).1.map f := by
  rw [ExceptT.run_map]
  rfl

end Resolution.Resolving

end TypedConfig
