/-
What an evaluation can do to the manager.  The filters may be any, the vines may be unknown, a
filter may fail, and with several workers the vines may come up in any order: the manager loses
its filters or keeps them, and nothing else about it changes.
-/
import GrammarSieve.Manager.Office
import GrammarSieve.Proofs.Manager.Trial

namespace GrammarSieve

/-- All that the action can do to the manager, whether it succeeds or fails, is to clear it. -/
def OnlyClears {σ α : Type} (manager : σ → Manager) (action : EStateM ManagerError σ α) : Prop :=
  ∀ state, ∃ cleared, manager (stateAfter action state) = (manager state).clearedIf cleared

namespace OnlyClears

variable {σ α β : Type} {manager : σ → Manager}

theorem of_stateAfter_eq {action : EStateM ManagerError σ α}
    (h : ∀ state, stateAfter action state = state) : OnlyClears manager action := by
  intro state
  exact ⟨false, by rw [h, Manager.clearedIf_false]⟩

theorem pure (value : α) : OnlyClears manager (pure value) :=
  of_stateAfter_eq fun _ => rfl

theorem get : OnlyClears manager (get : EStateM ManagerError σ σ) :=
  of_stateAfter_eq fun _ => rfl

theorem throw (cause : ManagerError) :
    OnlyClears manager (throw cause : EStateM ManagerError σ α) :=
  of_stateAfter_eq fun _ => rfl

/-- What each of two actions can only clear is cleared by both of them together if it is by one;
a second action that is not reached does nothing. -/
theorem bind {action : EStateM ManagerError σ α} {next : α → EStateM ManagerError σ β}
    (h : OnlyClears manager action) (hnext : ∀ value, OnlyClears manager (next value)) :
    OnlyClears manager (action >>= next) := by
  intro state
  obtain ⟨first, hfirst⟩ := h state
  cases haction : action state with
  | error cause middle =>
      refine ⟨first, ?_⟩
      simpa [stateAfter, Bind.bind, EStateM.bind, haction] using hfirst
  | ok value middle =>
      obtain ⟨second, hsecond⟩ := hnext value middle
      refine ⟨first || second, ?_⟩
      rw [← Manager.clearedIf_clearedIf, ← hfirst]
      simpa [stateAfter, Bind.bind, EStateM.bind, haction] using hsecond

theorem ite {condition : Prop} [Decidable condition] {action other : EStateM ManagerError σ α}
    (h : OnlyClears manager action) (hother : OnlyClears manager other) :
    OnlyClears manager (if condition then action else other) := by
  by_cases hcondition : condition <;> simpa only [hcondition, ↓reduceIte]

theorem guarded {condition : Prop} [Decidable condition] (cause : ManagerError)
    {action : EStateM ManagerError σ α} (h : OnlyClears manager action) :
    OnlyClears manager (do
      if condition then MonadExcept.throw cause
      action) :=
  .ite ((OnlyClears.throw cause).bind fun _ => h) h

end OnlyClears

theorem RegisteredFilter.evaluate_onlyClears (f : RegisteredFilter) :
    OnlyClears Trial.manager f.evaluate := by
  intro trial
  cases f with
  | clearing name => exact ⟨true, rfl⟩
  | ordinary filter =>
      refine ⟨false, ?_⟩
      cases h : filter.evaluate trial.vine <;> simp [stateAfter, evaluate, h]

theorem Registry.evaluate_onlyClears (filters : Registry) :
    OnlyClears Trial.manager filters.evaluate := by
  induction filters with
  | nil => exact .pure []
  | cons f rest ih =>
      exact f.evaluate_onlyClears.bind fun _ => ih.bind fun _ => .pure _

theorem Trial.evaluate_onlyClears : OnlyClears Trial.manager Trial.evaluate :=
  OnlyClears.get.bind fun trial => .guarded _ trial.manager.registry.evaluate_onlyClears

namespace Desk

/-- What only clears the manager in a trial only clears it at a desk. -/
theorem onVine_onlyClears {α : Type} {trial : EStateM ManagerError Trial α}
    (h : OnlyClears Trial.manager trial) (name : String) :
    OnlyClears Desk.manager (onVine name trial) := by
  intro desk
  cases hvine : desk.shelf.get? name with
  | none => exact ⟨false, by simp [stateAfter, onVine, hvine]⟩
  | some v =>
      obtain ⟨cleared, hcleared⟩ := h ⟨desk.manager, v⟩
      refine ⟨cleared, ?_⟩
      rw [← hcleared]
      cases htrial : trial ⟨desk.manager, v⟩ <;> simp [stateAfter, onVine, hvine, htrial]

theorem evaluate_onlyClears (name : String) : OnlyClears Desk.manager (evaluate name) :=
  onVine_onlyClears Trial.evaluate_onlyClears name

theorem sieve_onlyClears (filters : Registry) (names : List String) :
    OnlyClears Desk.manager (sieve filters names) := by
  induction names with
  | nil => exact .pure []
  | cons name rest ih =>
      exact (onVine_onlyClears filters.evaluate_onlyClears name).bind fun _ =>
        ih.bind fun _ => .pure _

theorem filterVines_onlyClears (names : List String) :
    OnlyClears Desk.manager (filterVines names) :=
  OnlyClears.get.bind fun desk => .guarded _ (sieve_onlyClears desk.manager.registry names)

end Desk

namespace Crew

theorem advance_onlyClears (place : Nat) :
    OnlyClears (fun crew : Crew => crew.desk.manager) (advance place) := by
  intro crew
  cases htask : crew.tasks[place]? with
  | none => exact ⟨false, by simp [stateAfter, advance, htask]⟩
  | some task =>
      obtain ⟨vine, remaining, passed⟩ := task
      cases remaining with
      | nil => exact ⟨false, by simp [stateAfter, advance, htask]⟩
      | cons f rest =>
          obtain ⟨cleared, hcleared⟩ :=
            Desk.onVine_onlyClears f.evaluate_onlyClears vine crew.desk
          refine ⟨cleared, ?_⟩
          rw [← hcleared]
          cases htrial : Desk.onVine vine f.evaluate crew.desk <;>
            simp [stateAfter, advance, htask, htrial]

theorem follow_onlyClears (schedule : Schedule) :
    OnlyClears (fun crew : Crew => crew.desk.manager) (follow schedule) := by
  induction schedule with
  | nil => exact .pure ()
  | cons place rest ih => exact (advance_onlyClears place).bind fun _ => ih

end Crew

namespace Desk

theorem filterVinesBy_onlyClears (schedule : Schedule) (names : List String) :
    OnlyClears Desk.manager (filterVinesBy schedule names) := by
  intro desk
  by_cases hempty : desk.manager.registry.isEmpty
  · exact ⟨false, by simp only [stateAfter, filterVinesBy, hempty, ↓reduceIte,
      Manager.clearedIf_false]⟩
  · let crew : Crew := ⟨desk, names.map (⟨·, desk.manager.registry, []⟩)⟩
    obtain ⟨cleared, hcleared⟩ := Crew.follow_onlyClears schedule crew
    refine ⟨cleared, ?_⟩
    rw [← hcleared]
    cases hfollow : Crew.follow schedule crew <;>
      simp [stateAfter, filterVinesBy, hempty, hfollow, crew]

theorem filterVinesByWorkers_onlyClears (schedule : Schedule) (names : List String) :
    OnlyClears Desk.manager (filterVinesByWorkers schedule names) :=
  OnlyClears.get.bind fun _ =>
    .ite (filterVinesBy_onlyClears schedule names) (filterVines_onlyClears names)

end Desk

end GrammarSieve
