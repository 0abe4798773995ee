/-
One manager in the place of another.  Evaluations read the registry of the manager and may clear
it, and nothing else about the manager matters to them.  So a manager that holds the filters of
another one evaluates and filters vines as that one does: the results, the logs and the filters
that are left are the same.
-/
import GrammarSieve.Proofs.Manager.Clearing
import GrammarSieve.Proofs.Manager.Crew

namespace GrammarSieve

/-- The same result, with the state that is left changed. -/
def resultWith {ε σ α : Type} (change : σ → σ) :
    EStateM.Result ε σ α → EStateM.Result ε σ α
  | .ok value after => .ok value (change after)
  | .error cause after => .error cause (change after)

/-- The action makes nothing of the change: in a state that has been changed it does the same, and
the change is still there when it is done. -/
def Indifferent {σ α : Type} (change : σ → σ) (action : EStateM ManagerError σ α) : Prop :=
  ∀ state, action (change state) = resultWith change (action state)

namespace Indifferent

variable {σ α β : Type} {change : σ → σ}

theorem pure (value : α) : Indifferent change (pure value) :=
  fun _ => rfl

theorem bind {action : EStateM ManagerError σ α} {next : α → EStateM ManagerError σ β}
    (h : Indifferent change action) (hnext : ∀ value, Indifferent change (next value)) :
    Indifferent change (action >>= next) := by
  intro state
  simp only [Bind.bind, EStateM.bind, h state]
  cases action state with
  | error cause middle => rfl
  | ok value middle => exact hnext value middle

end Indifferent

/-- The manager with the filters of another one. -/
def Manager.inPlaceOf (m other : Manager) : Manager :=
  m.restore other.save

section Handing

variable (m : Manager)

def Trial.handTo (trial : Trial) : Trial :=
  { trial with manager := m.inPlaceOf trial.manager }

def Desk.handTo (desk : Desk) : Desk :=
  { desk with manager := m.inPlaceOf desk.manager }

def Crew.handTo (crew : Crew) : Crew :=
  { crew with desk := crew.desk.handTo m }

theorem RegisteredFilter.evaluate_indifferent (f : RegisteredFilter) :
    Indifferent (Trial.handTo m) f.evaluate := by
  intro trial
  cases f with
  | clearing name => rfl
  | ordinary filter =>
      simp only [evaluate, Trial.handTo]
      cases filter.evaluate trial.vine <;> rfl

theorem Registry.evaluate_indifferent (filters : Registry) :
    Indifferent (Trial.handTo m) filters.evaluate := by
  induction filters with
  | nil => exact .pure []
  | cons f rest ih =>
      exact (f.evaluate_indifferent m).bind fun _ => ih.bind fun _ => .pure _

theorem Trial.evaluate_indifferent : Indifferent (Trial.handTo m) Trial.evaluate := by
  intro trial
  have hregistry : (trial.handTo m).manager.registry = trial.manager.registry := rfl
  rw [Trial.evaluate_eq, Trial.evaluate_eq, hregistry, Registry.evaluate_indifferent]
  split <;> rfl

namespace Desk

/-- What makes nothing of the change in a trial makes nothing of it at a desk. -/
theorem onVine_indifferent {α : Type} {trial : EStateM ManagerError Trial α}
    (h : Indifferent (Trial.handTo m) trial) (name : String) :
    Indifferent (Desk.handTo m) (onVine name trial) := by
  intro desk
  have hshelf : (desk.handTo m).shelf = desk.shelf := rfl
  simp only [onVine, hshelf]
  cases desk.shelf.get? name with
  | none => rfl
  | some v =>
      have htrial : trial ⟨(desk.handTo m).manager, v⟩ = _ := h ⟨desk.manager, v⟩
      simp only [htrial]
      cases trial ⟨desk.manager, v⟩ <;> rfl

theorem evaluate_indifferent (name : String) : Indifferent (Desk.handTo m) (evaluate name) :=
  onVine_indifferent m (Trial.evaluate_indifferent m) name

theorem sieve_indifferent (filters : Registry) (names : List String) :
    Indifferent (Desk.handTo m) (sieve filters names) := by
  induction names with
  | nil => exact .pure []
  | cons name rest ih =>
      exact (onVine_indifferent m (filters.evaluate_indifferent m) name).bind fun _ =>
        ih.bind fun _ => .pure _

theorem filterVines_indifferent (names : List String) :
    Indifferent (Desk.handTo m) (filterVines names) := by
  intro desk
  have hregistry : (desk.handTo m).manager.registry = desk.manager.registry := rfl
  rw [filterVines_eq, filterVines_eq, hregistry, sieve_indifferent]
  split <;> rfl

end Desk

namespace Crew

theorem advance_indifferent (place : Nat) : Indifferent (Crew.handTo m) (advance place) := by
  intro crew
  have htasks : (crew.handTo m).tasks = crew.tasks := rfl
  simp only [advance, htasks]
  cases crew.tasks[place]? with
  | none => rfl
  | some task =>
      rcases task with ⟨vine, remaining, passed⟩
      cases remaining with
      | nil => rfl
      | cons f rest =>
          have htrial : Desk.onVine vine f.evaluate (crew.handTo m).desk = _ :=
            Desk.onVine_indifferent m (f.evaluate_indifferent m) vine crew.desk
          simp only [htrial]
          cases Desk.onVine vine f.evaluate crew.desk <;> rfl

theorem follow_indifferent (schedule : Schedule) :
    Indifferent (Crew.handTo m) (follow schedule) := by
  induction schedule with
  | nil => exact .pure ()
  | cons place rest ih => exact (advance_indifferent m place).bind fun _ => ih

end Crew

theorem Desk.filterVinesBy_indifferent (schedule : Schedule) (names : List String) :
    Indifferent (Desk.handTo m) (filterVinesBy schedule names) := by
  intro desk
  have hregistry : (desk.handTo m).manager.registry = desk.manager.registry := rfl
  by_cases hempty : desk.manager.registry.isEmpty
  · simp only [filterVinesBy, hregistry, hempty, ↓reduceIte]
    rfl
  · let crew : Crew := ⟨desk, names.map (⟨·, desk.manager.registry, []⟩)⟩
    have hfollow : Crew.follow schedule ⟨desk.handTo m, crew.tasks⟩ =
        resultWith (Crew.handTo m) (Crew.follow schedule crew) :=
      Crew.follow_indifferent m schedule crew
    cases hresult : Crew.follow schedule crew <;>
      simp [filterVinesBy, hregistry, hempty, hfollow, hresult, crew, resultWith, Crew.handTo,
        Crew.good]

end Handing

namespace Desk

/-- What can be seen of an action at a desk: the result, the filters that are left and the vines. -/
def observed {α : Type} (action : EStateM ManagerError Desk α) (desk : Desk) :
    Except ManagerError α × Registry × Shelf :=
  match action desk with
  | .ok value after => (.ok value, after.manager.registry, after.shelf)
  | .error cause after => (.error cause, after.manager.registry, after.shelf)

variable {m : Manager}

theorem observed_inPlaceOf {α : Type} {action : EStateM ManagerError Desk α}
    (h : Indifferent (Desk.handTo m) action) (other : Manager) (shelf : Shelf) :
    observed action ⟨m.inPlaceOf other, shelf⟩ = observed action ⟨other, shelf⟩ := by
  have haction : action ⟨m.inPlaceOf other, shelf⟩ = _ := h ⟨other, shelf⟩
  simp only [observed, haction]
  cases action ⟨other, shelf⟩ <;> rfl

theorem filterVinesByWorkers_eq (schedule : Schedule) (names : List String) (desk : Desk) :
    filterVinesByWorkers schedule names desk =
      if 1 < desk.manager.workers then filterVinesBy schedule names desk
      else filterVines names desk := by
  change (if 1 < desk.manager.workers then _ else _ : EStateM _ _ _) desk = _
  split <;> rfl

/-- With one worker each, or with several each that take the same turns, the two managers filter
vines alike. -/
theorem observed_filterVinesByWorkers {other : Manager}
    (hworkers : 1 < m.workers ↔ 1 < other.workers) (schedule : Schedule) (names : List String)
    (shelf : Shelf) :
    observed (filterVinesByWorkers schedule names) ⟨m.inPlaceOf other, shelf⟩ =
      observed (filterVinesByWorkers schedule names) ⟨other, shelf⟩ := by
  have hboth : 1 < (m.inPlaceOf other).workers ↔ 1 < other.workers := hworkers
  have hby := observed_inPlaceOf (filterVinesBy_indifferent m schedule names) other shelf
  have halone := observed_inPlaceOf (filterVines_indifferent m names) other shelf
  simp only [observed, filterVinesByWorkers_eq, hboth] at hby halone ⊢
  by_cases hseveral : 1 < other.workers
  · simpa only [hseveral, ↓reduceIte] using hby
  · simpa only [hseveral, ↓reduceIte] using halone

/-- Filters that answer keep the same vines with one worker and with several, whatever turns these
take, and a vine logs what it passes as often as it comes up. -/
theorem exists_filterVinesByWorkers_eq_ok {desk : Desk} {names : List String} {schedule : Schedule}
    (h : ∀ f ∈ desk.manager.registry, f.Answers) (hne : desk.manager.registry ≠ [])
    (hvines : ∀ name ∈ names, (desk.shelf.get? name).isSome)
    (hfull : 1 < desk.manager.workers →
      schedule.Full names.length desk.manager.registry.length) :
    ∃ after added, filterVinesByWorkers schedule names desk =
        .ok (names.filter fun name => desk.admitted name ≠ []) after ∧
      after.manager = desk.manager.clearedIf (names ≠ [] && desk.manager.registry.clears) ∧
      desk.shelf.GrowsTo after.shelf added ∧
      ∀ name, (added name).Perm
          (List.replicate (names.count name) (desk.admitted name)).flatten ∧
        (names.count name = 1 → added name = desk.admitted name) := by
  rw [filterVinesByWorkers_eq]
  by_cases hseveral : 1 < desk.manager.workers
  · rw [if_pos hseveral]
    exact exists_filterVinesBy_eq_ok h hne hvines (hfull hseveral)
  · rw [if_neg hseveral]
    obtain ⟨after, hafter, hmanager, hgrows⟩ := exists_filterVines_eq_ok h hne hvines
    refine ⟨after, _, hafter, hmanager, hgrows, fun name => ⟨.refl _, ?_⟩⟩
    intro honce
    simp [honce]

end Desk

namespace Manager

/-- The manager does with vines what the other one does.  What is seen of an evaluation is the
same, and so is what is seen of filtering, where both have one worker or the same turns are taken.
Where the turns differ, filters that answer still keep the same vines, the logs grow by the same
names, and the log of a vine that comes up once grows in the same way. -/
structure EvaluatesAs (m other : Manager) : Prop where
  evaluate : ∀ name shelf,
    Desk.observed (Desk.evaluate name) ⟨m, shelf⟩ =
      Desk.observed (Desk.evaluate name) ⟨other, shelf⟩
  filterVines : (1 < m.workers ↔ 1 < other.workers) → ∀ schedule names shelf,
    Desk.observed (Desk.filterVinesByWorkers schedule names) ⟨m, shelf⟩ =
      Desk.observed (Desk.filterVinesByWorkers schedule names) ⟨other, shelf⟩
  filterVines_of_answers : other.registry ≠ [] → (∀ f ∈ other.registry, f.Answers) →
    ∀ (schedule schedule' : Schedule) (names : List String) (shelf : Shelf),
      (∀ name ∈ names, (shelf.get? name).isSome) →
      (1 < m.workers → schedule.Full names.length other.registry.length) →
      (1 < other.workers → schedule'.Full names.length other.registry.length) →
      ∃ good after after' added added',
        Desk.filterVinesByWorkers schedule names ⟨m, shelf⟩ = .ok good after ∧
        Desk.filterVinesByWorkers schedule' names ⟨other, shelf⟩ = .ok good after' ∧
        after.manager.registry = after'.manager.registry ∧
        shelf.GrowsTo after.shelf added ∧ shelf.GrowsTo after'.shelf added' ∧
        ∀ name, (added name).Perm (added' name) ∧
          (names.count name = 1 → added name = added' name)
  filterVines_of_empty : other.registry = [] → ∀ schedule names shelf,
    Desk.filterVinesByWorkers schedule names ⟨m, shelf⟩ = .error .noFilters ⟨m, shelf⟩ ∧
      Desk.filterVinesByWorkers schedule names ⟨other, shelf⟩ = .error .noFilters ⟨other, shelf⟩

theorem registry_clearedIf (m : Manager) (cleared : Bool) :
    (m.clearedIf cleared).registry = if cleared then [] else m.registry := by
  cases cleared <;> rfl

theorem inPlaceOf_evaluatesAs (m other : Manager) : (m.inPlaceOf other).EvaluatesAs other where
  evaluate name := Desk.observed_inPlaceOf (Desk.evaluate_indifferent m name) other
  filterVines hworkers := Desk.observed_filterVinesByWorkers hworkers
  filterVines_of_answers := by
    intro hne h schedule schedule' names shelf hvines hfull hfull'
    obtain ⟨after, added, hafter, hmanager, hgrows, hadded⟩ :=
      @Desk.exists_filterVinesByWorkers_eq_ok ⟨m.inPlaceOf other, shelf⟩ names schedule h hne hvines
        hfull
    obtain ⟨after', added', hafter', hmanager', hgrows', hadded'⟩ :=
      @Desk.exists_filterVinesByWorkers_eq_ok ⟨other, shelf⟩ names schedule' h hne hvines hfull'
    refine ⟨_, after, after', added, added', hafter, hafter', ?_, hgrows, hgrows', ?_⟩
    · rw [hmanager, hmanager', registry_clearedIf, registry_clearedIf]
      rfl
    · intro name
      refine ⟨(hadded name).1.trans (hadded' name).1.symm, ?_⟩
      intro honce
      exact ((hadded name).2 honce).trans ((hadded' name).2 honce).symm
  filterVines_of_empty := by
    intro hempty schedule names shelf
    have hfails (desk : Desk) (h : desk.manager.registry = []) :
        Desk.filterVinesByWorkers schedule names desk = .error .noFilters desk := by
      rw [Desk.filterVinesByWorkers_eq, Desk.filterVinesBy_eq_error h, Desk.filterVines_eq_error h,
        ite_self]
    exact ⟨hfails _ hempty, hfails _ hempty⟩

end Manager

end GrammarSieve
