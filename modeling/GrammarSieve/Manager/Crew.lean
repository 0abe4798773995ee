/-
Evaluating vines by several workers at once.  Each vine of a list is a task of its own, and a
task tries the filters that were registered when the work began, one after the other.  The tasks
share the desk, so the filters of one may be tried between those of another, and two tasks may
work on the same vine.  A schedule says whose turn it is; whatever number of workers there is,
what they do follows some schedule.
-/
import GrammarSieve.Manager.Evaluation

namespace GrammarSieve

/-- The evaluation of one vine: the filters that are still to be tried, and the names of those
that the vine has passed. -/
structure Task where
  vine : String
  remaining : Registry
  passed : List String
deriving Repr

/-- The places of tasks, in the order in which they take their turns. -/
abbrev Schedule := List Nat

/-- Each of so many tasks takes exactly so many turns, and nobody else takes any. -/
def Schedule.Full (tasks turns : Nat) (schedule : Schedule) : Prop :=
  (∀ place ∈ schedule, place < tasks) ∧ ∀ place < tasks, schedule.count place = turns

instance (tasks turns : Nat) (schedule : Schedule) : Decidable (schedule.Full tasks turns) :=
  inferInstanceAs (Decidable (_ ∧ _))

/-- Tasks that are under way at one desk. -/
structure Crew where
  desk : Desk
  tasks : List Task
deriving Repr

namespace Crew

/-- The task at a place tries its next filter, if it has one left. -/
def advance (place : Nat) : EStateM ManagerError Crew Unit := fun crew =>
  match crew.tasks[place]? with
  | some ⟨vine, f :: rest, passed⟩ =>
      match Desk.onVine vine f.evaluate crew.desk with
      | .ok admitted desk =>
          let passed := if admitted then passed ++ [f.name] else passed
          .ok () ⟨desk, crew.tasks.set place ⟨vine, rest, passed⟩⟩
      | .error cause desk => .error cause { crew with desk }
  | _ => .ok () crew

def follow : Schedule → EStateM ManagerError Crew Unit
  | [] => return ()
  | place :: rest => do
      advance place
      follow rest

/-- The names of the vines that have passed a filter, in the order of the tasks. -/
def good (crew : Crew) : List String :=
  (crew.tasks.filter fun task => !task.passed.isEmpty).map (·.vine)

end Crew

/-- Tries the filters that are registered now on each vine of a list, where the vines take turns,
and keeps the names of the vines that pass at least one. -/
def Desk.filterVinesBy (schedule : Schedule) (names : List String) :
    EStateM ManagerError Desk (List String) := fun desk =>
  if desk.manager.registry.isEmpty then .error .noFilters desk
  else
    match Crew.follow schedule ⟨desk, names.map (⟨·, desk.manager.registry, []⟩)⟩ with
    | .ok () crew => .ok crew.good crew.desk
    | .error cause crew => .error cause crew.desk

end GrammarSieve
