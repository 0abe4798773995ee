/-
Evaluating the registered filters.  An evaluation tries the filters that were registered when
it began, whatever happens to the registry meanwhile, and records the names of the passed
ones in the log of the vine.  Vines are kept on a shelf under names of their own, so that one
vine may come up several times in a list of vines to evaluate.
-/
import GrammarSieve.Manager.Basic

namespace GrammarSieve

/-- One vine and the manager that evaluates it: all that trying a filter can change. -/
structure Trial where
  manager : Manager
  vine : Vine
deriving Repr

/-- Tries a filter on the vine: a passed one is recorded in the log. -/
def RegisteredFilter.evaluate (f : RegisteredFilter) : EStateM ManagerError Trial Bool :=
  fun trial =>
    match f with
    | .clearing name =>
        .ok true ⟨trial.manager.removeAll, trial.vine.recordMatch name⟩
    | .ordinary filter =>
        match filter.evaluate trial.vine with
        | .error cause => .error (.field cause) trial
        | .ok (passed, vine) => .ok passed { trial with vine }

/-- Tries filters one after the other, and returns the names of the passed ones. -/
def Registry.evaluate : Registry → EStateM ManagerError Trial (List String)
  | [] => return []
  | f :: rest => do
      let passed ← f.evaluate
      let others ← Registry.evaluate rest
      return if passed then f.name :: others else others

def Trial.evaluate : EStateM ManagerError Trial (List String) := do
  let trial ← get
  if trial.manager.registry.isEmpty then throw .noFilters
  trial.manager.registry.evaluate

abbrev Shelf := List (String × Vine)

namespace Shelf

def get? (name : String) : Shelf → Option Vine
  | [] => none
  | (other, v) :: rest => if other = name then some v else get? name rest

def put (name : String) (v : Vine) : Shelf → Shelf
  | [] => [(name, v)]
  | (other, old) :: rest =>
      if other = name then (other, v) :: rest else (other, old) :: put name v rest

theorem get?_put_self (name : String) (v : Vine) (shelf : Shelf) :
    get? name (put name v shelf) = some v := by
  induction shelf with
  | nil => simp [put, get?]
  | cons entry rest ih =>
      by_cases h : entry.1 = name <;> simp [put, get?, h, ih]

theorem get?_put_of_ne {name other : String} (h : other ≠ name) (v : Vine) (shelf : Shelf) :
    get? other (put name v shelf) = get? other shelf := by
  induction shelf with
  | nil => simp [put, get?, h.symm]
  | cons entry rest ih =>
      by_cases hname : entry.1 = name
      · simp [put, get?, hname, h.symm]
      · by_cases hother : entry.1 = other
        · simp [put, get?, hother, h]
        · simp [put, get?, hname, hother, ih]

end Shelf

/-- A manager with a shelf of vines: all that evaluating a list of vines can change. -/
structure Desk where
  manager : Manager
  shelf : Shelf
deriving Repr

namespace Desk

/-- Carries out a trial on the vine of this name. -/
def onVine {α : Type} (name : String) (trial : EStateM ManagerError Trial α) :
    EStateM ManagerError Desk α := fun desk =>
  match desk.shelf.get? name with
  | none => .error (.unknownVine name) desk
  | some vine =>
      match trial ⟨desk.manager, vine⟩ with
      | .ok value after => .ok value ⟨after.manager, desk.shelf.put name after.vine⟩
      | .error cause after => .error cause ⟨after.manager, desk.shelf.put name after.vine⟩

def evaluate (name : String) : EStateM ManagerError Desk (List String) :=
  onVine name Trial.evaluate

/-- Tries the same filters on each vine of a list, and keeps the names of the vines that pass
at least one. -/
def sieve (filters : Registry) : List String → EStateM ManagerError Desk (List String)
  | [] => return []
  | name :: rest => do
      let passed ← onVine name filters.evaluate
      let others ← sieve filters rest
      return if passed.isEmpty then others else name :: others

/-- Tries the filters that are registered now on each vine of a list, and keeps the names of
the vines that pass at least one. -/
def filterVines (names : List String) : EStateM ManagerError Desk (List String) := do
  let desk ← get
  if desk.manager.registry.isEmpty then throw .noFilters
  sieve desk.manager.registry names

end Desk

/-- What a manager that reports says after it has filtered vines. -/
def Manager.report (m : Manager) (good total : Nat) : String :=
  if m.verbose then
    "✔ " ++ toString good ++ " of " ++ toString total ++ " vines passed a filter\n"
  else ""

end GrammarSieve
