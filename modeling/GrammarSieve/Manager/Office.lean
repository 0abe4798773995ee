/-
Several managers at work.  They share a shelf of vines, and what one of them has saved another
one may restore, from the text that it was written to.  Each operation is carried out by one of
the managers.  If it fails, the manager that was asked keeps what it had, but for what had been
done before the failure.
-/
import GrammarSieve.Manager.Crew

namespace GrammarSieve

/-- A way of writing saved filters as texts, and of reading texts as filters where that is
possible.  What a text consists of is left to the format. -/
structure SavedFilters.Format (α : Type) where
  write : SavedFilters → α
  read? : α → Option SavedFilters

/-- Reading what has been written gives it back. -/
def SavedFilters.Format.Lawful {α : Type} (format : Format α) : Prop :=
  ∀ saved, format.read? (format.write saved) = some saved

namespace Manager

/-- Replaces the registered filters by those that a text describes. -/
def restoreFrom {α : Type} (format : SavedFilters.Format α) (m : Manager) (text : α) :
    Except ManagerError Manager :=
  match format.read? text with
  | some saved => .ok (m.restore saved)
  | none => .error .savedNotFilters

/-- The manager after it was to be replaced by another one: a failure leaves it as it was. -/
def afterwards (m : Manager) : Except ManagerError Manager → Manager
  | .ok after => after
  | .error _ => m

end Manager

/-- Filters vines with the workers of the manager: a single one works through the list, and
several take turns by a schedule. -/
def Desk.filterVinesByWorkers (schedule : Schedule) (names : List String) :
    EStateM ManagerError Desk (List String) := do
  let desk ← get
  if 1 < desk.manager.workers then filterVinesBy schedule names else filterVines names

/-- What an action leaves, whether it succeeds or fails. -/
def stateAfter {σ α : Type} (action : EStateM ManagerError σ α) (state : σ) : σ :=
  match action state with
  | .ok _ after => after
  | .error _ after => after

inductive Operation where
  | register (batch : Registry)
  | registerConfiguration (configuration : Json)
  | registerSettings (text : String)
  | remove (name : String)
  | removeAll
  | evaluate (vine : String)
  | filterVines (schedule : Schedule) (vines : List String)
  | save
  /-- Restores from one of the texts written so far, which are numbered from zero. -/
  | restore (number : Nat)
deriving Repr

/-- Managers with the vines that they share and the texts that they have written. -/
structure Office (α : Type) where
  managers : List Manager
  shelf : Shelf
  texts : List α
deriving Repr

namespace Office

variable {α : Type}

/-- The manager at a place is replaced. -/
def withManager (office : Office α) (place : Nat) (m : Manager) : Office α :=
  { office with managers := office.managers.set place m }

/-- A manager works at a desk with the shared shelf, and goes back to its place. -/
def actAtDesk {β : Type} (office : Office α) (place : Nat) (m : Manager)
    (action : EStateM ManagerError Desk β) : Office α :=
  let after := stateAfter action ⟨m, office.shelf⟩
  { office.withManager place after.manager with shelf := after.shelf }

/-- A manager, found at a place, carries out an operation. -/
def carryOut (format : SavedFilters.Format α) (office : Office α) (place : Nat) (m : Manager) :
    Operation → Office α
  | .register batch => office.withManager place (m.afterwards (m.register batch))
  | .registerConfiguration configuration =>
      office.withManager place (m.afterwards ((m.registerConfiguration configuration).map (·.2)))
  | .registerSettings text =>
      office.withManager place (m.afterwards ((m.registerSettings text).map (·.2)))
  | .remove name => office.withManager place (m.remove name)
  | .removeAll => office.withManager place m.removeAll
  | .evaluate vine => office.actAtDesk place m (Desk.evaluate vine)
  | .filterVines schedule vines =>
      office.actAtDesk place m (Desk.filterVinesByWorkers schedule vines)
  | .save => { office with texts := office.texts ++ [format.write m.save] }
  | .restore number =>
      match office.texts[number]? with
      | some text => office.withManager place (m.afterwards (m.restoreFrom format text))
      | none => office

/-- The manager at a place carries out an operation; where there is none, nothing happens. -/
def act (format : SavedFilters.Format α) (office : Office α) (place : Nat)
    (operation : Operation) : Office α :=
  match office.managers[place]? with
  | some m => office.carryOut format place m operation
  | none => office

/-- Operations one after the other, each with the place of the manager that is asked. -/
def run (format : SavedFilters.Format α) : Office α → List (Nat × Operation) → Office α
  | office, [] => office
  | office, (place, operation) :: rest => run format (office.act format place operation) rest

end Office

end GrammarSieve
