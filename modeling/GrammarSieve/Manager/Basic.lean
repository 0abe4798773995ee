/-
Managers.  A manager holds a registry of filters and the relations that attach modifiers in
the phrases of filters built by it.  Filters are registered from sections, from whole
configurations and from settings texts; what is registered can be saved and restored, also
by another manager.
-/
import GrammarSieve.Manager.Registry
import GrammarSieve.Filter.Definition
import GrammarSieve.Settings.Reference
import GrammarSieve.Json.Strict

namespace GrammarSieve

/-- What can go wrong in a manager. -/
inductive ManagerError where
  | workersNotPositive
  | duplicateFilter (name : String)
  | noFilters
  | definition (cause : DefinitionError)
  | settings (cause : SettingsError)
  | field (cause : FieldError)
  | savedNotJson
  | savedNotFilters
  | unknownVine (name : String)
deriving Repr

def ManagerError.message : ManagerError → String
  | .workersNotPositive => "number_of_workers must be a positive integer."
  | .duplicateFilter name => name
  | .noFilters => "No filters registered."
  | .definition cause => cause.message
  | .field cause => cause.message
  | .savedNotFilters => "Serialized data does not describe a list of filters"
  | .settings _ | .savedNotJson | .unknownVine _ => ""

/-- The filters of a registry, saved apart from any manager. -/
structure SavedFilters where
  registry : Registry
deriving DecidableEq, Repr

/-- What a text of saved filters is decoded to: a list, of filters and of other things, or another
thing altogether. -/
inductive Decoded where
  | list (items : List (Option RegisteredFilter))
  | other
deriving Repr

/-- The filters, if what was decoded is a list of nothing else. -/
def Decoded.filters? : Decoded → Option SavedFilters
  | .list items => (items.mapM id).map SavedFilters.mk
  | .other => none

/-- Why filters cannot be restored: the decoder fails with an error of its own, or what it gives is
not a list of filters. -/
inductive RestoreError (ε : Type) where
  | undecoded (cause : ε)
  | notFilters
deriving DecidableEq, Repr

/-- The number of workers says how many vines may be filtered at the same time.  Which vines are
kept does not depend on it. -/
structure Manager where
  modifierRelations : List String
  workers : Nat
  workers_pos : 0 < workers
  verbose : Bool
  registry : Registry
deriving Repr

namespace Manager

/-- A manager without filters.  What is not given is as usual: one worker, no reports, and
the default modifier relations. -/
def create (modifierRelations : Option (List String)) (workers : Option Int)
    (verbose : Option Bool) : Except ManagerError Manager :=
  let wanted := workers.getD 1
  if h : wanted ≤ 0 then .error .workersNotPositive
  else
    .ok {
      modifierRelations := modifierRelations.getD defaultModifierRelations
      workers := wanted.toNat
      workers_pos := by omega
      verbose := verbose.getD false
      registry := [] }

/-- Registers a batch of filters, all or none. -/
def register (m : Manager) (batch : Registry) : Except ManagerError Manager :=
  match m.registry.register batch with
  | .error name => .error (.duplicateFilter name)
  | .ok registry => .ok { m with registry }

def registerSections (m : Manager) (sections : List (String × Json)) :
    Except ManagerError Manager :=
  match Definition.filterList m.modifierRelations sections with
  | .error cause => .error (.definition cause)
  | .ok filters => m.register (filters.map .ordinary)

def registerConfiguration (m : Manager) (configuration : Json) :
    Except ManagerError (List String × Manager) :=
  match Definition.sections configuration with
  | .error cause => .error (.definition cause)
  | .ok sections =>
      match Definition.filters m.modifierRelations sections with
      | .error cause => .error (.definition cause)
      | .ok filters =>
          match m.register (filters.map .ordinary) with
          | .error cause => .error cause
          | .ok m => .ok (filters.map (·.name), m)

def registerRead (m : Manager) (settings : Except SettingsError Json) :
    Except ManagerError (List String × Manager) :=
  match settings with
  | .error cause => .error (.settings cause)
  | .ok configuration => m.registerConfiguration configuration

def registerSettings (m : Manager) (text : String) :
    Except ManagerError (List String × Manager) :=
  m.registerRead (Settings.read text)

def remove (m : Manager) (name : String) : Manager :=
  { m with registry := m.registry.remove name }

def removeAll (m : Manager) : Manager :=
  { m with registry := [] }

def save (m : Manager) : SavedFilters :=
  ⟨m.registry⟩

/-- Replaces the registered filters by saved ones, which keep the modifier relations that
they were built with. -/
def restore (m : Manager) (saved : SavedFilters) : Manager :=
  { m with registry := saved.registry }

/-- Replaces the registered filters by what a text of saved filters was decoded to. -/
def restoreDecoded {ε : Type} (m : Manager) :
    Except ε Decoded → Except (RestoreError ε) Manager
  | .error cause => .error (.undecoded cause)
  | .ok decoded =>
      match decoded.filters? with
      | some saved => .ok (m.restore saved)
      | none => .error .notFilters

/-- What a plain JSON text is decoded to.  No item of a list is a filter. -/
def decodePlain (text : String) : Except Unit Decoded :=
  match Json.readStrict? text with
  | none => .error ()
  | some (.array items) => .ok (.list (items.map fun _ => none))
  | some _ => .ok .other

/-- Replaces the registered filters by those of a plain JSON text. -/
def restoreText (m : Manager) (text : String) : Except ManagerError Manager :=
  (m.restoreDecoded (decodePlain text)).mapError fun
    | .undecoded () => .savedNotJson
    | .notFilters => .savedNotFilters

end Manager

end GrammarSieve
