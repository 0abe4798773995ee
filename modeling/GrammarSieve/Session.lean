/-
Sessions with a manager.  A session holds a manager, a shelf of vines and the registries that
have been saved, each under a name, and it carries out commands one after the other.  A
command that fails changes nothing but what it had already done.
-/
import GrammarSieve.Manager.Evaluation
import GrammarSieve.Dataset

namespace GrammarSieve

structure Session where
  depths : Depths
  desk : Desk
  saved : List (String × SavedFilters)
deriving Repr

inductive Command where
  | options
  | registerConfiguration (configuration : Json)
  | registerSettings (text : String)
  | register (sections : List (String × Json))
  /-- Registers a filter that removes all filters when tried. -/
  | registerClearing (name : String)
  | remove (name : String)
  | removeAll
  | listNames
  | describeFilters
  | shelve (slot : String) (document : Json)
  | evaluate (slot : String)
  | filterVines (slots : List String)
  /-- Reads the vines of a file and puts them on the shelf, numbered from zero. -/
  | readVines (file content slotStem : String)
  | writeVines (slots : List String)
  | save (slot : String)
  | restore (slot : String)
  /-- Replaces the registry by filters that are built from sections with modifier relations
  of their own; names may repeat. -/
  | restoreBuilt (sections : List (String × Json)) (modifierRelations : List String)
  | restoreText (text : String)
deriving Repr

inductive Outcome where
  | done
  | options (modifierRelations : List String) (workers : Nat) (verbose : Bool)
  | names (names : List String)
  | filters (registry : Registry)
  | shelved (stored : Bool)
  | evaluated (names : List String) (slot : String) (log : List String)
  | filtered (good : List String) (logs : List (String × List String)) (report : String)
  | vines (found : List (String × String))
  | text (text : List Char)
deriving Repr

inductive SessionError where
  | manager (cause : ManagerError)
  | dataset (cause : DatasetError)
  | brokenOff (cause : Breakdown)
  | notStorable
  | unknownSaved (name : String)
deriving Repr

namespace Session

def start (depths : Depths) (m : Manager) : Session :=
  ⟨depths, ⟨m, []⟩, []⟩

def logOf (s : Session) (slot : String) : List String :=
  match s.desk.shelf.get? slot with
  | some v => v.goodFilters
  | none => []

def withManager (s : Session) (m : Manager) : Session :=
  { s with desk := { s.desk with manager := m } }

def withVine (s : Session) (slot : String) (v : Vine) : Session :=
  { s with desk := { s.desk with shelf := s.desk.shelf.put slot v } }

def numbered (slotStem : String) (vines : List Vine) : List (String × Vine) :=
  vines.zipIdx.map fun entry => (slotStem ++ toString entry.2, entry.1)

/-- The vines of these names, or the first name that no vine goes by. -/
def vinesOf (s : Session) : List String → Except SessionError (List Vine)
  | [] => .ok []
  | slot :: rest =>
      match s.desk.shelf.get? slot with
      | none => .error (.manager (.unknownVine slot))
      | some v =>
          match s.vinesOf rest with
          | .error cause => .error cause
          | .ok others => .ok (v :: others)

/-- What a command gives: its outcome or its failure, the notices it has caused, and the
session afterwards. -/
abbrev Result := Except SessionError Outcome × List Notice × Session

def succeed (s : Session) (outcome : Outcome) : Result :=
  (.ok outcome, [], s)

def fail (s : Session) (cause : SessionError) : Result :=
  (.error cause, [], s)

/-- A command that changes the manager, or fails and leaves it as it is. -/
def changeManager {α : Type} (s : Session) (outcome : α → Outcome) :
    Except ManagerError (α × Manager) → Result
  | .ok (value, m) => (s.withManager m).succeed (outcome value)
  | .error cause => s.fail (.manager cause)

/-- A command that changes the manager and returns nothing. -/
def replaceManager (s : Session) : Except ManagerError Manager → Result
  | .ok m => (s.withManager m).succeed .done
  | .error cause => s.fail (.manager cause)

/-- A command that is an action at the desk.  What it did before a failure stays done. -/
def actAtDesk {α : Type} (s : Session) (outcome : α → Session → Outcome)
    (action : EStateM ManagerError Desk α) : Result :=
  match action s.desk with
  | .ok value desk => succeed { s with desk } (outcome value { s with desk })
  | .error cause desk => fail { s with desk } (.manager cause)

/-- The manager whose registry is replaced by filters built from sections. -/
def rebuilt (m : Manager) (sections : List (String × Json)) (modifierRelations : List String) :
    Except ManagerError Manager :=
  match Definition.filterList modifierRelations sections with
  | .error cause => .error (.definition cause)
  | .ok filters => .ok (m.restore ⟨filters.map .ordinary⟩)

def shelve (s : Session) (slot : String) (document : Json) : Result :=
  match Vine.read s.depths document with
  | .error cause => s.fail (.brokenOff cause)
  | .ok (some v, notices) => (.ok (.shelved true), notices, s.withVine slot v)
  | .ok (none, notices) => (.ok (.shelved false), notices, s)

def readVines (s : Session) (file content slotStem : String) : Result :=
  match Dataset.read s.depths file content with
  | (.error (.reported cause), notices) => (.error (.dataset cause), notices, s)
  | (.error (.brokenOff cause), notices) => (.error (.brokenOff cause), notices, s)
  | (.ok vines, notices) =>
      let entries := numbered slotStem vines
      (.ok (.vines (entries.map fun entry => (entry.1, entry.2.id))), notices,
        entries.foldl (fun s entry => s.withVine entry.1 entry.2) s)

def writeVines (s : Session) (slots : List String) : Result :=
  match s.vinesOf slots with
  | .error cause => s.fail cause
  | .ok vines =>
      match Dataset.write? vines with
      | some text => s.succeed (.text text)
      | none => s.fail .notStorable

/-- Replaces the registry by the one that was last saved under this name. -/
def restore (s : Session) (slot : String) : Result :=
  match s.saved.lookup slot with
  | some saved => s.replaceManager (.ok (s.desk.manager.restore saved))
  | none => s.fail (.unknownSaved slot)

def run (s : Session) : Command → Result
  | .options =>
      let m := s.desk.manager
      s.succeed (.options m.modifierRelations m.workers m.verbose)
  | .registerConfiguration configuration =>
      s.changeManager .names (s.desk.manager.registerConfiguration configuration)
  | .registerSettings text => s.changeManager .names (s.desk.manager.registerSettings text)
  | .register sections => s.replaceManager (s.desk.manager.registerSections sections)
  | .registerClearing name => s.replaceManager (s.desk.manager.register [.clearing name])
  | .remove name => s.replaceManager (.ok (s.desk.manager.remove name))
  | .removeAll => s.replaceManager (.ok s.desk.manager.removeAll)
  | .listNames => s.succeed (.names s.desk.manager.registry.sortedNames)
  | .describeFilters => s.succeed (.filters s.desk.manager.registry)
  | .shelve slot document => s.shelve slot document
  | .evaluate slot =>
      s.actAtDesk (fun names after => .evaluated names slot (after.logOf slot))
        (Desk.evaluate slot)
  | .filterVines slots =>
      s.actAtDesk
        (fun good after =>
          .filtered good (slots.map fun slot => (slot, after.logOf slot))
            (after.desk.manager.report good.length slots.length))
        (Desk.filterVines slots)
  | .readVines file content slotStem => s.readVines file content slotStem
  | .writeVines slots => s.writeVines slots
  | .save slot => succeed { s with saved := (slot, s.desk.manager.save) :: s.saved } .done
  | .restore slot => s.restore slot
  | .restoreBuilt sections modifierRelations =>
      s.replaceManager (rebuilt s.desk.manager sections modifierRelations)
  | .restoreText text => s.replaceManager (s.desk.manager.restoreText text)

def runAll : Session → List Command → List (Except SessionError Outcome × List Notice) × Session
  | s, [] => ([], s)
  | s, command :: rest =>
      let (outcome, notices, s) := s.run command
      let (others, s) := s.runAll rest
      ((outcome, notices) :: others, s)

end Session

end GrammarSieve
