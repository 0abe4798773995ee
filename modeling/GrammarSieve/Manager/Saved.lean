/-
Saved filters as texts.  How filters are written, and what a text is decoded to, is left to a
coding, and so are the errors of its decoder.  What a text is decoded to has to be a list of filters
for them to be restored.
-/
import GrammarSieve.Manager.Office

namespace GrammarSieve

/-- A way of writing filters as texts and of decoding texts. -/
structure SavedFilters.Coding (ε : Type) where
  encode : SavedFilters → String
  decode : String → Except ε Decoded

namespace SavedFilters.Coding

variable {ε : Type}

/-- Decoding what has been written gives the list of the filters. -/
def Lawful (coding : Coding ε) : Prop :=
  ∀ saved, coding.decode (coding.encode saved) = .ok (.list (saved.registry.map some))

/-- The coding as a format of texts. -/
def format (coding : Coding ε) : Format String where
  write := coding.encode
  read? text :=
    match coding.decode text with
    | .error _ => none
    | .ok decoded => decoded.filters?

end SavedFilters.Coding

/-- What a manager of an office can be asked: an operation, or to restore any text, whether it was
written in the office or not. -/
inductive Errand where
  | operation (operation : Operation)
  | restoreWritten (text : String)
deriving Repr

namespace Office

variable {ε : Type}

/-- The manager at a place restores a text, or keeps its filters if that fails. -/
def restoreWritten (coding : SavedFilters.Coding ε) (office : Office String) (place : Nat)
    (text : String) : Office String :=
  match office.managers[place]? with
  | some m =>
      match m.restoreDecoded (coding.decode text) with
      | .ok after => office.withManager place after
      | .error _ => office
  | none => office

def runErrand (coding : SavedFilters.Coding ε) (office : Office String) (place : Nat) :
    Errand → Office String
  | .operation operation => office.act coding.format place operation
  | .restoreWritten text => office.restoreWritten coding place text

def runErrands (coding : SavedFilters.Coding ε) :
    Office String → List (Nat × Errand) → Office String
  | office, [] => office
  | office, (place, errand) :: rest => runErrands coding (office.runErrand coding place errand) rest

end Office

end GrammarSieve
