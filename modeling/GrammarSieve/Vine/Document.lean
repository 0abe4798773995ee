/-
Reading a vine from a document.  The fields are read in a fixed order, and the first one that
is missing, of the wrong kind or undecodable ends the reading: there is a whole vine or none.
-/
import GrammarSieve.Vine.Basic
import GrammarSieve.Edge.Decode

namespace GrammarSieve

/-- Why a document does not describe a vine. -/
inductive VineError where
  | notObject (found : Json.Kind)
  | missingField (name : String)
  | wrongKind (name : String) (found : Json.Kind)
  | undecodable (cause : DecodeError)
deriving Repr

def VineError.message : VineError → String
  | .notObject found => "Vine document must be an object, not " ++ found.name
  | .missingField name => "Vine document has no field " ++ Text.quoted name
  | .wrongKind name found =>
      "Vine document field " ++ Text.quoted name ++ " has wrong type " ++ found.name
  | .undecodable cause => cause.message

/-- What the cause makes of a reader that can show entries up to a depth. -/
def VineError.breakdown? (room : Nat) : VineError → Option Breakdown
  | .undecodable cause => cause.breakdown? room
  | _ => none

namespace Vine

def textField (name : String) (document : Members) : Except VineError String :=
  match document.get? name with
  | none => .error (.missingField name)
  | some (.string value) => .ok value
  | some value => .error (.wrongKind name value.kind)

def listField (name : String) (document : Members) : Except VineError (List Json) :=
  match document.get? name with
  | none => .error (.missingField name)
  | some (.array items) => .ok items
  | some value => .error (.wrongKind name value.kind)

/-- Decodes the entries of an array from left to right. -/
def decodeEach {α : Type} (decode : Json → Except DecodeError α) :
    List Json → Except VineError (List α)
  | [] => .ok []
  | entry :: rest =>
      match decode entry with
      | .error cause => .error (.undecodable cause)
      | .ok value =>
          match decodeEach decode rest with
          | .error cause => .error cause
          | .ok values => .ok (value :: values)

/-- Reads a vine from the members of a document.  Its log is empty. -/
def ofMembers (document : Members) : Except VineError Vine := do
  let id ← textField "id" document
  let url ← textField "url" document
  let text ← textField "text" document
  let scrubbedText ← textField "scrubbed_text" document
  let taggedTokens ← decodeEach TaggedToken.ofJson (← listField "pos_tags" document)
  let edges ← decodeEach Edge.ofJson (← listField "grammar_dependencies" document)
  return { document, id, url, text, scrubbedText, taggedTokens, edges, goodFilters := [] }

def ofDocument : Json → Except VineError Vine
  | .object document => ofMembers document
  | value => .error (.notObject value.kind)

end Vine

/-- What a reader of documents reports besides its results. -/
inductive Notice where
  /-- A document was refused.  The label is its `id`, whatever kind of value that is. -/
  | refused (label : Json) (cause : VineError)
  | skipped (count total : Nat) (file : String)
deriving Repr

def Notice.message : Notice → String
  | .refused label cause =>
      "Unable to construct vine " ++ label.display ++ ": " ++ cause.message
  | .skipped count total file =>
      "Skipped " ++ toString count ++ " of " ++ toString total ++ " documents in " ++ file

/-- How much attention a notice asks for. -/
inductive Notice.Level where
  | info
  | warning
deriving DecidableEq, Repr

def Notice.level : Notice → Notice.Level
  | .refused .. => .warning
  | .skipped .. => .info

def Notice.Level.name : Notice.Level → String
  | .info => "INFO"
  | .warning => "WARNING"

/-- The value that stands for a document in notices: its `id`, if it has one. -/
def Vine.label : Json → Json
  | .object document => (Members.get? "id" document).getD .null
  | _ => .null

/-- How deep values can be nested to be shown: the entries of a document in the messages of errors,
and its label in a notice. -/
structure Depths where
  entry : Nat
  label : Nat
deriving DecidableEq, Repr

/-- Reads a vine from a document, and reports why if there is none.  The report itself can break
off. -/
def Vine.read (depths : Depths) (document : Json) :
    Except Breakdown (Option Vine × List Notice) :=
  match Vine.ofDocument document with
  | .ok v => .ok (some v, [])
  | .error cause =>
      let label := Vine.label document
      match (cause.breakdown? depths.entry).or (label.breakdown? depths.label) with
      | some breakdown => .error breakdown
      | none => .ok (none, [.refused label cause])

end GrammarSieve
