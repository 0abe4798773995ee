/-
An example service.  Documents are posted to it as JSON, and it answers with the names of the
filters that the vine passes.  Its filters look for peppers and for cooking.  How its settings are
parsed, and how a body is read as JSON, is left open.
-/
import GrammarSieve.Manager.Evaluation
import GrammarSieve.Vine.Document

namespace GrammarSieve.Service

def settings : List String := [
  "[filters]",
  "",
  "[filters.peppers]",
  "",
  "[filters.peppers.produce]",
  "type = \"target_word_in_grammar_dependency\"",
  "target_words = [\"green bell pepper\",\"red bell pepper\",\"jalapeno pepper\"]",
  "field = \"governor\"",
  "",
  "[filters.cooking]",
  "",
  "[filters.cooking.action]",
  "type = \"tag_in_grammar_dependency\"",
  "tags = [\"VB\",\"VBD\",\"VBG\",\"VBZ\",\"VBP\"]",
  "relations = [\"dobj\"]",
  "field = \"governor\"",
  "",
  "[filters.cooking.topic]",
  "type = \"strict_string\"",
  "words = [\"cooking\",\"recipe\",\"dinner\"]",
  "field = \"scrubbed_text\""]

/-- A new manager with the filters of the settings, as they are parsed. -/
def startWith (parse : List (List Char) → Except SettingsError Json) :
    Except ManagerError Manager :=
  match Manager.create none none none with
  | .error cause => .error cause
  | .ok m =>
      match m.registerRead (parse (settings.map String.toList)) with
      | .error cause => .error cause
      | .ok (_, m) => .ok m

/-- The manager with which the service starts. -/
def start : Except ManagerError Manager :=
  startWith Settings.readLines

inductive Reply where
  | passed (id : String) (filters : List String)
  | notJson
  | notVine
  | broken (cause : Failure ManagerError)
deriving Repr

/-- What a body is read as, if it is JSON. -/
def readBody (body : String) : Except (Failure Unit) Json :=
  match Json.readStrict? body with
  | none => .error (.reported ())
  | some document => .ok document

section

variable (depths : Depths) (read : String → Except (Failure Unit) Json)

def post (m : Manager) (body : String) : Reply × List Notice × Manager :=
  match read body with
  | .error (.reported ()) => (.notJson, [], m)
  | .error (.brokenOff cause) => (.broken (.brokenOff cause), [], m)
  | .ok document =>
      match Vine.read depths document with
      | .error cause => (.broken (.brokenOff cause), [], m)
      | .ok (none, notices) => (.notVine, notices, m)
      | .ok (some vine, notices) =>
          match Trial.evaluate ⟨m, vine⟩ with
          | .ok passed after => (.passed vine.id passed, notices, after.manager)
          | .error cause after => (.broken (.reported cause), notices, after.manager)

/-- The status with which a reply is sent. -/
def Reply.status : Reply → Nat
  | .passed .. => 200
  | .notJson => 400
  | .notVine => 400
  | .broken _ => 500

/-- Replies to bodies that are posted one after the other. -/
def serve (m : Manager) : List String → List (Reply × List Notice) × Manager
  | [] => ([], m)
  | body :: rest =>
      let (reply, notices, m) := post depths read m body
      let (others, m) := serve m rest
      ((reply, notices) :: others, m)

end

end GrammarSieve.Service
