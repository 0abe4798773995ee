/-
Building filters from sections of a configuration.  A section is a JSON object: a section of
filters holds one section for each filter, and that one holds one section for each condition.
The keys of a condition are checked in a fixed order, and the first fault is reported.
-/
import GrammarSieve.Filter.Basic

namespace GrammarSieve

/-- Why a section does not define a filter. -/
inductive DefinitionError where
  | filterNotSection (filter : String)
  | conditionNotSection (filter condition : String)
  | unknownType (filter condition : String) (type : Json)
  /-- The type is an array or an object, which cannot be looked up at all. -/
  | compoundType
  | missingKey (key : String)
  | notStrings (key : String)
  | malformedTag (cause : DecodeError)
  | fieldNotString
  | unknownField (cause : FieldError)
  /-- The kind of condition, named by its subject, cannot address the field. -/
  | unsuitedField (subject : String) (field : Field)
  | sectionsNotObject
  | noSections
  /-- The configuration is a value in which no section can be looked up. -/
  | notConfiguration
deriving Repr

/-- The message for a cause.  Values of a wrong shape have none of their own. -/
def DefinitionError.message : DefinitionError → String
  | .filterNotSection filter =>
      "Definition of filter " ++ Text.quoted filter ++ " must be a section"
  | .conditionNotSection filter condition =>
      "Condition " ++ filter ++ "." ++ condition ++ " must be a section"
  | .unknownType filter condition type =>
      "Condition " ++ filter ++ "." ++ condition ++ " has unknown type " ++ type.display
  | .missingKey key => "Condition is missing " ++ Text.quoted key
  | .notStrings key => Text.quoted key ++ " must be a list of strings"
  | .malformedTag cause => cause.message
  | .fieldNotString => "'field' must be a string"
  | .unknownField cause => cause.message
  | .unsuitedField subject field => subject ++ " condition cannot address " ++ field.key
  | .noSections => "Configuration has no [filters] section"
  | .compoundType | .sectionsNotObject | .notConfiguration => ""

/-- How a failure is met: most causes are faults of a definition, which a message explains.  The
others come of values in which nothing can be looked up. -/
inductive DefinitionError.Kind where
  | definition
  /-- The value itself cannot be looked up or searched. -/
  | lookup
  /-- The value has no members. -/
  | members
deriving DecidableEq, Repr

def DefinitionError.kind : DefinitionError → DefinitionError.Kind
  | .compoundType | .notConfiguration => .lookup
  | .sectionsNotObject => .members
  | _ => .definition

namespace Definition

/-- The names in a value that lists them: the strings of an array, or the characters of a
string. -/
def names? : Json → Option (List String)
  | .string text => some (text.toList.map fun c => String.ofList [c])
  | .array items => Json.strings? items
  | _ => none

/-- The alternatives in a value: the strings of an array, or a single string. -/
def alternatives (key : String) : Json → Except DefinitionError (List String)
  | .string text => .ok [text]
  | .array items =>
      match Json.strings? items with
      | some texts => .ok texts
      | none => .error (.notStrings key)
  | _ => .error (.notStrings key)

/-- The alternatives under a key that has to be present. -/
def required (settings : Members) (key : String) : Except DefinitionError (List String) :=
  match settings.get? key with
  | none => .error (.missingKey key)
  | some value => alternatives key value

/-- The alternatives under a key that may be absent. -/
def optional (settings : Members) (key : String) :
    Except DefinitionError (Option (List String)) :=
  match settings.get? key with
  | none => .ok none
  | some value =>
      match alternatives key value with
      | .ok texts => .ok (some texts)
      | .error cause => .error cause

/-- The field of a section, or the usual one if it names none. -/
def fieldOf (settings : Members) (usual : Field) : Except DefinitionError Field :=
  match settings.get? "field" with
  | none => .ok usual
  | some (.string name) =>
      match Field.ofName name with
      | .ok field => .ok field
      | .error cause => .error (.unknownField cause)
  | some _ => .error .fieldNotString

/-- A field is kept if it is one of those that suit the kind of condition. -/
def suited (subject : String) (fields : List Field) (field : Field) :
    Except DefinitionError Field :=
  if field ∈ fields then .ok field else .error (.unsuitedField subject field)

def textFields : List Field :=
  [.text, .scrubbedText]

def endpointFields : List Field :=
  [.governor, .dependent]

def taggedTokens : List String → Except DefinitionError (List TaggedToken)
  | [] => .ok []
  | entry :: rest =>
      match TaggedToken.decode entry with
      | .error cause => .error (.malformedTag cause)
      | .ok t =>
          match taggedTokens rest with
          | .error cause => .error cause
          | .ok others => .ok (t :: others)

def word (settings : Members) : Except DefinitionError Condition := do
  let words ← required settings "words"
  let field ← fieldOf settings .text
  let field ← suited "Strict string" textFields field
  return .word words field

def tagged (settings : Members) : Except DefinitionError Condition := do
  let tokens ← taggedTokens (← required settings "tagged_tokens")
  return .tagged tokens

def relation (settings : Members) : Except DefinitionError Condition := do
  let relations ← required settings "relations"
  return .relation relations

def phrase (modifierRelations : List String) (settings : Members) :
    Except DefinitionError Condition := do
  let phrases ← required settings "target_words"
  let relations ← optional settings "relations"
  let field ← fieldOf settings .governor
  let field ← suited "Target word" endpointFields field
  return .phrase phrases relations field modifierRelations

def endpointTag (settings : Members) : Except DefinitionError Condition := do
  let tags ← required settings "tags"
  let relations ← required settings "relations"
  let field ← fieldOf settings .governor
  let field ← suited "Tag" endpointFields field
  return .endpointTag tags relations field

def condition (modifierRelations : List String) (filter name : String) :
    Json → Except DefinitionError Condition
  | .object settings =>
      match Members.get? "type" settings with
      | some (.string "strict_string") => word settings
      | some (.string "tagged_token") => tagged settings
      | some (.string "grammar_dependency") => relation settings
      | some (.string "target_word_in_grammar_dependency") => phrase modifierRelations settings
      | some (.string "tag_in_grammar_dependency") => endpointTag settings
      | some (.array _) => .error .compoundType
      | some (.object _) => .error .compoundType
      | type => .error (.unknownType filter name (type.getD .null))
  | _ => .error (.conditionNotSection filter name)

def conditions (modifierRelations : List String) (filter : String) :
    Members → Except DefinitionError (List Condition)
  | [] => .ok []
  | (name, settings) :: rest =>
      match condition modifierRelations filter name settings with
      | .error cause => .error cause
      | .ok c =>
          match conditions modifierRelations filter rest with
          | .error cause => .error cause
          | .ok others => .ok (c :: others)

def filter (modifierRelations : List String) (name : String) :
    Json → Except DefinitionError Filter
  | .object settings =>
      match conditions modifierRelations name settings with
      | .error cause => .error cause
      | .ok cs => .ok ⟨name, cs⟩
  | _ => .error (.filterNotSection name)

def filterList (modifierRelations : List String) :
    List (String × Json) → Except DefinitionError (List Filter)
  | [] => .ok []
  | (name, settings) :: rest =>
      match filter modifierRelations name settings with
      | .error cause => .error cause
      | .ok f =>
          match filterList modifierRelations rest with
          | .error cause => .error cause
          | .ok others => .ok (f :: others)

def filters (modifierRelations : List String) : Json → Except DefinitionError (List Filter)
  | .object sections => filterList modifierRelations sections
  | _ => .error .sectionsNotObject

/-- The section of filters of a configuration. -/
def sections : Json → Except DefinitionError Json
  | .object configuration =>
      match Members.get? "filters" configuration with
      | some value => .ok value
      | none => .error .noSections
  | .array items =>
      if Json.hasString "filters" items then .error .notConfiguration else .error .noSections
  | .string _ => .error .notConfiguration
  | _ => .error .notConfiguration

end Definition

end GrammarSieve
