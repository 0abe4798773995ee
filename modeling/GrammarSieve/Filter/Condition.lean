/-
Conditions on a vine.  Each kind of condition holds a list of alternatives, and a vine
fulfils the condition if it satisfies any one of them.
-/
import GrammarSieve.Vine.Phrase

namespace GrammarSieve

inductive Condition where
  | word (words : List String) (field : Field)
  | tagged (tokens : List TaggedToken)
  | relation (relations : List String)
  /-- A phrase whose root is an endpoint of an edge with one of the relations, or with any
  relation if none are listed. -/
  | phrase (phrases : List String) (relations : Option (List String)) (field : Field)
      (modifierRelations : List String)
  | endpointTag (tags relations : List String) (field : Field)
deriving DecidableEq, Repr

/-- The kinds of condition. -/
inductive Condition.Kind where
  | word
  | tagged
  | relation
  | phrase
  | endpointTag
deriving DecidableEq, Repr

/-- The label of a kind of condition in settings. -/
def Condition.Kind.label : Condition.Kind → String
  | .word => "strict_string"
  | .tagged => "tagged_token"
  | .relation => "grammar_dependency"
  | .phrase => "target_word_in_grammar_dependency"
  | .endpointTag => "tag_in_grammar_dependency"

namespace Condition

def kind : Condition → Kind
  | .word .. => .word
  | .tagged .. => .tagged
  | .relation .. => .relation
  | .phrase .. => .phrase
  | .endpointTag .. => .endpointTag

def label (c : Condition) : String :=
  c.kind.label

/-- One of the phrases is present.  They are tried in order, up to the first that is. -/
def findsPhrase (v : Vine) (relations : Option (List String)) (field : Field)
    (modifierRelations : List String) : List String → Except FieldError Bool
  | [] => .ok false
  | wanted :: rest =>
      match v.containsPhrase wanted (.ofList? relations) field modifierRelations with
      | .error cause => .error cause
      | .ok true => .ok true
      | .ok false => findsPhrase v relations field modifierRelations rest

/-- An edge with one of the relations has one of the tags at its endpoint.  The relations are
tried in order, up to the first that finds one. -/
def findsTag (v : Vine) (tags : List String) (field : Field) :
    List String → Except FieldError Bool
  | [] => .ok false
  | name :: rest =>
      match OwnedEdge.taggedTokens (v.ownedEdgesNamed name) field with
      | .error cause => .error cause
      | .ok found =>
          if found.any (tags.contains ·.tag) then .ok true else findsTag v tags field rest

def holds (c : Condition) (v : Vine) : Except FieldError Bool :=
  match c with
  | .word words field => .ok (words.any (v.containsWord · (field == .scrubbedText)))
  | .tagged tokens => .ok (tokens.any v.containsTagged)
  | .relation relations => .ok (relations.any v.containsRelation)
  | .phrase phrases relations field modifierRelations =>
      findsPhrase v relations field modifierRelations phrases
  | .endpointTag tags relations field => findsTag v tags field relations

end Condition

end GrammarSieve
