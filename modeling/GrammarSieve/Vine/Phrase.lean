/-
Phrases in a dependency parse.  The last word of a phrase is its root, and the root has to be
an endpoint of an edge with an allowed relation.  Every other word has to be attached to the
root directly, as the dependent of an edge with a modifier relation.  The words before the
root may attach in any order, and modifiers of modifiers are not followed.
-/
import GrammarSieve.Vine.Basic

namespace GrammarSieve

/-- The relations that attach a modifier to the root of a phrase, unless others are given. -/
def defaultModifierRelations : List String :=
  ["amod", "nn"]

/-- The relations in which a root is looked for: any at all, a single one by its whole name,
or those of a list. -/
inductive RelationChoice where
  | any
  | one (name : String)
  | listed (names : List String)
deriving DecidableEq, Repr

namespace RelationChoice

def allows : RelationChoice → String → Bool
  | .any, _ => true
  | .one name, relation => relation == name
  | .listed names, relation => names.contains relation

/-- The choice of a list of names; without a list every relation is allowed. -/
def ofList? : Option (List String) → RelationChoice
  | none => .any
  | some names => .listed names

end RelationChoice

namespace Vine

/-- Some edge with an allowed relation has the root as its endpoint.  The edges are looked at
in order, up to the first one that has. -/
def findsRoot (root : String) (relations : RelationChoice) (field : Field) :
    List Edge → Except FieldError Bool
  | [] => .ok false
  | e :: rest =>
      if relations.allows e.relation then
        match e.endpointIs field root with
        | .error cause => .error cause
        | .ok true => .ok true
        | .ok false => findsRoot root relations field rest
      else findsRoot root relations field rest

/-- Marks every word that the dependent of an edge attaches. -/
def markAttached (modifiers : List String) (dependent : String) (marks : List Bool) :
    List Bool :=
  List.zipWith (fun word mark => mark || word == dependent) modifiers marks

/-- The marks after one modifier relation: the dependents of its edges that lead from the
root. -/
def markRelation (v : Vine) (root : String) (modifiers : List String) (marks : List Bool)
    (relation : String) : List Bool :=
  ((v.edgesNamed relation).filter (·.governor.token == root)).foldl
    (fun marks e => markAttached modifiers e.dependent.token marks) marks

/-- Which of the words before the root are attached to it. -/
def attachedMarks (v : Vine) (root : String) (modifiers : List String)
    (modifierRelations : List String) : List Bool :=
  modifierRelations.foldl (v.markRelation root modifiers) (modifiers.map fun _ => false)

/-- The phrase is present in the dependency parse.  A phrase without words never is, and
nothing is asked of the field unless some edge has an allowed relation. -/
def containsPhrase (v : Vine) (phrase : String) (relations : RelationChoice)
    (field : Field) (modifierRelations : List String) : Except FieldError Bool :=
  let words := Text.wordStrings phrase
  match words.getLast? with
  | none => .ok false
  | some root =>
      match findsRoot root relations field v.edges with
      | .error cause => .error cause
      | .ok false => .ok false
      | .ok true => .ok ((v.attachedMarks root words.dropLast modifierRelations).all fun mark => mark)

end Vine

end GrammarSieve
