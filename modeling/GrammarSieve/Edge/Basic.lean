/-
Edges of a dependency parse: a relation that leads from a governor to a dependent, both of
them enumerated tokens.
-/
import GrammarSieve.Token

namespace GrammarSieve

/-- A labelled edge from its governor to its dependent. -/
structure Edge where
  relation : String
  governor : EnumeratedToken
  dependent : EnumeratedToken
deriving DecidableEq, Repr

namespace Edge

/-- The written form, `relation(governor-i,dependent-j)`, if both ends have one. -/
def chars? (e : Edge) : Option (List Char) :=
  match e.governor.chars?, e.dependent.chars? with
  | some governor, some dependent =>
      some (e.relation.toList ++ '(' :: governor ++ ',' :: dependent ++ [')'])
  | _, _ => none

def text? (e : Edge) : Option String :=
  e.chars?.map String.ofList

/-- The form that describes the edge as a value. -/
def description? (e : Edge) : Option String :=
  e.text?.map fun text => "GrammarDependency(" ++ text ++ ")"

end Edge

end GrammarSieve
