/-
A vine is a short post together with the decoded results of parsing its text: tagged tokens
and dependency edges.  It keeps the document it was read from and a log of the filters it has
passed.  The log only ever grows, and nothing else about a vine changes.
-/
import GrammarSieve.Edge.Endpoint
import GrammarSieve.Json.Compact

namespace GrammarSieve

structure Vine where
  document : Members
  id : String
  url : String
  text : String
  scrubbedText : String
  taggedTokens : List TaggedToken
  edges : List Edge
  goodFilters : List String
deriving Repr

namespace Vine

def description (v : Vine) : String :=
  "Vine(" ++ Text.quoted v.id ++ ")"

/-- Writes the name of a filter at the end of the log. -/
def recordMatch (v : Vine) (name : String) : Vine :=
  { v with goodFilters := v.goodFilters ++ [name] }

/-- The key under which the log is added to the document. -/
def logKey : String := "good_filters"

/-- The document with the log in it: in place of an old log, or at the end. -/
def toDocument (v : Vine) : Members :=
  Members.put logKey (.array (v.goodFilters.map .string)) v.document

/-- The stored text of the document with its log, if it has one. -/
def store? (v : Vine) : Option (List Char) :=
  (Json.object v.toDocument).store?

def ownedEdges (v : Vine) : List OwnedEdge :=
  v.edges.map fun e => ⟨e, some v.taggedTokens⟩

def edgesNamed (v : Vine) (relation : String) : List Edge :=
  v.edges.filter (·.relation == relation)

def ownedEdgesNamed (v : Vine) (relation : String) : List OwnedEdge :=
  v.ownedEdges.filter (·.edge.relation == relation)

def containsRelation (v : Vine) (relation : String) : Bool :=
  v.edges.any (·.relation == relation)

def containsTagged (v : Vine) (t : TaggedToken) : Bool :=
  v.taggedTokens.contains t

/-- The string is one of the words of the text, or of the scrubbed text, when case is
disregarded. -/
def containsWord (v : Vine) (word : String) (scrubbed : Bool) : Bool :=
  let text := if scrubbed then v.scrubbedText else v.text
  let target := Text.lower word.toList
  (Text.words text.toList).any fun found => Text.lower found == target

end Vine

end GrammarSieve
