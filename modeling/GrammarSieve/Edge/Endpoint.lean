/-
The endpoints of an edge, and the tagged tokens found there.  An endpoint names a position,
which is looked up among the tagged tokens of the vine that the edge belongs to.  An edge
that belongs to no vine, or whose vine is gone, finds nothing.
-/
import GrammarSieve.Edge.Basic
import GrammarSieve.Field

namespace GrammarSieve

/-- The token at an end of the edge.  Only the governor and the dependent are ends. -/
def Edge.endpoint (e : Edge) : Field → Except FieldError EnumeratedToken
  | .governor => .ok e.governor
  | .dependent => .ok e.dependent
  | field => .error (.notAnEndpoint field)

/-- The token at an end of the edge is this one, whatever its position. -/
def Edge.endpointIs (e : Edge) (field : Field) (token : String) : Except FieldError Bool :=
  match e.endpoint field with
  | .ok found => .ok (found.token == token)
  | .error cause => .error cause

/-- An edge with the tagged tokens of the vine that it belongs to, as long as there is one. -/
structure OwnedEdge where
  edge : Edge
  owner : Option (List TaggedToken)
deriving DecidableEq, Repr

namespace OwnedEdge

/-- Two edges are the same if they agree in relation, governor and dependent, whatever vines
they belong to. -/
def same (a b : OwnedEdge) : Bool :=
  a.edge = b.edge

def orphan (e : OwnedEdge) : OwnedEdge :=
  { e with owner := none }

/-- The tagged token at an end of the edge, if the position lies inside the tagged tokens of
its vine. -/
def taggedToken (e : OwnedEdge) (field : Field) : Except FieldError (Option TaggedToken) :=
  match e.edge.endpoint field with
  | .error cause => .error cause
  | .ok found => .ok (e.owner.bind (·[found.position]?))

/-- The tagged tokens found at an end of each edge, in order.  Every edge is looked up in its
own vine, and edges that find nothing are passed over. -/
def taggedTokens : List OwnedEdge → Field → Except FieldError (List TaggedToken)
  | [], _ => .ok []
  | e :: rest, field =>
      match e.taggedToken field with
      | .error cause => .error cause
      | .ok found =>
          match taggedTokens rest field with
          | .error cause => .error cause
          | .ok others => .ok (found.toList ++ others)

end OwnedEdge

end GrammarSieve
