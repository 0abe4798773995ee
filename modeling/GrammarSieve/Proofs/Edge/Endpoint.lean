/-
The two sides of an edge.  A field that names a side always has an endpoint, so that looking
tokens and tags up there cannot fail, and what is found is a plain function of the edge.
-/
import GrammarSieve.Edge.Endpoint

namespace GrammarSieve

/-- The ends at which an edge has a token. -/
inductive Side where
  | governor
  | dependent
deriving DecidableEq, Repr

/-- The field that names the side. -/
def Side.field : Side → Field
  | .governor => .governor
  | .dependent => .dependent

/-- The token at a side of the edge. -/
def Edge.tokenAt (e : Edge) : Side → EnumeratedToken
  | .governor => e.governor
  | .dependent => e.dependent

theorem Edge.endpoint_side (e : Edge) (side : Side) :
    e.endpoint side.field = .ok (e.tokenAt side) := by
  cases side <;> rfl

theorem Edge.endpointIs_side (e : Edge) (side : Side) (token : String) :
    e.endpointIs side.field token = .ok ((e.tokenAt side).token == token) := by
  rw [endpointIs, endpoint_side]

namespace OwnedEdge

/-- The tagged token of the owner at a side of the edge. -/
def tagAt (e : OwnedEdge) (side : Side) : Option TaggedToken :=
  e.owner.bind (·[(e.edge.tokenAt side).position]?)

theorem taggedToken_side (e : OwnedEdge) (side : Side) :
    e.taggedToken side.field = .ok (e.tagAt side) := by
  rw [taggedToken, Edge.endpoint_side, tagAt]

/-- At a side, the tagged tokens of a list of edges are those that are found, in order. -/
theorem taggedTokens_side (edges : List OwnedEdge) (side : Side) :
    taggedTokens edges side.field = .ok (edges.filterMap (·.tagAt side)) := by
  induction edges with
  | nil => rfl
  | cons e rest ih =>
      rw [taggedTokens, taggedToken_side, ih, List.filterMap_cons]
      cases e.tagAt side with
      | none => rfl
      | some t => rfl

end OwnedEdge

end GrammarSieve
