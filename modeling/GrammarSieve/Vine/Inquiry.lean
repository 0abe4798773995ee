/-
Inquiries into a vine.  An inquiry is a list of steps, and a step either asks a question,
which leaves the vine as it is, or adds to the log.  Each step has an answer, and the vine as
it is afterwards is handed to the next one.
-/
import GrammarSieve.Filter.Basic
import GrammarSieve.Vine.Document

namespace GrammarSieve

/-- What can be asked of a vine.  Edges are named by their place among its edges. -/
inductive Question where
  | hasRelation (relation : String)
  | hasTagged (t : TaggedToken)
  | hasWord (word : String) (scrubbed : Bool)
  | hasPhrase (phrase : String) (relations : RelationChoice) (field : Field)
      (modifierRelations : List String)
  | edgesNamed (relation : String)
  /-- The tagged tokens at the edges with this relation, or at all edges. -/
  | tagged (relation : Option String) (field : Field)
  /-- The tagged tokens at edges that may belong to other vines. -/
  | taggedOf (edges : List OwnedEdge) (field : Field)
  | endpointIs (place : Nat) (field : Field) (token : String)
  | endpoint (place : Nat) (field : Field)
  | tagAt (place : Nat) (field : Field)
  | document
  | stored
  | log
  /-- The vine with all that it holds. -/
  | whole
  /-- The vine that is read from the document with the log in it. -/
  | reread
deriving Repr

inductive Inquiry where
  | ask (question : Question)
  | record (name : String)
  | evaluate (filter : Filter)
deriving Repr

inductive Answer where
  | done
  | truth (value : Bool)
  | edges (found : List Edge)
  | tokens (found : List TaggedToken)
  | token (found : EnumeratedToken)
  | tag (found : Option TaggedToken)
  | document (members : Members)
  | stored (text : List Char)
  | names (log : List String)
  | vine (found : Vine)
  | wrongField (cause : FieldError)
  | noEdge
  | notStorable
  | unreadable (cause : VineError)
deriving Repr

/-- The answer of a question that depends on a field. -/
def Answer.ofField {α : Type} (answer : α → Answer) : Except FieldError α → Answer
  | .ok value => answer value
  | .error cause => .wrongField cause

namespace Vine

def answerAt (v : Vine) (place : Nat) (question : OwnedEdge → Answer) : Answer :=
  match v.ownedEdges[place]? with
  | some e => question e
  | none => .noEdge

def answer (v : Vine) : Question → Answer
  | .hasRelation relation => .truth (v.containsRelation relation)
  | .hasTagged t => .truth (v.containsTagged t)
  | .hasWord word scrubbed => .truth (v.containsWord word scrubbed)
  | .hasPhrase phrase relations field modifierRelations =>
      .ofField .truth (v.containsPhrase phrase relations field modifierRelations)
  | .edgesNamed relation => .edges (v.edgesNamed relation)
  | .tagged none field => .ofField .tokens (OwnedEdge.taggedTokens v.ownedEdges field)
  | .tagged (some relation) field =>
      .ofField .tokens (OwnedEdge.taggedTokens (v.ownedEdgesNamed relation) field)
  | .taggedOf edges field => .ofField .tokens (OwnedEdge.taggedTokens edges field)
  | .endpointIs place field token =>
      v.answerAt place fun e => .ofField .truth (e.edge.endpointIs field token)
  | .endpoint place field => v.answerAt place fun e => .ofField .token (e.edge.endpoint field)
  | .tagAt place field => v.answerAt place fun e => .ofField .tag (e.taggedToken field)
  | .document => .document v.toDocument
  | .stored =>
      match v.store? with
      | some text => .stored text
      | none => .notStorable
  | .log => .names v.goodFilters
  | .whole => .vine v
  | .reread =>
      match ofDocument (.object v.toDocument) with
      | .ok found => .vine found
      | .error cause => .unreadable cause

def step (v : Vine) : Inquiry → Answer × Vine
  | .ask question => (v.answer question, v)
  | .record name => (.done, v.recordMatch name)
  | .evaluate filter =>
      match filter.evaluate v with
      | .ok (passed, after) => (.truth passed, after)
      | .error cause => (.wrongField cause, v)

def inquire : Vine → List Inquiry → List Answer × Vine
  | v, [] => ([], v)
  | v, first :: rest =>
      let (answer, v) := v.step first
      let (answers, v) := v.inquire rest
      (answer :: answers, v)

end Vine

end GrammarSieve
