/-
From the text of a document to the tagged tokens at its edges.  The index that the text of an edge
has at a side is a position among the tag entries of the same document, and the entry there is what
the edge finds.  Positions behind the last entry find nothing, and neither does an edge without a
vine.  In a list of edges each one is looked up in its own vine, whichever vine is asked.
-/
import GrammarSieve.Proofs.Vine.Reading
import GrammarSieve.Proofs.Edge.Endpoint
import GrammarSieve.Vine.Inquiry
import Mathlib.Data.List.ReduceOption

namespace GrammarSieve

namespace Edge

/-- The index that is written at a side. -/
def Spelling.indexAt (s : Spelling) : Side → WrittenIndex
  | .governor => s.governorIndex
  | .dependent => s.dependentIndex

/-- The text is that of an edge, and the digits of its index at the side are worth this position. -/
def PositionAt (text : List Char) (side : Side) (position : Nat) : Prop :=
  ∃ (e : Edge) (s : Spelling), Spellable e ∧ text = s.chars e ∧
    Text.decimalValue (s.indexAt side).digits = position

/-- The edge with the positions that the spelling gives to its tokens. -/
def placed (e : Edge) (s : Spelling) : Edge :=
  { e with
    governor := { e.governor with position := s.governorIndex.value }
    dependent := { e.dependent with position := s.dependentIndex.value } }

theorem spells_placed {e : Edge} {s : Spelling} (h : Spellable e) :
    Spells (s.chars e) (e.placed s) where
  spellable :=
    { relation_ne_empty := h.relation_ne_empty
      paren_not_mem_relation := h.paren_not_mem_relation
      governor_ne_empty := h.governor_ne_empty
      governor_anchorless := h.governor_anchorless
      dependent_ne_empty := h.dependent_ne_empty
      comma_not_mem_dependent := h.comma_not_mem_dependent }
  exists_spelling := ⟨s, rfl, rfl, rfl⟩

theorem position_placed (e : Edge) (s : Spelling) (side : Side) :
    ((e.placed s).tokenAt side).position = (s.indexAt side).value := by
  cases side <;> rfl

/-- The position that is decoded is the one that is written. -/
theorem positionAt_iff {text : String} {e : Edge} (h : decode text = .ok e) (side : Side)
    (position : Nat) :
    PositionAt text.toList side position ↔ position = (e.tokenAt side).position := by
  constructor
  · intro hposition
    obtain ⟨other, s, hspellable, htext, rfl⟩ := hposition
    have hspells : Spells text.toList (other.placed s) := htext ▸ spells_placed hspellable
    obtain rfl := (spells_iff_eq_of_decode h).mp hspells
    exact (position_placed other s side).symm
  · rintro rfl
    obtain ⟨hspellable, s, hgovernor, hdependent, htext⟩ := spells_of_decode h
    refine ⟨e, s, hspellable, htext, ?_⟩
    cases side with
    | governor => exact hgovernor
    | dependent => exact hdependent

end Edge

/-- What the tag entries of a document say of a position: the entry there, decoded, or nothing if
the entries end before it. -/
inductive Document.TagAt (document : Members) (position : Nat) : Option TaggedToken → Prop where
  | inside {entries : List Json} {text : String} {t : TaggedToken}
      (hentries : document.get? "pos_tags" = some (.array entries))
      (htext : entries[position]? = some (.string text))
      (hdecode : TaggedToken.decode text = .ok t) : TagAt document position (some t)
  | outside {entries : List Json} (hentries : document.get? "pos_tags" = some (.array entries))
      (hlength : entries.length ≤ position) : TagAt document position none

namespace Vine.ReadFrom

variable {document : Members} {v : Vine}

/-- A vine has at each position the tagged token that its document says. -/
theorem tagAt_iff (h : ReadFrom document v) (position : Nat) (found : Option TaggedToken) :
    Document.TagAt document position found ↔ found = v.taggedTokens[position]? := by
  constructor
  · intro htag
    cases htag with
    | inside hentries htext hdecode =>
        obtain ⟨t, ht, hdecode'⟩ := h.getElem?_taggedTokens hentries htext
        rw [ht, Except.ok.inj (hdecode.symm.trans hdecode')]
    | outside hentries hlength =>
        rw [List.getElem?_eq_none ((h.forall₂_taggedTokens hentries).length_eq ▸ hlength)]
  · rintro rfl
    cases hfound : v.taggedTokens[position]? with
    | some t =>
        obtain ⟨entries, text, hentries, htext, hdecode⟩ := h.getElem?_entries hfound
        exact .inside hentries htext hdecode
    | none =>
        obtain ⟨entries, hentries, hdecoded⟩ := h.taggedTokens
        exact .outside hentries (hdecoded.length_eq ▸ List.getElem?_eq_none_iff.mp hfound)

/-- Each dependency entry is the text of the edge at its place.  The text has the position at which
the edge looks for a tagged token, and the tag entries have what it finds there. -/
theorem exists_resolution (h : ReadFrom document v) (side : Side) {entries : List Json}
    (hentries : document.get? "grammar_dependencies" = some (.array entries)) {place : Nat}
    {entry : Json} (hentry : entries[place]? = some entry) :
    ∃ text e, entry = .string text ∧ v.ownedEdges[place]? = some e ∧
      (∀ position, Edge.PositionAt text.toList side position ↔
        position = (e.edge.tokenAt side).position) ∧
      ∀ found, Document.TagAt document (e.edge.tokenAt side).position found ↔
        found = e.tagAt side := by
  obtain ⟨e, he, hok⟩ := exists_getElem?_of_forall₂ (h.forall₂_edges hentries) hentry
  obtain ⟨text, rfl, hdecode⟩ := Edge.ofJson_eq_ok_iff.mp hok
  have howned : v.ownedEdges[place]? = some ⟨e, some v.taggedTokens⟩ := by
    rw [ownedEdges, List.getElem?_map, he, Option.map_some]
  exact ⟨text, _, rfl, howned, Edge.positionAt_iff hdecode side, h.tagAt_iff _⟩

theorem length_ownedEdges (h : ReadFrom document v) {entries : List Json}
    (hentries : document.get? "grammar_dependencies" = some (.array entries)) :
    v.ownedEdges.length = entries.length := by
  rw [ownedEdges, List.length_map, (h.forall₂_edges hentries).length_eq]

end Vine.ReadFrom

namespace OwnedEdge

/-- The edge belongs to a vine that was read from a document, or did before the vine was gone, or
was read from its text without a vine. -/
inductive Drawn : OwnedEdge → Prop where
  | living {document : Json} {owner : Vine} {e : OwnedEdge}
      (howner : Vine.ofDocument document = .ok owner) (hedge : e ∈ owner.ownedEdges) : Drawn e
  | gone {document : Json} {owner : Vine} {e : OwnedEdge}
      (howner : Vine.ofDocument document = .ok owner) (hedge : e ∈ owner.ownedEdges) :
      Drawn e.orphan
  | unowned {text : String} {e : Edge} (hdecode : Edge.decode text = .ok e) : Drawn ⟨e, none⟩

/-- What an edge finds at a side, as the texts have it.  Only an edge of a vine that lives finds
anything: what the document of this vine says of the position that is written in the text. -/
inductive Resolves (side : Side) : OwnedEdge → Option TaggedToken → Prop where
  | living {document : Members} {owner : Vine} {entries : List Json} {place position : Nat}
      {text : String} {e : OwnedEdge} {found : Option TaggedToken}
      (howner : Vine.ofDocument (.object document) = .ok owner)
      (hedge : owner.ownedEdges[place]? = some e)
      (hentries : document.get? "grammar_dependencies" = some (.array entries))
      (htext : entries[place]? = some (.string text))
      (hposition : Edge.PositionAt text.toList side position)
      (hfound : Document.TagAt document position found) : Resolves side e found
  | ownerless {e : Edge} : Resolves side ⟨e, none⟩ none

variable {side : Side}

theorem Resolves.eq_tagAt {e : OwnedEdge} {found : Option TaggedToken}
    (h : Resolves side e found) : found = e.tagAt side := by
  cases h with
  | living howner hedge hentries htext hposition hfound =>
      have hread := Vine.ofDocument_object_eq_ok_iff.mp howner
      obtain ⟨_, other, ⟨⟩, hother, hpositions, htags⟩ :=
        hread.exists_resolution side hentries htext
      obtain rfl := Option.some.inj (hother.symm.trans hedge)
      obtain rfl := (hpositions _).mp hposition
      exact (htags found).mp hfound
  | ownerless => rfl

/-- Every edge that was drawn finds something or nothing, as the texts have it. -/
theorem Drawn.resolves {e : OwnedEdge} (h : Drawn e) : Resolves side e (e.tagAt side) := by
  cases h with
  | living howner hedge =>
      obtain ⟨members, rfl, hread⟩ := Vine.ofDocument_eq_ok_iff.mp howner
      obtain ⟨place, hplace⟩ := List.mem_iff_getElem?.mp hedge
      obtain ⟨entries, hentries, -⟩ := hread.edges
      obtain ⟨entry, hentry⟩ : ∃ entry, entries[place]? = some entry := by
        have hlt := (List.getElem?_eq_some_iff.mp hplace).1
        rw [hread.length_ownedEdges hentries] at hlt
        exact ⟨_, List.getElem?_eq_getElem hlt⟩
      obtain ⟨text, other, rfl, hother, hpositions, htags⟩ :=
        hread.exists_resolution side hentries hentry
      obtain rfl := Option.some.inj (hother.symm.trans hplace)
      exact .living howner hplace hentries hentry ((hpositions _).mpr rfl) ((htags _).mpr rfl)
  | gone => exact .ownerless
  | unowned => exact .ownerless

/-- For a list of edges there is one list of what they find. -/
theorem forall₂_resolves_iff {drawn : List OwnedEdge} (h : ∀ e ∈ drawn, Drawn e)
    (found : List (Option TaggedToken)) :
    List.Forall₂ (Resolves side) drawn found ↔ found = drawn.map (·.tagAt side) := by
  constructor
  · intro hfound
    induction hfound with
    | nil => rfl
    | cons hfirst _ ih =>
        rw [List.map_cons, hfirst.eq_tagAt, ih (List.forall_mem_of_forall_mem_cons h)]
  · rintro rfl
    rw [List.forall₂_map_right_iff, List.forall₂_same]
    exact fun e he => (h e he).resolves

theorem filterMap_tagAt (drawn : List OwnedEdge) :
    drawn.filterMap (·.tagAt side) = (drawn.map (·.tagAt side)).reduceOption := by
  rw [List.reduceOption, List.filterMap_map, Function.id_comp]

end OwnedEdge

/-- Each edge of a vine finds the tag entry at the position that its text has at the side, if the
entries go that far.  It finds nothing without its vine, and neither does an edge that never had
one.  The tagged tokens of a list of edges are what the edges find, each in its own vine, whichever
vine is asked. -/
theorem Vine.endpoints_resolve_in_own_vine (side : Side) :
    (∀ (document : Members) (v : Vine), ofDocument (.object document) = .ok v →
        ∃ entries, document.get? "grammar_dependencies" = some (.array entries) ∧
          v.ownedEdges.length = entries.length ∧
          ∀ (place : Nat) (entry : Json), entries[place]? = some entry →
            ∃ (text : String) (e : OwnedEdge) (position : Nat) (found : Option TaggedToken),
              entry = .string text ∧ v.ownedEdges[place]? = some e ∧
              (∀ other, Edge.PositionAt text.toList side other ↔ other = position) ∧
              (∀ other, Document.TagAt document position other ↔ other = found) ∧
              e.taggedToken side.field = .ok found ∧
              e.orphan.taggedToken side.field = .ok none) ∧
      (∀ text e, Edge.decode text = .ok e →
        OwnedEdge.taggedToken ⟨e, none⟩ side.field = .ok none) ∧
      ∀ (receiver : Vine) (drawn : List OwnedEdge), (∀ e ∈ drawn, e.Drawn) →
        ∃ found, (∀ other, List.Forall₂ (OwnedEdge.Resolves side) drawn other ↔ other = found) ∧
          receiver.answer (.taggedOf drawn side.field) = .tokens found.reduceOption := by
  refine ⟨?_, ?_, ?_⟩
  · intro document v hv
    have hread := ofDocument_object_eq_ok_iff.mp hv
    obtain ⟨entries, hentries, -⟩ := hread.edges
    refine ⟨entries, hentries, hread.length_ownedEdges hentries, fun place entry hentry => ?_⟩
    obtain ⟨text, e, rfl, hedge, hpositions, htags⟩ := hread.exists_resolution side hentries hentry
    exact ⟨text, e, _, _, rfl, hedge, hpositions, htags, e.taggedToken_side side,
      e.orphan.taggedToken_side side⟩
  · intro text e _
    exact OwnedEdge.taggedToken_side ⟨e, none⟩ side
  · intro receiver drawn hdrawn
    refine ⟨_, OwnedEdge.forall₂_resolves_iff hdrawn, ?_⟩
    rw [answer, OwnedEdge.taggedTokens_side, OwnedEdge.filterMap_tagAt, Answer.ofField]

/-- Edges of two vines in one list, with one that points behind the tags and one whose vine is
gone.  The vine that is asked owns only the second. -/
theorem Vine.endpoints_resolve_in_own_vine_mixture :
    let document (tags edges : List Json) : Members := [("id", .string "1"), ("url", .string ""),
      ("text", .string ""), ("scrubbed_text", .string ""), ("pos_tags", .array tags),
      ("grammar_dependencies", .array edges)]
    let entries := [Json.string "nsubj(runs-1,dog-0)", .string "dep(dog-0,far-20)"]
    let dogs := document [.string "NN-dog", .string "VB-runs"] entries
    let peppers := document [.string "JJ-hot"] [.string "amod(pepper-1,hot-0)"]
    ∃ v w dog far hot, ofDocument (.object dogs) = .ok v ∧ ofDocument (.object peppers) = .ok w ∧
      v.ownedEdges = [dog, far] ∧ w.ownedEdges = [hot] ∧
      Edge.PositionAt "dep(dog-0,far-20)".toList .dependent 20 ∧
      far.taggedToken .dependent = .ok none ∧
      w.answer (.taggedOf [far, hot, dog.orphan, dog] .dependent) =
        .tokens [⟨"JJ", "hot"⟩, ⟨"NN", "dog"⟩] := by
  intro document entries dogs peppers
  let tags : List TaggedToken := [⟨"NN", "dog"⟩, ⟨"VB", "runs"⟩]
  let dog : Edge := ⟨"nsubj", ⟨"runs", 1⟩, ⟨"dog", 0⟩⟩
  let far : Edge := ⟨"dep", ⟨"dog", 0⟩, ⟨"far", 20⟩⟩
  let hot : Edge := ⟨"amod", ⟨"pepper", 1⟩, ⟨"hot", 0⟩⟩
  let v : Vine := ⟨dogs, "1", "", "", "", tags, [dog, far], []⟩
  let w : Vine := ⟨peppers, "1", "", "", "", [⟨"JJ", "hot"⟩], [hot], []⟩
  have hv : ofDocument (.object dogs) = .ok v := by rfl
  have hw : ofDocument (.object peppers) = .ok w := by rfl
  obtain ⟨heach, -, hlist⟩ := Vine.endpoints_resolve_in_own_vine .dependent
  -- the edge that points behind the tags
  obtain ⟨others, hothers, -, hplaces⟩ := heach dogs v hv
  obtain rfl : entries = others := Json.array.inj (Option.some.inj hothers)
  obtain ⟨text, e, position, -, htext, he, hposition, -⟩ := hplaces 1 _ rfl
  obtain rfl := Json.string.inj htext
  obtain rfl := Option.some.inj he
  have hfar : OwnedEdge.taggedToken ⟨far, some tags⟩ .dependent = .ok none := by rfl
  have hdecode : Edge.decode "dep(dog-0,far-20)" = .ok far := by rfl
  have htwenty : position = 20 :=
    (Edge.positionAt_iff hdecode .dependent position).mp ((hposition position).mpr rfl)
  -- the list of edges
  have hdrawn : ∀ e ∈ [⟨far, some tags⟩, ⟨hot, some w.taggedTokens⟩,
      OwnedEdge.orphan ⟨dog, some tags⟩, ⟨dog, some tags⟩], e.Drawn := by
    simp only [List.forall_mem_cons, List.not_mem_nil, IsEmpty.forall_iff, implies_true, and_true]
    exact ⟨.living hv (by decide), .living hw (by decide), .gone hv (by decide),
      .living hv (by decide)⟩
  obtain ⟨tokens, htokens, hanswer⟩ := hlist w _ hdrawn
  obtain rfl := (OwnedEdge.forall₂_resolves_iff hdrawn tokens).mp ((htokens tokens).mpr rfl)
  exact ⟨v, w, _, _, _, hv, hw, rfl, rfl, (hposition 20).mpr htwenty.symm, hfar, hanswer⟩

end GrammarSieve
