/-
Fields that name no side of an edge.  Such a field is complained about only by an edge that is
asked for its end there.  The search for a phrase asks the edges with an allowed relation, once the
phrase has a word, and the tags of a list of edges are asked of each of them, whether or not its
vine is still there.
-/
import GrammarSieve.Proofs.Text.Words
import GrammarSieve.Proofs.Vine.FlatStar

namespace GrammarSieve

/-- The field names neither side of an edge. -/
def Field.NoSide (field : Field) : Prop :=
  field ≠ .governor ∧ field ≠ .dependent

theorem Field.exists_side_or_noSide (field : Field) :
    (∃ side : Side, field = side.field) ∨ field.NoSide := by
  cases field with
  | governor => exact Or.inl ⟨.governor, rfl⟩
  | dependent => exact Or.inl ⟨.dependent, rfl⟩
  | text => exact Or.inr (by simp [NoSide])
  | scrubbedText => exact Or.inr (by simp [NoSide])
  | posTags => exact Or.inr (by simp [NoSide])

theorem Side.not_noSide_field (side : Side) : ¬ side.field.NoSide := by
  cases side <;> simp [field, Field.NoSide]

theorem Edge.endpoint_noSide (e : Edge) {field : Field} (h : field.NoSide) :
    e.endpoint field = .error (.notAnEndpoint field) := by
  obtain ⟨hgovernor, hdependent⟩ := h
  cases field <;> first | rfl | contradiction

namespace OwnedEdge

/-- An edge complains about the field before it looks for its vine. -/
theorem taggedToken_noSide (e : OwnedEdge) {field : Field} (h : field.NoSide) :
    e.taggedToken field = .error (.notAnEndpoint field) := by
  rw [taggedToken, Edge.endpoint_noSide _ h]

theorem taggedTokens_eq_error_iff {edges : List OwnedEdge} {field : Field} {cause : FieldError} :
    taggedTokens edges field = .error cause ↔
      cause = .notAnEndpoint field ∧ field.NoSide ∧ edges ≠ [] := by
  rcases field.exists_side_or_noSide with ⟨side, rfl⟩ | hfield
  · simp [taggedTokens_side, side.not_noSide_field]
  · cases edges with
    | nil => simp [taggedTokens]
    | cons e rest => simp [taggedTokens, taggedToken_noSide e hfield, hfield, eq_comm]

end OwnedEdge

namespace Vine

/-- The search for the phrase asks some edge for its end: the phrase has a word, and there is an
edge with an allowed relation. -/
def AsksAnEdge (v : Vine) (phrase : String) (relations : RelationChoice) : Prop :=
  (∃ word, Text.MaximalRun phrase.toList word) ∧ ∃ e ∈ v.edges, relations.Allows e.relation

theorem findsRoot_noSide {field : Field} (h : field.NoSide) (root : String)
    (relations : RelationChoice) (edges : List Edge) :
    findsRoot root relations field edges =
      if edges.any (relations.allows ·.relation) then .error (.notAnEndpoint field)
      else .ok false := by
  induction edges with
  | nil => rfl
  | cons e rest ih =>
      rw [findsRoot, Edge.endpointIs, Edge.endpoint_noSide e h, ih, List.any_cons]
      cases relations.allows e.relation with
      | false => rfl
      | true => rfl

theorem exists_maximalRun_iff {phrase : String} :
    (∃ word, Text.MaximalRun phrase.toList word) ↔ Text.wordStrings phrase ≠ [] := by
  simp only [Text.wordStrings, ne_eq, List.map_eq_nil_iff, ← Text.mem_words_iff]
  constructor
  · rintro ⟨word, hword⟩
    exact List.ne_nil_of_mem hword
  · exact List.exists_mem_of_ne_nil _

/-- At a field that names no side the search finds nothing, and complains if it asks an edge. -/
theorem containsPhrase_noSide (v : Vine) {field : Field} (h : field.NoSide) (phrase : String)
    (relations : RelationChoice) (modifierRelations : List String) :
    (v.AsksAnEdge phrase relations →
      v.containsPhrase phrase relations field modifierRelations = .error (.notAnEndpoint field)) ∧
    (¬ v.AsksAnEdge phrase relations →
      v.containsPhrase phrase relations field modifierRelations = .ok false) := by
  have hany : v.edges.any (relations.allows ·.relation) = true ↔
      ∃ e ∈ v.edges, relations.Allows e.relation := by
    simp only [List.any_eq_true, RelationChoice.allows_iff]
  simp only [containsPhrase, findsRoot_noSide h]
  cases hlast : (Text.wordStrings phrase).getLast? with
  | none =>
      have hnil : Text.wordStrings phrase = [] := List.getLast?_eq_none_iff.mp hlast
      exact ⟨fun hasks => absurd hnil (exists_maximalRun_iff.mp hasks.1), fun _ => rfl⟩
  | some root =>
      have hwords : Text.wordStrings phrase ≠ [] := by
        intro hnil
        simp [hnil] at hlast
      constructor
      · intro hasks
        simp [hany.mpr hasks.2]
      · intro hnone
        have hfalse : ¬ v.edges.any (relations.allows ·.relation) = true :=
          fun hsome => hnone ⟨exists_maximalRun_iff.mpr hwords, hany.mp hsome⟩
        simp [hfalse]

theorem containsPhrase_eq_error_iff {v : Vine} {phrase : String} {relations : RelationChoice}
    {field : Field} {modifierRelations : List String} {cause : FieldError} :
    v.containsPhrase phrase relations field modifierRelations = .error cause ↔
      cause = .notAnEndpoint field ∧ field.NoSide ∧ v.AsksAnEdge phrase relations := by
  rcases field.exists_side_or_noSide with ⟨side, rfl⟩ | hfield
  · obtain ⟨found, hfound, -⟩ := v.containsPhrase_side phrase relations side modifierRelations
    simp [hfound, side.not_noSide_field]
  · obtain ⟨hasked, hunasked⟩ :=
      v.containsPhrase_noSide hfield phrase relations modifierRelations
    by_cases hasks : v.AsksAnEdge phrase relations
    · simp [hasked hasks, hfield, hasks, eq_comm]
    · simp [hunasked hasks, hasks]

/-- A field that names no side is complained about exactly if an edge is asked for its end there.
Otherwise the phrase is not found, and a list without edges has no tags.  At the governor and at the
dependent every search has an answer. -/
theorem complaint_iff_asks (field : Field) :
    (∀ (v : Vine) (phrase : String) (relations : RelationChoice) (modifierRelations : List String),
      (∀ cause, v.containsPhrase phrase relations field modifierRelations = .error cause ↔
        cause = .notAnEndpoint field ∧ field.NoSide ∧ v.AsksAnEdge phrase relations) ∧
      (field.NoSide → ¬ v.AsksAnEdge phrase relations →
        v.containsPhrase phrase relations field modifierRelations = .ok false)) ∧
    (∀ edges cause, OwnedEdge.taggedTokens edges field = .error cause ↔
      cause = .notAnEndpoint field ∧ field.NoSide ∧ edges ≠ []) ∧
    OwnedEdge.taggedTokens [] field = .ok [] ∧
    (field = .governor ∨ field = .dependent →
      (∀ (v : Vine) (phrase : String) (relations : RelationChoice)
        (modifierRelations : List String),
        ∃ found, v.containsPhrase phrase relations field modifierRelations = .ok found) ∧
      ∀ edges, ∃ found, OwnedEdge.taggedTokens edges field = .ok found) := by
  refine ⟨?_, ?_, rfl, ?_⟩
  · intro v phrase relations modifierRelations
    refine ⟨fun cause => containsPhrase_eq_error_iff, ?_⟩
    intro hfield hunasked
    exact (v.containsPhrase_noSide hfield phrase relations modifierRelations).2 hunasked
  · intro edges cause
    exact OwnedEdge.taggedTokens_eq_error_iff
  · intro hside
    obtain ⟨side, rfl⟩ : ∃ side : Side, field = side.field := by
      rcases hside with rfl | rfl
      · exact ⟨.governor, rfl⟩
      · exact ⟨.dependent, rfl⟩
    constructor
    · intro v phrase relations modifierRelations
      obtain ⟨found, hfound, -⟩ := v.containsPhrase_side phrase relations side modifierRelations
      exact ⟨found, hfound⟩
    · intro edges
      exact ⟨_, OwnedEdge.taggedTokens_side edges side⟩

/-- The text is no side of an edge.  The one edge here is asked for it if its relation is allowed
and the phrase has a word; its tag is asked for it although the edge belongs to no vine. -/
theorem complaint_iff_asks_text :
    let e : Edge := ⟨"nn", ⟨"pepper", 1⟩, ⟨"bell", 0⟩⟩
    let v : Vine := ⟨[], "1", "", "", "", [], [e], []⟩
    v.containsPhrase "pepper" (.one "nn") .text [] = .error (.notAnEndpoint .text) ∧
      v.containsPhrase "pepper" (.one "amod") .text [] = .ok false ∧
      v.containsPhrase " \t" .any .text [] = .ok false ∧
      OwnedEdge.taggedTokens [⟨e, none⟩] .text = .error (.notAnEndpoint .text) ∧
      OwnedEdge.taggedTokens [] .text = .ok [] ∧
      ∃ found, v.containsPhrase "pepper" (.one "nn") .dependent [] = .ok found := by
  intro e v
  obtain ⟨hphrase, htags, hempty, -⟩ := complaint_iff_asks .text
  obtain ⟨-, -, -, hside⟩ := complaint_iff_asks .dependent
  have hwrong : Field.text.NoSide := ⟨by decide, by decide⟩
  have hword : ∃ word, Text.MaximalRun "pepper".toList word :=
    exists_maximalRun_iff.mpr (by decide)
  have hunallowed : ¬ ∃ e' ∈ v.edges, (RelationChoice.one "amod").Allows e'.relation := by
    simp [v, e, RelationChoice.Allows]
  have hblank : ¬ ∃ word, Text.MaximalRun " \t".toList word := by
    rw [exists_maximalRun_iff]
    decide
  refine ⟨?_, ?_, ?_, (htags _ _).mpr ⟨rfl, hwrong, by simp⟩, hempty, ?_⟩
  · exact ((hphrase v "pepper" (.one "nn") []).1 _).mpr
      ⟨rfl, hwrong, hword, e, List.mem_cons_self, rfl⟩
  · exact (hphrase v "pepper" (.one "amod") []).2 hwrong fun hasks => hunallowed hasks.2
  · exact (hphrase v " \t" .any []).2 hwrong fun hasks => hblank hasks.1
  · exact (hside (Or.inr rfl)).1 v "pepper" (.one "nn") []

end Vine

end GrammarSieve
