/-
What conditions and filters ask of a vine, said without the order in which alternatives are
tried.  A condition whose field suits its kind has an answer on every vine, and so has a filter
of such conditions.
-/
import GrammarSieve.Filter.Basic
import GrammarSieve.Proofs.Vine.FlatStar

namespace GrammarSieve

/-- The field of a condition is one that its kind can address. -/
def Condition.Suited : Condition → Prop
  | .word _ field => field = .text ∨ field = .scrubbedText
  | .tagged _ => True
  | .relation _ => True
  | .phrase _ _ field _ => ∃ side : Side, field = side.field
  | .endpointTag _ _ field => ∃ side : Side, field = side.field

namespace Vine

/-- The text in which a condition on words looks for them. -/
def textFor (v : Vine) (field : Field) : String :=
  if field = .scrubbedText then v.scrubbedText else v.text

/-- The vine fulfils a condition: one of its alternatives is there. -/
def Fulfils (v : Vine) : Condition → Prop
  | .word words field => ∃ word ∈ words, ∃ found ∈ Text.words (v.textFor field).toList,
      Text.lower found = Text.lower word.toList
  | .tagged tokens => ∃ t ∈ tokens, t ∈ v.taggedTokens
  | .relation relations => ∃ e ∈ v.edges, e.relation ∈ relations
  | .phrase phrases relations field modifierRelations =>
      ∃ side : Side, field = side.field ∧ ∃ phrase ∈ phrases,
        FlatStar (· ∈ v.edges) (RelationChoice.ofList? relations).Allows (· ∈ modifierRelations)
          side (Text.wordStrings phrase)
  | .endpointTag tags relations field =>
      ∃ side : Side, field = side.field ∧ ∃ e ∈ v.edges, e.relation ∈ relations ∧
        ∃ t, v.taggedTokens[(e.tokenAt side).position]? = some t ∧ t.tag ∈ tags

theorem containsWord_iff (v : Vine) (word : String) (field : Field) :
    v.containsWord word (field == .scrubbedText) = true ↔
      ∃ found ∈ Text.words (v.textFor field).toList, Text.lower found = Text.lower word.toList := by
  simp [containsWord, textFor, List.any_eq_true]

end Vine

theorem Side.field_injective {a b : Side} (h : a.field = b.field) : a = b := by
  cases a <;> cases b <;> first | rfl | contradiction

namespace Condition

/-- At a side, trying phrases in order is asking whether any of them is a flat star. -/
theorem findsPhrase_side (v : Vine) (relations : Option (List String)) (side : Side)
    (modifierRelations phrases : List String) :
    ∃ found, findsPhrase v relations side.field modifierRelations phrases = .ok found ∧
      (found = true ↔ ∃ phrase ∈ phrases,
        FlatStar (· ∈ v.edges) (RelationChoice.ofList? relations).Allows (· ∈ modifierRelations)
          side (Text.wordStrings phrase)) := by
  induction phrases with
  | nil => exact ⟨false, rfl, by simp⟩
  | cons wanted rest ih =>
      obtain ⟨first, hfirst, hstar⟩ :=
        v.containsPhrase_side wanted (.ofList? relations) side modifierRelations
      obtain ⟨others, hothers, hrest⟩ := ih
      simp only [findsPhrase, hfirst, List.mem_cons, exists_eq_or_imp, ← hstar, ← hrest]
      cases first with
      | false => exact ⟨others, hothers, by simp⟩
      | true => exact ⟨true, rfl, by simp⟩

/-- The tagged tokens of a vine at one side of its edges with a relation. -/
def tagsAt (v : Vine) (side : Side) (relation : String) : List TaggedToken :=
  (v.ownedEdgesNamed relation).filterMap (·.tagAt side)

theorem mem_tagsAt_iff (v : Vine) (side : Side) (relation : String) (t : TaggedToken) :
    t ∈ tagsAt v side relation ↔ ∃ e ∈ v.edges, e.relation = relation ∧
      v.taggedTokens[(e.tokenAt side).position]? = some t := by
  simp only [tagsAt, Vine.ownedEdgesNamed, Vine.ownedEdges, List.mem_filterMap, List.mem_filter,
    List.mem_map, beq_iff_eq]
  constructor
  · intro h
    obtain ⟨-, ⟨⟨e, he, rfl⟩, hrelation⟩, ht⟩ := h
    exact ⟨e, he, hrelation, ht⟩
  · intro h
    obtain ⟨e, he, hrelation, ht⟩ := h
    exact ⟨⟨e, some v.taggedTokens⟩, ⟨⟨e, he, rfl⟩, hrelation⟩, ht⟩

/-- At a side, trying relations in order is asking whether any of them has an edge with one of
the tags there. -/
theorem findsTag_side (v : Vine) (tags : List String) (side : Side) (relations : List String) :
    findsTag v tags side.field relations =
      .ok (relations.any fun name => (tagsAt v side name).any (tags.contains ·.tag)) := by
  induction relations with
  | nil => rfl
  | cons name rest ih =>
      rw [findsTag, OwnedEdge.taggedTokens_side, ih, List.any_cons]
      change (if (tagsAt v side name).any (tags.contains ·.tag) = true then _ else _) = _
      cases (tagsAt v side name).any (tags.contains ·.tag) with
      | false => rfl
      | true => rfl

/-- A condition with a suitable field has an answer on every vine, and it is whether the vine
fulfils the condition. -/
theorem holds_of_suited {c : Condition} (h : c.Suited) (v : Vine) :
    ∃ answer, c.holds v = .ok answer ∧ (answer = true ↔ v.Fulfils c) := by
  cases c with
  | word words field =>
      refine ⟨_, rfl, ?_⟩
      simp only [List.any_eq_true, Vine.containsWord_iff, Vine.Fulfils]
  | tagged tokens =>
      refine ⟨_, rfl, ?_⟩
      simp [Vine.containsTagged, Vine.Fulfils]
  | relation relations =>
      refine ⟨_, rfl, ?_⟩
      simp only [List.any_eq_true, Vine.containsRelation, Vine.Fulfils, beq_iff_eq]
      constructor
      · intro hfound
        obtain ⟨name, hname, e, he, rfl⟩ := hfound
        exact ⟨e, he, hname⟩
      · intro hedge
        obtain ⟨e, he, hname⟩ := hedge
        exact ⟨e.relation, hname, e, he, rfl⟩
  | phrase phrases relations field modifierRelations =>
      obtain ⟨side, rfl⟩ := h
      obtain ⟨found, hfound, hiff⟩ :=
        findsPhrase_side v relations side modifierRelations phrases
      refine ⟨found, hfound, hiff.trans ⟨fun hstar => ⟨side, rfl, hstar⟩, ?_⟩⟩
      intro hfulfils
      obtain ⟨other, hside, hstar⟩ := hfulfils
      rwa [Side.field_injective hside]
  | endpointTag tags relations field =>
      obtain ⟨side, rfl⟩ := h
      refine ⟨_, findsTag_side v tags side relations, ?_⟩
      simp only [List.any_eq_true, mem_tagsAt_iff, List.contains_iff_mem, Vine.Fulfils]
      constructor
      · intro hfound
        obtain ⟨name, hname, t, ⟨e, he, rfl, ht⟩, htag⟩ := hfound
        exact ⟨side, rfl, e, he, hname, t, ht, htag⟩
      · intro hfulfils
        obtain ⟨other, hside, e, he, hname, t, ht, htag⟩ := hfulfils
        rw [← Side.field_injective hside] at ht
        exact ⟨e.relation, hname, t, ⟨e, he, rfl, ht⟩, htag⟩

theorem holds_eq_true_iff {c : Condition} (h : c.Suited) (v : Vine) :
    c.holds v = .ok true ↔ v.Fulfils c := by
  obtain ⟨answer, hanswer, hiff⟩ := holds_of_suited h v
  rw [hanswer, Except.ok.injEq, hiff]

end Condition

namespace Filter

def Suited (f : Filter) : Prop :=
  ∀ c ∈ f.conditions, c.Suited

theorem allHold_of_suited (v : Vine) {conditions : List Condition}
    (h : ∀ c ∈ conditions, c.Suited) :
    ∃ answer, allHold v conditions = .ok answer ∧
      (answer = true ↔ ∀ c ∈ conditions, v.Fulfils c) := by
  induction conditions with
  | nil => exact ⟨true, rfl, by simp⟩
  | cons c rest ih =>
      obtain ⟨hc, hrest⟩ := List.forall_mem_cons.mp h
      obtain ⟨first, hfirst, hfulfils⟩ := Condition.holds_of_suited hc v
      obtain ⟨others, hothers, hall⟩ := ih hrest
      rw [allHold, hfirst, List.forall_mem_cons, ← hfulfils, ← hall]
      cases first with
      | false => exact ⟨false, rfl, by simp⟩
      | true => exact ⟨others, hothers, by simp⟩

/-- A filter of suited conditions has an answer on every vine: the vine passes if there is a
condition at all and it fulfils every one of them. -/
theorem passes_of_suited {f : Filter} (h : f.Suited) (v : Vine) :
    ∃ answer, f.passes v = .ok answer ∧
      (answer = true ↔ f.conditions ≠ [] ∧ ∀ c ∈ f.conditions, v.Fulfils c) := by
  obtain ⟨answer, hanswer, hall⟩ := allHold_of_suited v h
  by_cases hempty : f.conditions = []
  · exact ⟨false, by simp [passes, hempty], by simp [hempty]⟩
  · exact ⟨answer, by simp [passes, hempty, hanswer], by simp [hempty, hall]⟩

theorem passes_eq_true_iff {f : Filter} (h : f.Suited) (v : Vine) :
    f.passes v = .ok true ↔ f.conditions ≠ [] ∧ ∀ c ∈ f.conditions, v.Fulfils c := by
  obtain ⟨answer, hanswer, hiff⟩ := passes_of_suited h v
  rw [hanswer, Except.ok.injEq, hiff]

end Filter

/-- Two answers are the same if they are both there and both yes or both no. -/
theorem eq_of_ok_true_iff {ε : Type} {first second : Except ε Bool}
    (hfirst : ∃ answer, first = .ok answer) (hsecond : ∃ answer, second = .ok answer)
    (h : first = .ok true ↔ second = .ok true) : first = second := by
  obtain ⟨answer, rfl⟩ := hfirst
  obtain ⟨other, rfl⟩ := hsecond
  rw [Except.ok.injEq, Except.ok.injEq] at h
  rw [Bool.eq_iff_iff.mpr h]

end GrammarSieve
