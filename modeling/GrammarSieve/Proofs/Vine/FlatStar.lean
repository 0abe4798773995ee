/-
Phrases as flat stars.  The last word of a phrase is the hub, found at one side of an edge with
an allowed relation, and every earlier word hangs from the hub by an edge of its own with a
modifier relation.  The search for a phrase marks the words that the edges seen so far attach,
and this is the invariant that carries it through all modifier relations.
-/
import GrammarSieve.Vine.Phrase
import GrammarSieve.Proofs.Edge.Endpoint

namespace GrammarSieve

/-- The words are a flat star among the edges: the last one stands at a side of an edge with an
allowed relation, and each of the others depends on the last one by a modifier relation. -/
def FlatStar (among : Edge → Prop) (allowed modifier : String → Prop) (side : Side)
    (words : List String) : Prop :=
  ∃ modifiers root, words = modifiers ++ [root] ∧
    (∃ e, among e ∧ allowed e.relation ∧ (e.tokenAt side).token = root) ∧
      ∀ word ∈ modifiers, ∃ e, among e ∧ modifier e.relation ∧ e.governor.token = root ∧
        e.dependent.token = word

theorem not_flatStar_nil (among : Edge → Prop) (allowed modifier : String → Prop) (side : Side) :
    ¬ FlatStar among allowed modifier side [] := by
  intro h
  obtain ⟨modifiers, root, hwords, -⟩ := h
  simp at hwords

theorem flatStar_append_iff {among : Edge → Prop} {allowed modifier : String → Prop}
    {side : Side} {modifiers : List String} {root : String} :
    FlatStar among allowed modifier side (modifiers ++ [root]) ↔
      (∃ e, among e ∧ allowed e.relation ∧ (e.tokenAt side).token = root) ∧
        ∀ word ∈ modifiers, ∃ e, among e ∧ modifier e.relation ∧ e.governor.token = root ∧
          e.dependent.token = word := by
  constructor
  · intro h
    obtain ⟨modifiers', root', hwords, hroot, hmodifiers⟩ := h
    obtain ⟨rfl, hlast⟩ := List.append_inj' hwords rfl
    obtain rfl := List.singleton_inj.mp hlast
    exact ⟨hroot, hmodifiers⟩
  · intro h
    obtain ⟨hroot, hmodifiers⟩ := h
    exact ⟨modifiers, root, rfl, hroot, hmodifiers⟩

/-- The labels of an edge: everything but the two positions. -/
def Edge.labels (e : Edge) : String × String × String :=
  (e.relation, e.governor.token, e.dependent.token)

theorem Edge.token_tokenAt_of_labels_eq {a b : Edge} (h : a.labels = b.labels) (side : Side) :
    (a.tokenAt side).token = (b.tokenAt side).token := by
  simp only [labels, Prod.mk.injEq] at h
  cases side with
  | governor => exact h.2.1
  | dependent => exact h.2.2

theorem exists_labels_eq {first second : List Edge}
    (h : first.map Edge.labels = second.map Edge.labels) :
    ∀ e ∈ first, ∃ e' ∈ second, e'.labels = e.labels := by
  intro e he
  have hmem : e.labels ∈ second.map Edge.labels := h ▸ List.mem_map_of_mem he
  simpa using hmem

/-- A flat star stays one when there are more labels among the edges and more relations
count. -/
theorem FlatStar.mono {among among' : Edge → Prop} {allowed allowed' : String → Prop}
    {modifier modifier' : String → Prop} {side : Side} {words : List String}
    (hamong : ∀ e, among e → ∃ e', among' e' ∧ e'.labels = e.labels)
    (hallowed : ∀ relation, allowed relation → allowed' relation)
    (hmodifier : ∀ relation, modifier relation → modifier' relation)
    (h : FlatStar among allowed modifier side words) :
    FlatStar among' allowed' modifier' side words := by
  obtain ⟨modifiers, root, rfl, ⟨e, hmem, hrelation, hroot⟩, hmodifiers⟩ := h
  refine ⟨modifiers, root, rfl, ?_, ?_⟩
  · obtain ⟨e', hmem', hlabels⟩ := hamong e hmem
    have hsame : e'.relation = e.relation := congrArg Prod.fst hlabels
    exact ⟨e', hmem', hsame ▸ hallowed _ hrelation,
      (Edge.token_tokenAt_of_labels_eq hlabels side).trans hroot⟩
  · intro word hword
    obtain ⟨e, hmem, hrelation, hgovernor, hdependent⟩ := hmodifiers word hword
    obtain ⟨e', hmem', hlabels⟩ := hamong e hmem
    have hsame : e'.relation = e.relation := congrArg Prod.fst hlabels
    exact ⟨e', hmem', hsame ▸ hmodifier _ hrelation,
      (Edge.token_tokenAt_of_labels_eq hlabels .governor).trans hgovernor,
      (Edge.token_tokenAt_of_labels_eq hlabels .dependent).trans hdependent⟩

/-- What a choice of relations means: any, the one of this whole name, or one of the list. -/
def RelationChoice.Allows : RelationChoice → String → Prop
  | .any, _ => True
  | .one name, relation => relation = name
  | .listed names, relation => relation ∈ names

theorem RelationChoice.allows_iff (relations : RelationChoice) (relation : String) :
    relations.allows relation = true ↔ relations.Allows relation := by
  cases relations <;> simp [allows, Allows]

namespace Vine

/-- At a side, looking for the root is asking whether any edge has it there. -/
theorem findsRoot_side (root : String) (relations : RelationChoice) (side : Side)
    (edges : List Edge) :
    findsRoot root relations side.field edges =
      .ok (edges.any fun e => relations.allows e.relation && (e.tokenAt side).token == root) := by
  induction edges with
  | nil => rfl
  | cons e rest ih =>
      rw [findsRoot, Edge.endpointIs_side, ih, List.any_cons]
      cases relations.allows e.relation with
      | false => simp
      | true => cases (e.tokenAt side).token == root <;> simp

/-- The marks of the words that the edges seen so far attach. -/
def marksOf (words : List String) (seen : List Edge) : List Bool :=
  words.map fun word => seen.any (·.dependent.token == word)

theorem markAttached_marksOf (words : List String) (seen : List Edge) (e : Edge) :
    markAttached words e.dependent.token (marksOf words seen) = marksOf words (seen ++ [e]) := by
  rw [markAttached, marksOf, marksOf, List.zipWith_map_right, List.zipWith_self]
  refine List.map_congr_left fun word _ => ?_
  rw [List.any_append, List.any_cons, List.any_nil, Bool.or_false, BEq.comm (a := word)]

/-- The marks after some edges are those of the edges before together with them. -/
theorem foldl_markAttached (words : List String) (seen edges : List Edge) :
    edges.foldl (fun marks e => markAttached words e.dependent.token marks) (marksOf words seen) =
      marksOf words (seen ++ edges) := by
  induction edges generalizing seen with
  | nil => rw [List.append_nil, List.foldl_nil]
  | cons e rest ih =>
      rw [List.foldl_cons, markAttached_marksOf, ih, List.append_assoc, List.singleton_append]

def edgesFrom (v : Vine) (root relation : String) : List Edge :=
  (v.edgesNamed relation).filter (·.governor.token == root)

/-- The marks after all modifier relations are those of all their edges from the root. -/
theorem foldl_markRelation (v : Vine) (root : String) (words : List String)
    (modifierRelations : List String) (seen : List Edge) :
    modifierRelations.foldl (v.markRelation root words) (marksOf words seen) =
      marksOf words (seen ++ modifierRelations.flatMap (v.edgesFrom root)) := by
  induction modifierRelations generalizing seen with
  | nil => rw [List.foldl_nil, List.flatMap_nil, List.append_nil]
  | cons relation rest ih =>
      rw [List.foldl_cons, markRelation, foldl_markAttached, ih, List.flatMap_cons,
        List.append_assoc]
      rfl

theorem attachedMarks_eq_marksOf (v : Vine) (root : String) (words : List String)
    (modifierRelations : List String) :
    v.attachedMarks root words modifierRelations =
      marksOf words (modifierRelations.flatMap (v.edgesFrom root)) := by
  have h := foldl_markRelation v root words modifierRelations []
  simpa [attachedMarks, marksOf] using h

/-- Every word is marked in the end if each of them depends on the root by one of the modifier
relations. -/
theorem all_attachedMarks_iff (v : Vine) (root : String) (words : List String)
    (modifierRelations : List String) :
    ((v.attachedMarks root words modifierRelations).all fun mark => mark) = true ↔
      ∀ word ∈ words, ∃ e ∈ v.edges, e.relation ∈ modifierRelations ∧
        e.governor.token = root ∧ e.dependent.token = word := by
  rw [attachedMarks_eq_marksOf, marksOf, List.all_map, List.all_eq_true]
  refine forall₂_congr fun word _ => ?_
  simp only [Function.comp_apply, List.any_eq_true, List.mem_flatMap, edgesFrom, edgesNamed,
    List.mem_filter, beq_iff_eq]
  constructor
  · intro h
    obtain ⟨e, ⟨_, hrelation, ⟨hmem, rfl⟩, hroot⟩, hword⟩ := h
    exact ⟨e, hmem, hrelation, hroot, hword⟩
  · intro h
    obtain ⟨e, hmem, hrelation, hroot, hword⟩ := h
    exact ⟨e, ⟨e.relation, hrelation, ⟨hmem, rfl⟩, hroot⟩, hword⟩

/-- A phrase with a last word is found if the search finds the root and marks every other
word. -/
theorem containsPhrase_of_words {phrase root : String} {modifiers : List String} (v : Vine)
    (hwords : Text.wordStrings phrase = modifiers ++ [root]) (relations : RelationChoice)
    (side : Side) (modifierRelations : List String) :
    v.containsPhrase phrase relations side.field modifierRelations =
      .ok ((v.edges.any fun e => relations.allows e.relation && (e.tokenAt side).token == root) &&
        (v.attachedMarks root modifiers modifierRelations).all fun mark => mark) := by
  simp only [containsPhrase, hwords, List.getLast?_concat, List.dropLast_concat, findsRoot_side]
  cases v.edges.any fun e => relations.allows e.relation && (e.tokenAt side).token == root with
  | false => rfl
  | true => rw [Bool.true_and]

/-- At a side the search for a phrase has an answer, and the answer is whether the words of the
phrase are a flat star among the edges of the vine. -/
theorem containsPhrase_side (v : Vine) (phrase : String) (relations : RelationChoice)
    (side : Side) (modifierRelations : List String) :
    ∃ found, v.containsPhrase phrase relations side.field modifierRelations = .ok found ∧
      (found = true ↔ FlatStar (· ∈ v.edges) relations.Allows (· ∈ modifierRelations) side
        (Text.wordStrings phrase)) := by
  cases hlast : (Text.wordStrings phrase).getLast? with
  | none =>
      have hnil : Text.wordStrings phrase = [] := List.getLast?_eq_none_iff.mp hlast
      refine ⟨false, by rw [containsPhrase, hlast], ?_⟩
      simp [hnil, not_flatStar_nil]
  | some root =>
      obtain ⟨modifiers, hwords⟩ := List.getLast?_eq_some_iff.mp hlast
      refine ⟨_, v.containsPhrase_of_words hwords relations side modifierRelations, ?_⟩
      rw [hwords, flatStar_append_iff, Bool.and_eq_true, all_attachedMarks_iff, List.any_eq_true]
      simp only [Bool.and_eq_true, RelationChoice.allows_iff, beq_iff_eq]

/-- A phrase is found exactly if its words are a flat star among the edges, at every side, for
every choice of relations and every list of modifier relations, and two vines whose edges differ
in positions only give one answer. -/
theorem containsPhrase_iff_flatStar (v : Vine) (phrase : String) (relations : RelationChoice)
    (side : Side) (modifierRelations : List String) :
    (v.containsPhrase phrase relations side.field modifierRelations = .ok true ↔
        FlatStar (· ∈ v.edges) relations.Allows (· ∈ modifierRelations) side
          (Text.wordStrings phrase)) ∧
      (v.containsPhrase phrase relations side.field modifierRelations = .ok false ↔
        ¬ FlatStar (· ∈ v.edges) relations.Allows (· ∈ modifierRelations) side
          (Text.wordStrings phrase)) ∧
      ∀ w : Vine, w.edges.map Edge.labels = v.edges.map Edge.labels →
        w.containsPhrase phrase relations side.field modifierRelations =
          v.containsPhrase phrase relations side.field modifierRelations := by
  obtain ⟨found, hfound, hiff⟩ := v.containsPhrase_side phrase relations side modifierRelations
  refine ⟨by rw [hfound, Except.ok.injEq, hiff], ?_, ?_⟩
  · rw [hfound, Except.ok.injEq, ← hiff, Bool.not_eq_true]
  · intro w hlabels
    obtain ⟨found', hfound', hiff'⟩ :=
      w.containsPhrase_side phrase relations side modifierRelations
    have hsame : found' = found := by
      rw [Bool.eq_iff_iff, hiff, hiff']
      exact ⟨.mono (exists_labels_eq hlabels) (fun _ h => h) (fun _ h => h),
        .mono (exists_labels_eq hlabels.symm) (fun _ h => h) (fun _ h => h)⟩
    rw [hfound, hfound', hsame]

/-- A phrase whose words attach in another order than they are written in, and the same edges at
other positions. -/
theorem containsPhrase_iff_flatStar_pepper :
    let parsed (edges : List Edge) : Vine := ⟨[], "", "", "", "", [], edges, []⟩
    let v := parsed [⟨"nn", ⟨"pepper", 2⟩, ⟨"bell", 1⟩⟩, ⟨"amod", ⟨"pepper", 2⟩, ⟨"green", 0⟩⟩]
    let w := parsed [⟨"nn", ⟨"pepper", 7⟩, ⟨"bell", 0⟩⟩, ⟨"amod", ⟨"pepper", 3⟩, ⟨"green", 9⟩⟩]
    w.edges.map Edge.labels = v.edges.map Edge.labels ∧
      w.containsPhrase "green bell pepper" .any .governor ["amod", "nn"] = .ok true ∧
      v.containsPhrase "green bell pepper" .any .governor ["amod", "nn"] = .ok true := by
  intro parsed v w
  have hlabels : w.edges.map Edge.labels = v.edges.map Edge.labels := rfl
  have hfound : v.containsPhrase "green bell pepper" .any .governor ["amod", "nn"] = .ok true := by
    rfl
  have hsame := (containsPhrase_iff_flatStar v "green bell pepper" .any .governor
    ["amod", "nn"]).2.2 w hlabels
  exact ⟨hlabels, hsame.trans hfound, hfound⟩

end Vine

end GrammarSieve
