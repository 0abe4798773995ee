/-
Filters are monotone.  A vine that says all that another one says, and maybe more, passes every
filter that the other one passes: more words and edges only give a condition more to find, and
tagged tokens that are added at the end leave the others in their positions.
-/
import GrammarSieve.Proofs.Filter.Section

namespace GrammarSieve

/-- The vine says all that the smaller one says. -/
structure Vine.Extends (v smaller : Vine) : Prop where
  words : ∀ word ∈ Text.words smaller.text.toList, word ∈ Text.words v.text.toList
  scrubbedWords : ∀ word ∈ Text.words smaller.scrubbedText.toList,
    word ∈ Text.words v.scrubbedText.toList
  taggedTokens : smaller.taggedTokens <+: v.taggedTokens
  edges : ∀ e ∈ smaller.edges, e ∈ v.edges

namespace Vine.Extends

variable {v smaller : Vine}

theorem mem_words (h : v.Extends smaller) (field : Field) {word : List Char}
    (hword : word ∈ Text.words (smaller.textFor field).toList) :
    word ∈ Text.words (v.textFor field).toList := by
  rw [textFor] at hword ⊢
  split at hword
  · next hfield =>
      rw [if_pos hfield]
      exact h.scrubbedWords word hword
  · next hfield =>
      rw [if_neg hfield]
      exact h.words word hword

/-- A tagged token stays in its position. -/
theorem getElem?_taggedTokens (h : v.Extends smaller) {position : Nat} {t : TaggedToken}
    (ht : smaller.taggedTokens[position]? = some t) : v.taggedTokens[position]? = some t := by
  obtain ⟨added, hadded⟩ := h.taggedTokens
  rw [← hadded, List.getElem?_append_left (List.getElem?_eq_some_iff.mp ht).1, ht]

/-- A condition that the smaller vine fulfils is fulfilled. -/
theorem fulfils (h : v.Extends smaller) {c : Condition} (hc : smaller.Fulfils c) :
    v.Fulfils c := by
  cases c with
  | word words field =>
      obtain ⟨word, hword, found, hfound, hlower⟩ := hc
      exact ⟨word, hword, found, h.mem_words field hfound, hlower⟩
  | tagged tokens =>
      obtain ⟨t, ht, hmem⟩ := hc
      exact ⟨t, ht, h.taggedTokens.subset hmem⟩
  | relation relations =>
      obtain ⟨e, he, hrelation⟩ := hc
      exact ⟨e, h.edges e he, hrelation⟩
  | phrase phrases relations field modifierRelations =>
      obtain ⟨side, hside, phrase, hphrase, hstar⟩ := hc
      exact ⟨side, hside, phrase, hphrase,
        hstar.mono (fun e he => ⟨e, h.edges e he, rfl⟩) (fun _ h => h) (fun _ h => h)⟩
  | endpointTag tags relations field =>
      obtain ⟨side, hside, e, he, hrelation, t, ht, htag⟩ := hc
      exact ⟨side, hside, e, h.edges e he, hrelation, t, h.getElem?_taggedTokens ht, htag⟩

/-- A filter that the smaller vine passes is passed. -/
theorem passes (h : v.Extends smaller) {f : Filter} (hf : f.Suited)
    (hpassed : f.passes smaller = .ok true) : f.passes v = .ok true := by
  rw [Filter.passes_eq_true_iff hf] at hpassed ⊢
  obtain ⟨hne, hall⟩ := hpassed
  exact ⟨hne, fun c hc => h.fulfils (hall c hc)⟩

end Vine.Extends

/-- Two vines that say the same get the same answer of a filter. -/
theorem Filter.passes_eq_of_extends {f : Filter} (hf : f.Suited) {v w : Vine}
    (hv : v.Extends w) (hw : w.Extends v) : f.passes v = f.passes w := by
  obtain ⟨first, hfirst, -⟩ := passes_of_suited hf v
  obtain ⟨second, hsecond, -⟩ := passes_of_suited hf w
  exact eq_of_ok_true_iff ⟨first, hfirst⟩ ⟨second, hsecond⟩ ⟨hw.passes hf, hv.passes hf⟩

/-- Where every entry has a result, there is a list of the results. -/
theorem exists_forall₂_of_forall_mem {α β : Type} {R : α → β → Prop} {xs : List α}
    (h : ∀ x ∈ xs, ∃ y, R x y) : ∃ ys, List.Forall₂ R xs ys := by
  induction xs with
  | nil => exact ⟨[], .nil⟩
  | cons x rest ih =>
      obtain ⟨⟨y, hy⟩, hrest⟩ := List.forall_mem_cons.mp h
      obtain ⟨ys, hys⟩ := ih hrest
      exact ⟨y :: ys, .cons hy hys⟩

namespace Vine.ReadFrom

variable {document : Members} {v : Vine} {entries entries' : List Json}

/-- Other dependencies that decode take the place of the old ones, and nothing else changes. -/
theorem put_edges (h : ReadFrom document v) {edges : List Edge}
    (hedges : List.Forall₂ (fun entry e => Edge.ofJson entry = .ok e) entries edges) :
    ReadFrom (document.put "grammar_dependencies" (.array entries))
      { v with document := document.put "grammar_dependencies" (.array entries), edges } where
  document_eq := rfl
  get?_id := by rw [Members.get?_put_of_ne (by decide), h.get?_id]
  get?_url := by rw [Members.get?_put_of_ne (by decide), h.get?_url]
  get?_text := by rw [Members.get?_put_of_ne (by decide), h.get?_text]
  get?_scrubbedText := by rw [Members.get?_put_of_ne (by decide), h.get?_scrubbedText]
  taggedTokens := by
    rw [Members.get?_put_of_ne (by decide)]
    exact h.taggedTokens
  edges := ⟨entries, Members.get?_put_self _ _ document, hedges⟩
  goodFilters_eq := h.goodFilters_eq

/-- With the same entries in another order, or another number of them, the document describes a
vine with the same edges. -/
theorem exists_put_edges (h : ReadFrom document v)
    (hentries : document.get? "grammar_dependencies" = some (.array entries))
    (hsame : ∀ entry, entry ∈ entries' ↔ entry ∈ entries) :
    ∃ edges, ReadFrom (document.put "grammar_dependencies" (.array entries'))
        { v with document := document.put "grammar_dependencies" (.array entries'), edges } ∧
      ∀ e, e ∈ edges ↔ e ∈ v.edges := by
  have hdecoded := h.forall₂_edges hentries
  have hall : ∀ entry ∈ entries', ∃ e, Edge.ofJson entry = .ok e := by
    intro entry hentry
    obtain ⟨e, -, he⟩ := exists_mem_of_forall₂ hdecoded ((hsame entry).mp hentry)
    exact ⟨e, he⟩
  -- the edges may come in another order, but as entries of the documents they are the same
  obtain ⟨edges, hedges⟩ := exists_forall₂_of_forall_mem hall
  have hread := h.put_edges hedges
  refine ⟨edges, hread, fun e => (hread.mem_edges_iff e).trans ?_⟩
  rw [h.mem_edges_iff]
  simp [Document.HasEdge, Document.HasEntry, Members.get?_put_self, hentries, hsame]

end Vine.ReadFrom

/-- A filter that is built from a section is monotone: a vine that says all that another one says
passes it if the other one does.  So its answer does not depend on the order of the dependencies
in a document, and not on how often each of them is there. -/
theorem Filter.passes_monotone {modifierRelations : List String} {name : String} {value : Json}
    {f : Filter} (hf : Definition.filter modifierRelations name value = .ok f) :
    (∀ document document' v w, Vine.ofDocument document = .ok v →
        Vine.ofDocument document' = .ok w → w.Extends v → f.passes v = .ok true →
          f.passes w = .ok true) ∧
      ∀ (document : Members) (entries entries' : List Json) (v : Vine),
        document.get? "grammar_dependencies" = some (.array entries) →
        (∀ entry, entry ∈ entries' ↔ entry ∈ entries) → Vine.ofDocument (.object document) = .ok v →
          ∃ w, Vine.ofDocument
              (.object (document.put "grammar_dependencies" (.array entries'))) = .ok w ∧
            f.passes w = f.passes v := by
  have hsuited := Definition.suited_of_filter hf
  constructor
  · intro document document' v w _ _ hextends hpassed
    exact hextends.passes hsuited hpassed
  · intro document entries entries' v hentries hsame hv
    have hread := Vine.ofDocument_object_eq_ok_iff.mp hv
    obtain ⟨edges, hw, hedges⟩ := hread.exists_put_edges hentries hsame
    refine ⟨_, Vine.ofDocument_object_eq_ok_iff.mpr hw, ?_⟩
    exact Filter.passes_eq_of_extends hsuited
      ⟨fun _ h => h, fun _ h => h, List.prefix_rfl, fun e he => (hedges e).mpr he⟩
      ⟨fun _ h => h, fun _ h => h, List.prefix_rfl, fun e he => (hedges e).mp he⟩

/-- A second sentence adds words, a tag and an edge, and then every edge is there twice. -/
theorem Filter.passes_monotone_pepper :
    let value := Json.object [
      ("produce", .object [("type", .string "target_word_in_grammar_dependency"),
        ("target_words", .string "green pepper")]),
      ("verb", .object [("type", .string "tag_in_grammar_dependency"),
        ("tags", .string "VB"), ("relations", .string "dobj")])]
    let tags := [Json.string "VB-Chop", .string "JJ-green", .string "NN-pepper"]
    let edges := [Json.string "amod(pepper-2,green-1)", .string "dobj(Chop-0,pepper-2)"]
    let document (text : String) (tags edges : List Json) : Members := [("id", .string "1"),
      ("url", .string ""), ("text", .string text), ("scrubbed_text", .string ""),
      ("pos_tags", .array tags), ("grammar_dependencies", .array edges)]
    let smaller := document "Chop green pepper" tags edges
    let larger := document "Chop green pepper now" (tags ++ [.string "RB-now"])
      (.string "advmod(Chop-0,now-3)" :: edges)
    ∃ f v w again, Definition.filter ["amod", "nn"] "peppers" value = .ok f ∧
      Vine.ofDocument (.object smaller) = .ok v ∧ f.passes v = .ok true ∧
      Vine.ofDocument (.object larger) = .ok w ∧ f.passes w = .ok true ∧
      Vine.ofDocument (.object (smaller.put "grammar_dependencies"
        (.array (edges.reverse ++ edges)))) = .ok again ∧ f.passes again = f.passes v := by
  intro value tags edges document smaller larger
  let f : Filter := ⟨"peppers", [.phrase ["green pepper"] none .governor ["amod", "nn"],
    .endpointTag ["VB"] ["dobj"] .governor]⟩
  have hf : Definition.filter ["amod", "nn"] "peppers" value = .ok f := by rfl
  obtain ⟨hmonotone, hsame⟩ := Filter.passes_monotone hf
  let chop : EnumeratedToken := ⟨"Chop", 0⟩
  let pepper : EnumeratedToken := ⟨"pepper", 2⟩
  let parsed : List Edge := [⟨"amod", pepper, ⟨"green", 1⟩⟩, ⟨"dobj", chop, pepper⟩]
  let tagged : List TaggedToken := [⟨"VB", "Chop"⟩, ⟨"JJ", "green"⟩, ⟨"NN", "pepper"⟩]
  let v : Vine := ⟨smaller, "1", "", "Chop green pepper", "", tagged, parsed, []⟩
  let w : Vine := ⟨larger, "1", "", "Chop green pepper now", "", tagged ++ [⟨"RB", "now"⟩],
    ⟨"advmod", chop, ⟨"now", 3⟩⟩ :: parsed, []⟩
  have hv : Vine.ofDocument (.object smaller) = .ok v := by rfl
  have hw : Vine.ofDocument (.object larger) = .ok w := by rfl
  have hpassed : f.passes v = .ok true := by rfl
  have hwords : Text.words w.text.toList = Text.words v.text.toList ++ ["now".toList] := by
    decide +kernel
  have hextends : w.Extends v :=
    { words := fun word hword => hwords ▸ List.mem_append_left _ hword
      scrubbedWords := fun _ h => h
      taggedTokens := List.prefix_append tagged _
      edges := fun e he => List.mem_cons_of_mem _ he }
  have hentries : smaller.get? "grammar_dependencies" = some (.array edges) := by rfl
  obtain ⟨again, hagain, hanswer⟩ := hsame smaller edges (edges.reverse ++ edges) v hentries
    (fun entry => by simp) hv
  exact ⟨f, v, w, again, hf, hv, hpassed, hw, hmonotone _ _ v w hv hw hextends hpassed, hagain,
    hanswer⟩

end GrammarSieve
