/-
The meaning of a configured filter, from the raw section to the raw document.  A subsection says
of a document which entries or words it has to have; nothing is said of decoded tokens and edges
or of the filter that is built.  The filter of a section passes the vine of a document exactly if
the section holds of the document.
-/
import GrammarSieve.Proofs.Filter.Definition

namespace GrammarSieve

open Definition (Listed Addresses Defines)
open Document (HasEntry HasEdge HasRelation HasTagAt)

/-- What a subsection of a filter section says of a document, for each type of condition. -/
def SubsectionHolds (modifierRelations : List String) (document settings : Members) : Prop :=
  match settings.get? "type" with
  | some (.string "strict_string") =>
      ∃ field word text, Listed settings "words" word ∧ Addresses settings .text field ∧
        document.get? field.key = some (.string text) ∧
          ∃ found ∈ Text.words text.toList, Text.lower found = Text.lower word.toList
  | some (.string "tagged_token") =>
      ∃ text, Listed settings "tagged_tokens" text ∧ HasEntry document "pos_tags" text
  | some (.string "grammar_dependency") =>
      ∃ relation, Listed settings "relations" relation ∧ HasRelation document relation
  | some (.string "target_word_in_grammar_dependency") =>
      ∃ side phrase, Listed settings "target_words" phrase ∧
        Addresses settings .governor (Side.field side) ∧
          FlatStar (HasEdge document)
            (fun relation => settings.get? "relations" = none ∨
              Listed settings "relations" relation)
            (· ∈ modifierRelations) side (Text.wordStrings phrase)
  | some (.string "tag_in_grammar_dependency") =>
      ∃ side e tag, Listed settings "tags" tag ∧ Addresses settings .governor (Side.field side) ∧
        HasEdge document e ∧ Listed settings "relations" e.relation ∧
          HasTagAt document (e.tokenAt side).position tag
  | _ => False

/-- The section of a filter holds of a document: it has subsections, and each of them holds. -/
def SectionHolds (modifierRelations : List String) (document value : Json) : Prop :=
  ∃ members subsections, document = .object members ∧ value = .object subsections ∧
    subsections ≠ [] ∧ ∀ entry ∈ subsections, ∃ settings, entry.2 = .object settings ∧
      SubsectionHolds modifierRelations members settings

namespace Definition.Defines

variable {modifierRelations : List String} {document settings : Members} {v : Vine}

/-- The text for words is the one that the document has under the key of the field. -/
theorem get?_key_iff (h : v.ReadFrom document) {field : Field} (hfield : field ∈ textFields)
    (text : String) :
    document.get? field.key = some (.string text) ↔ text = v.textFor field := by
  rcases List.mem_pair.mp hfield with rfl | rfl
  · rw [Field.key, h.get?_text]
    simp [Vine.textFor, eq_comm]
  · rw [Field.key, h.get?_scrubbedText]
    simp [Vine.textFor, eq_comm]

theorem fulfils_word_iff (h : v.ReadFrom document) {words : List String} {field : Field}
    (htype : settings.get? "type" = some (.string "strict_string"))
    (hwords : required settings "words" = .ok words)
    (hfield : fieldOf settings .text = .ok field) (hsuited : field ∈ textFields) :
    v.Fulfils (.word words field) ↔ SubsectionHolds modifierRelations document settings := by
  simp only [SubsectionHolds, htype, Vine.Fulfils, addresses_iff_of_fieldOf hfield,
    mem_of_required hwords]
  constructor
  · intro hfulfils
    obtain ⟨word, hword, hfound⟩ := hfulfils
    exact ⟨field, word, _, hword, rfl, (get?_key_iff h hsuited _).mpr rfl, hfound⟩
  · intro hholds
    obtain ⟨_, word, text, hword, rfl, htext, hfound⟩ := hholds
    obtain rfl := (get?_key_iff h hsuited text).mp htext
    exact ⟨word, hword, hfound⟩

theorem fulfils_tagged_iff (h : v.ReadFrom document) {entries : List String}
    {tokens : List TaggedToken}
    (htype : settings.get? "type" = some (.string "tagged_token"))
    (hentries : required settings "tagged_tokens" = .ok entries)
    (htokens : taggedTokens entries = .ok tokens) :
    v.Fulfils (.tagged tokens) ↔ SubsectionHolds modifierRelations document settings := by
  simp only [SubsectionHolds, htype, Vine.Fulfils, ← mem_of_required hentries]
  have hdecoded := taggedTokens_eq_ok_iff.mp htokens
  constructor
  · intro hfulfils
    obtain ⟨t, ht, hmem⟩ := hfulfils
    obtain ⟨position, hposition⟩ := List.mem_iff_getElem?.mp ht
    obtain ⟨text, htext, hdecode⟩ := exists_getElem?_of_forall₂ hdecoded.flip hposition
    exact ⟨text, List.mem_of_getElem? htext, (h.mem_taggedTokens_iff hdecode).mp hmem⟩
  · intro hholds
    obtain ⟨text, htext, hentry⟩ := hholds
    obtain ⟨position, hposition⟩ := List.mem_iff_getElem?.mp htext
    obtain ⟨t, ht, hdecode⟩ := exists_getElem?_of_forall₂ hdecoded hposition
    exact ⟨t, List.mem_of_getElem? ht, (h.mem_taggedTokens_iff hdecode).mpr hentry⟩

theorem fulfils_relation_iff (h : v.ReadFrom document) {relations : List String}
    (htype : settings.get? "type" = some (.string "grammar_dependency"))
    (hrelations : required settings "relations" = .ok relations) :
    v.Fulfils (.relation relations) ↔ SubsectionHolds modifierRelations document settings := by
  simp only [SubsectionHolds, htype, Vine.Fulfils, ← mem_of_required hrelations,
    ← h.exists_relation_iff]
  constructor
  · intro hfulfils
    obtain ⟨e, he, hmem⟩ := hfulfils
    exact ⟨e.relation, hmem, e, he, rfl⟩
  · intro hholds
    obtain ⟨relation, hmem, e, he, rfl⟩ := hholds
    exact ⟨e, he, hmem⟩

theorem fulfils_phrase_iff (h : v.ReadFrom document) {phrases : List String}
    {relations : Option (List String)} {field : Field}
    (htype : settings.get? "type" = some (.string "target_word_in_grammar_dependency"))
    (hphrases : required settings "target_words" = .ok phrases)
    (hrelations : optional settings "relations" = .ok relations)
    (hfield : fieldOf settings .governor = .ok field) :
    v.Fulfils (.phrase phrases relations field modifierRelations) ↔
      SubsectionHolds modifierRelations document settings := by
  have hedges : (· ∈ v.edges) = HasEdge document := funext fun e => propext (h.mem_edges_iff e)
  have hallowed : (RelationChoice.ofList? relations).Allows =
      fun relation => settings.get? "relations" = none ∨ Listed settings "relations" relation :=
    funext fun relation => propext (allows_of_optional hrelations relation)
  simp only [SubsectionHolds, htype, Vine.Fulfils, addresses_iff_of_fieldOf hfield, hedges,
    hallowed, mem_of_required hphrases]
  constructor
  · intro hfulfils
    obtain ⟨side, hside, phrase, hphrase, hstar⟩ := hfulfils
    exact ⟨side, phrase, hphrase, hside.symm, hstar⟩
  · intro hholds
    obtain ⟨side, phrase, hphrase, hside, hstar⟩ := hholds
    exact ⟨side, hside.symm, phrase, hphrase, hstar⟩

theorem fulfils_endpointTag_iff (h : v.ReadFrom document) {tags relations : List String}
    {field : Field}
    (htype : settings.get? "type" = some (.string "tag_in_grammar_dependency"))
    (htags : required settings "tags" = .ok tags)
    (hrelations : required settings "relations" = .ok relations)
    (hfield : fieldOf settings .governor = .ok field) :
    v.Fulfils (.endpointTag tags relations field) ↔
      SubsectionHolds modifierRelations document settings := by
  simp only [SubsectionHolds, htype, Vine.Fulfils, addresses_iff_of_fieldOf hfield,
    ← h.mem_edges_iff, ← h.exists_tag_iff, mem_of_required hrelations, mem_of_required htags]
  constructor
  · intro hfulfils
    obtain ⟨side, hside, e, he, hrelation, t, ht, htag⟩ := hfulfils
    exact ⟨side, e, t.tag, htag, hside.symm, he, hrelation, t, ht, rfl⟩
  · intro hholds
    obtain ⟨side, e, _, htag, hside, he, hrelation, t, ht, rfl⟩ := hholds
    exact ⟨side, hside.symm, e, he, hrelation, t, ht, htag⟩

/-- A vine fulfils the condition that settings define exactly if the settings hold of the
document it was read from. -/
theorem fulfils_iff {c : Condition} (hdefines : Defines modifierRelations settings c)
    (h : v.ReadFrom document) :
    v.Fulfils c ↔ SubsectionHolds modifierRelations document settings := by
  cases hdefines with
  | word htype hwords hfield hsuited => exact fulfils_word_iff h htype hwords hfield hsuited
  | tagged htype hentries htokens => exact fulfils_tagged_iff h htype hentries htokens
  | relation htype hrelations => exact fulfils_relation_iff h htype hrelations
  | phrase htype hphrases hrelations hfield =>
      exact fulfils_phrase_iff h htype hphrases hrelations hfield
  | endpointTag htype htags hrelations hfield =>
      exact fulfils_endpointTag_iff h htype htags hrelations hfield

end Definition.Defines

namespace Definition

/-- Filters are built of conditions that subsections define, one by one. -/
theorem forall₂_defines_of_filter {modifierRelations : List String} {name : String}
    {value : Json} {f : Filter} (h : filter modifierRelations name value = .ok f) :
    ∃ subsections, value = .object subsections ∧
      List.Forall₂ (fun entry c => ∃ settings, entry.2 = .object settings ∧
        Defines modifierRelations settings c) subsections f.conditions := by
  obtain ⟨subsections, rfl, -, hconditions⟩ := filter_eq_ok_iff.mp h
  refine ⟨subsections, rfl, (conditions_eq_ok_iff.mp hconditions).imp fun entry c hc => ?_⟩
  exact condition_eq_ok_iff.mp hc

/-- Every filter that is built has fields that suit its conditions. -/
theorem suited_of_filter {modifierRelations : List String} {name : String} {value : Json}
    {f : Filter} (h : filter modifierRelations name value = .ok f) : f.Suited := by
  obtain ⟨subsections, -, hdefined⟩ := forall₂_defines_of_filter h
  intro c hc
  obtain ⟨position, hposition⟩ := List.mem_iff_getElem?.mp hc
  obtain ⟨entry, -, settings, -, hdefines⟩ := exists_getElem?_of_forall₂ hdefined.flip hposition
  exact hdefines.suited

end Definition

/-- The condition was built from a section of settings. -/
def Condition.Configured (c : Condition) : Prop :=
  ∃ modifierRelations filter name value,
    Definition.condition modifierRelations filter name value = .ok c

theorem Condition.Configured.suited {c : Condition} (h : c.Configured) : c.Suited := by
  obtain ⟨modifierRelations, filter, name, value, hbuilt⟩ := h
  obtain ⟨settings, -, hdefines⟩ := Definition.condition_eq_ok_iff.mp hbuilt
  exact hdefines.suited

/-- The filter was built from a section of settings. -/
def Filter.Configured (f : Filter) : Prop :=
  ∃ modifierRelations name value, Definition.filter modifierRelations name value = .ok f

theorem Filter.Configured.suited {f : Filter} (h : f.Configured) : f.Suited := by
  obtain ⟨modifierRelations, name, value, hbuilt⟩ := h
  exact Definition.suited_of_filter hbuilt

/-- A filter that is built from a section has an answer on every vine that is read from a
document, and it is whether the section holds of the document. -/
theorem Filter.passes_iff_sectionHolds {modifierRelations : List String} {name : String}
    {value document : Json} {f : Filter} {v : Vine}
    (hf : Definition.filter modifierRelations name value = .ok f)
    (hv : Vine.ofDocument document = .ok v) :
    ∃ passed, f.passes v = .ok passed ∧
      (passed = true ↔ SectionHolds modifierRelations document value) := by
  obtain ⟨passed, hpassed, hiff⟩ := passes_of_suited (Definition.suited_of_filter hf) v
  refine ⟨passed, hpassed, hiff.trans ?_⟩
  obtain ⟨subsections, rfl, hdefined⟩ := Definition.forall₂_defines_of_filter hf
  obtain ⟨members, rfl, hread⟩ := Vine.ofDocument_eq_ok_iff.mp hv
  have hempty : f.conditions ≠ [] ↔ subsections ≠ [] := by
    rw [ne_eq, ne_eq, ← List.length_eq_zero_iff, ← List.length_eq_zero_iff, hdefined.length_eq]
  have heach : (∀ entry ∈ subsections, ∃ settings, entry.2 = .object settings ∧
      SubsectionHolds modifierRelations members settings) ↔ ∀ c ∈ f.conditions, v.Fulfils c := by
    apply forall_mem_iff_of_forall₂ hdefined
    rintro ⟨_, _⟩ c ⟨settings, rfl, hdefines⟩
    simp [hdefines.fulfils_iff hread]
  rw [hempty, ← heach]
  constructor
  · intro h
    obtain ⟨hne, hall⟩ := h
    exact ⟨members, subsections, rfl, rfl, hne, hall⟩
  · intro h
    obtain ⟨_, _, hmembers, hsubsections, hne, hall⟩ := h
    obtain rfl := Json.object.inj hmembers
    obtain rfl := Json.object.inj hsubsections
    exact ⟨hne, hall⟩

/-- A filter with a phrase and a tag, on a document about a dinner. -/
theorem Filter.passes_iff_sectionHolds_dinner :
    let value := Json.object [
      ("produce", .object [("type", .string "target_word_in_grammar_dependency"),
        ("target_words", .string "green bell pepper"), ("relations", .array [.string "dobj"]),
        ("field", .string " Dependent ")]),
      ("verb", .object [("type", .string "tag_in_grammar_dependency"),
        ("tags", .array [.string "VB", .string "VBG"]), ("relations", .string "dobj")])]
    let document := Json.object [("id", .string "1"), ("url", .string ""), ("text", .string ""),
      ("scrubbed_text", .string ""),
      ("pos_tags", .array [.string "VBG-Chopping", .string "DT-a"]),
      ("grammar_dependencies", .array [.string "amod(pepper-4,green-2)",
        .string "nn(pepper-4',bell-3)", .string "dobj(Chopping-0,pepper-4)"])]
    ∃ f v, Definition.filter ["amod", "nn"] "peppers" value = .ok f ∧
      Vine.ofDocument document = .ok v ∧ f.passes v = .ok true ∧
        SectionHolds ["amod", "nn"] document value := by
  intro value document
  let f : Filter := ⟨"peppers", [
    .phrase ["green bell pepper"] (some ["dobj"]) .dependent ["amod", "nn"],
    .endpointTag ["VB", "VBG"] ["dobj"] .governor]⟩
  have hf : Definition.filter ["amod", "nn"] "peppers" value = .ok f := by rfl
  obtain ⟨v, hv⟩ : ∃ v, Vine.ofDocument document = .ok v := ⟨_, rfl⟩
  obtain ⟨passed, hpassed, hiff⟩ := Filter.passes_iff_sectionHolds hf hv
  have htrue : f.passes v = .ok true := by
    obtain rfl := Except.ok.inj hv
    rfl
  obtain rfl := Except.ok.inj (hpassed.symm.trans htrue)
  exact ⟨f, v, hf, hv, htrue, hiff.mp rfl⟩

end GrammarSieve
