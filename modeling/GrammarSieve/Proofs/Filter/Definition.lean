/-
What building a condition from settings amounts to.  Building succeeds exactly if the type is
one of five labels, the lists of alternatives are lists of strings and the field suits the kind;
the condition then holds the alternatives that the settings list, in the field that they
address.
-/
import GrammarSieve.Filter.Definition
import GrammarSieve.Proofs.Filter.Meaning
import GrammarSieve.Proofs.Vine.Reading

namespace GrammarSieve

theorem Field.eq_of_answersTo {field other : Field} {name : List Char}
    (hfield : field.answersTo name = true) (hother : other.answersTo name = true) :
    field = other := by
  have hnames : ∀ a ∈ all, ∀ b ∈ all, ∀ c ∈ [a.key.toList, Text.lower a.fullName.toList],
      b.answersTo c = true → a = b := by decide +kernel
  have hmem : ∀ a : Field, a ∈ all := by
    intro a
    cases a <;> decide
  refine hnames field (hmem field) other (hmem other) name ?_ hother
  simpa [answersTo] using hfield

theorem Field.answersTo_of_ofName {name : String} {field : Field} (h : ofName name = .ok field) :
    field.answersTo (Text.lower (Text.strip name.toList)) = true := by
  rw [ofName] at h
  split at h
  · next found hfound =>
      obtain rfl := Except.ok.inj h
      rw [ofName?] at hfound
      exact List.find?_some (p := fun f => answersTo f _) hfound
  · contradiction

namespace Definition

/-- The settings list a text under a key: as the value itself or in an array. -/
def Listed (settings : Members) (key text : String) : Prop :=
  settings.get? key = some (.string text) ∨
    ∃ items, settings.get? key = some (.array items) ∧ Json.string text ∈ items

/-- The settings address a field: they give one of its names, in any case and with blanks around
it, or they give none and the field is the usual one. -/
def Addresses (settings : Members) (usual field : Field) : Prop :=
  (settings.get? "field" = none ∧ field = usual) ∨
    ∃ name, settings.get? "field" = some (.string name) ∧
      (Text.lower (Text.strip name.toList) = field.key.toList ∨
        Text.lower (Text.strip name.toList) = Text.lower field.fullName.toList)

theorem strings?_eq_some_iff {items : List Json} {texts : List String} :
    Json.strings? items = some texts ↔ items = texts.map .string := by
  induction items generalizing texts with
  | nil => cases texts <;> simp [Json.strings?]
  | cons item rest ih =>
      cases texts with
      | nil => cases item <;> simp [Json.strings?]
      | cons text texts => cases item <;> simp [Json.strings?, ih, and_comm]

theorem alternatives_eq_ok_iff {key : String} {value : Json} {texts : List String} :
    alternatives key value = .ok texts ↔
      (∃ text, value = .string text ∧ texts = [text]) ∨ value = .array (texts.map .string) := by
  cases value with
  | array items =>
      rw [alternatives]
      cases hitems : Json.strings? items with
      | none =>
          have hne : items ≠ texts.map .string := by
            intro h
            rw [strings?_eq_some_iff.mpr h] at hitems
            contradiction
          simp [hne]
      | some found =>
          obtain rfl := strings?_eq_some_iff.mp hitems
          simp [List.map_inj_right, eq_comm]
  | _ => simp [alternatives, eq_comm]

/-- The alternatives of a required key are the texts that the settings list there. -/
theorem mem_of_required {settings : Members} {key : String} {texts : List String}
    (h : required settings key = .ok texts) (text : String) :
    text ∈ texts ↔ Listed settings key text := by
  rw [required] at h
  split at h
  · contradiction
  · next value hvalue =>
      rcases alternatives_eq_ok_iff.mp h with ⟨only, rfl, rfl⟩ | rfl
      · simp [Listed, hvalue, eq_comm]
      · simp [Listed, hvalue]

/-- A choice of relations allows what is listed under their key, and everything if the key is
absent. -/
theorem allows_of_optional {settings : Members} {key : String} {texts : Option (List String)}
    (h : optional settings key = .ok texts) (text : String) :
    (RelationChoice.ofList? texts).Allows text ↔
      settings.get? key = none ∨ Listed settings key text := by
  rw [optional] at h
  split at h
  · next hnone =>
      obtain rfl := Except.ok.inj h
      simp [RelationChoice.ofList?, RelationChoice.Allows, hnone]
  · next value hvalue =>
      split at h
      · next found hfound =>
          obtain rfl := Except.ok.inj h
          have hrequired : required settings key = .ok found := by
            rw [required, hvalue]
            exact hfound
          simp [RelationChoice.ofList?, RelationChoice.Allows, hvalue,
            mem_of_required hrequired]
      · contradiction

/-- The field of the settings is the one field that they address. -/
theorem addresses_iff_of_fieldOf {settings : Members} {usual field : Field}
    (h : fieldOf settings usual = .ok field) (other : Field) :
    Addresses settings usual other ↔ other = field := by
  rw [fieldOf] at h
  split at h
  · next hnone =>
      obtain rfl := Except.ok.inj h
      simp [Addresses, hnone]
  · next name hname =>
      split at h
      · next found hfound =>
          obtain rfl := Except.ok.inj h
          have hanswers := Field.answersTo_of_ofName hfound
          have hother : Addresses settings usual other ↔
              other.answersTo (Text.lower (Text.strip name.toList)) = true := by
            simp [Addresses, hname, Field.answersTo]
          rw [hother]
          constructor
          · intro h
            exact Field.eq_of_answersTo h hanswers
          · intro heq
            rw [heq]
            exact hanswers
      · contradiction
  · contradiction

theorem suited_eq_ok_iff {subject : String} {fields : List Field} {field found : Field} :
    suited subject fields field = .ok found ↔ found = field ∧ field ∈ fields := by
  rw [suited]
  split
  · next hmem => simp [hmem, eq_comm]
  · next hmem => simp [hmem]

theorem taggedTokens_eq_ok_iff {entries : List String} {tokens : List TaggedToken} :
    taggedTokens entries = .ok tokens ↔
      List.Forall₂ (fun entry t => TaggedToken.decode entry = .ok t) entries tokens := by
  apply eq_ok_iff_forall₂
  · rfl
  · intro entry rest tokens
    rw [taggedTokens]
    cases TaggedToken.decode entry with
    | error cause => simp
    | ok t =>
        cases taggedTokens rest with
        | error cause => simp
        | ok others => simp [eq_comm]

/-- The settings define a condition. -/
inductive Defines (modifierRelations : List String) (settings : Members) : Condition → Prop where
  | word {words : List String} {field : Field}
      (htype : settings.get? "type" = some (.string "strict_string"))
      (hwords : required settings "words" = .ok words)
      (hfield : fieldOf settings .text = .ok field) (hsuited : field ∈ textFields) :
      Defines modifierRelations settings (.word words field)
  | tagged {entries : List String} {tokens : List TaggedToken}
      (htype : settings.get? "type" = some (.string "tagged_token"))
      (hentries : required settings "tagged_tokens" = .ok entries)
      (htokens : taggedTokens entries = .ok tokens) :
      Defines modifierRelations settings (.tagged tokens)
  | relation {relations : List String}
      (htype : settings.get? "type" = some (.string "grammar_dependency"))
      (hrelations : required settings "relations" = .ok relations) :
      Defines modifierRelations settings (.relation relations)
  | phrase {phrases : List String} {relations : Option (List String)} {field : Field}
      (htype : settings.get? "type" = some (.string "target_word_in_grammar_dependency"))
      (hphrases : required settings "target_words" = .ok phrases)
      (hrelations : optional settings "relations" = .ok relations)
      (hfield : fieldOf settings .governor = .ok field) (hsuited : field ∈ endpointFields) :
      Defines modifierRelations settings (.phrase phrases relations field modifierRelations)
  | endpointTag {tags relations : List String} {field : Field}
      (htype : settings.get? "type" = some (.string "tag_in_grammar_dependency"))
      (htags : required settings "tags" = .ok tags)
      (hrelations : required settings "relations" = .ok relations)
      (hfield : fieldOf settings .governor = .ok field) (hsuited : field ∈ endpointFields) :
      Defines modifierRelations settings (.endpointTag tags relations field)

theorem exists_defines_of_condition {modifierRelations : List String} {filter name : String}
    {value : Json} {c : Condition} (h : condition modifierRelations filter name value = .ok c) :
    ∃ settings, value = .object settings ∧ Defines modifierRelations settings c := by
  unfold condition at h
  split at h
  · next settings =>
      refine ⟨settings, rfl, ?_⟩
      split at h
      · next htype =>
          simp only [word, bind_eq_ok_iff, suited_eq_ok_iff] at h
          obtain ⟨words, hwords, field, hfield, _, ⟨rfl, hsuited⟩, h⟩ := h
          obtain rfl := Except.ok.inj h
          exact .word htype hwords hfield hsuited
      · next htype =>
          simp only [tagged, bind_eq_ok_iff] at h
          obtain ⟨entries, hentries, tokens, htokens, h⟩ := h
          obtain rfl := Except.ok.inj h
          exact .tagged htype hentries htokens
      · next htype =>
          simp only [relation, bind_eq_ok_iff] at h
          obtain ⟨relations, hrelations, h⟩ := h
          obtain rfl := Except.ok.inj h
          exact .relation htype hrelations
      · next htype =>
          simp only [phrase, bind_eq_ok_iff, suited_eq_ok_iff] at h
          obtain ⟨phrases, hphrases, relations, hrelations, field, hfield, _, ⟨rfl, hsuited⟩,
            h⟩ := h
          obtain rfl := Except.ok.inj h
          exact .phrase htype hphrases hrelations hfield hsuited
      · next htype =>
          simp only [endpointTag, bind_eq_ok_iff, suited_eq_ok_iff] at h
          obtain ⟨tags, htags, relations, hrelations, field, hfield, _, ⟨rfl, hsuited⟩, h⟩ := h
          obtain rfl := Except.ok.inj h
          exact .endpointTag htype htags hrelations hfield hsuited
      · contradiction
      · contradiction
      · contradiction
  · contradiction

theorem condition_of_defines {modifierRelations : List String} (filter name : String)
    {settings : Members} {c : Condition} (h : Defines modifierRelations settings c) :
    condition modifierRelations filter name (.object settings) = .ok c := by
  cases h with
  | word htype hwords hfield hsuited =>
      simp only [condition, htype, word, bind_eq_ok_iff, suited_eq_ok_iff]
      exact ⟨_, hwords, _, hfield, _, ⟨rfl, hsuited⟩, rfl⟩
  | tagged htype hentries htokens =>
      simp only [condition, htype, tagged, bind_eq_ok_iff]
      exact ⟨_, hentries, _, htokens, rfl⟩
  | relation htype hrelations =>
      simp only [condition, htype, relation, bind_eq_ok_iff]
      exact ⟨_, hrelations, rfl⟩
  | phrase htype hphrases hrelations hfield hsuited =>
      simp only [condition, htype, phrase, bind_eq_ok_iff, suited_eq_ok_iff]
      exact ⟨_, hphrases, _, hrelations, _, hfield, _, ⟨rfl, hsuited⟩, rfl⟩
  | endpointTag htype htags hrelations hfield hsuited =>
      simp only [condition, htype, endpointTag, bind_eq_ok_iff, suited_eq_ok_iff]
      exact ⟨_, htags, _, hrelations, _, hfield, _, ⟨rfl, hsuited⟩, rfl⟩

/-- A condition is built exactly of an object that defines it, whatever it is called. -/
theorem condition_eq_ok_iff {modifierRelations : List String} {filter name : String}
    {value : Json} {c : Condition} :
    condition modifierRelations filter name value = .ok c ↔
      ∃ settings, value = .object settings ∧ Defines modifierRelations settings c := by
  constructor
  · exact exists_defines_of_condition
  · intro h
    obtain ⟨settings, rfl, hdefines⟩ := h
    exact condition_of_defines filter name hdefines

theorem conditions_eq_ok_iff {modifierRelations : List String} {filter : String}
    {sections : Members} {cs : List Condition} :
    conditions modifierRelations filter sections = .ok cs ↔
      List.Forall₂ (fun entry c => condition modifierRelations filter entry.1 entry.2 = .ok c)
        sections cs := by
  apply eq_ok_iff_forall₂
  · rfl
  · intro entry rest cs
    rw [conditions]
    cases condition modifierRelations filter entry.1 entry.2 with
    | error cause => simp
    | ok c =>
        cases conditions modifierRelations filter rest with
        | error cause => simp
        | ok others => simp [eq_comm]

theorem filter_eq_ok_iff {modifierRelations : List String} {name : String} {value : Json}
    {f : Filter} :
    filter modifierRelations name value = .ok f ↔
      ∃ sections, value = .object sections ∧ f.name = name ∧
        conditions modifierRelations name sections = .ok f.conditions := by
  cases value with
  | object sections =>
      simp only [filter, Json.object.injEq, exists_eq_left']
      cases conditions modifierRelations name sections with
      | error cause => simp
      | ok cs =>
          cases f
          simp [eq_comm (a := name), eq_comm (a := cs)]
  | _ => simp [filter]

/-- Building only gives conditions whose fields suit them. -/
theorem Defines.suited {modifierRelations : List String} {settings : Members} {c : Condition}
    (h : Defines modifierRelations settings c) : c.Suited := by
  have hside : ∀ field ∈ endpointFields, ∃ side : Side, field = side.field := by
    intro field hmem
    rcases List.mem_pair.mp hmem with rfl | rfl
    · exact ⟨.governor, rfl⟩
    · exact ⟨.dependent, rfl⟩
  cases h with
  | word htype hwords hfield hsuited => exact List.mem_pair.mp hsuited
  | tagged => trivial
  | relation => trivial
  | phrase htype hphrases hrelations hfield hsuited => exact hside _ hsuited
  | endpointTag htype htags hrelations hfield hsuited => exact hside _ hsuited

end Definition

end GrammarSieve
