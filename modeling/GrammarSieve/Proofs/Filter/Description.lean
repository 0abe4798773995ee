/-
What a section says of its condition.  Under the keys of its type it lists alternatives, each list
as an array or as a text alone, and it addresses a field that suits the type.  Nothing is said here
of how a section is read, and yet just the sections that describe a condition define it.
-/
import GrammarSieve.Proofs.Filter.Definition

namespace GrammarSieve

/-- The field has this name as a user may write it: its key or its full name, in any case and with
blanks around it. -/
def Field.GoesBy (field : Field) (name : String) : Prop :=
  Text.lower (Text.strip name.toList) = field.key.toList ∨
    Text.lower (Text.strip name.toList) = Text.lower field.fullName.toList

theorem Field.answersTo_iff_goesBy {field : Field} {name : String} :
    field.answersTo (Text.lower (Text.strip name.toList)) = true ↔ field.GoesBy name := by
  simp [answersTo, GoesBy]

/-- A field is found by each of its names. -/
theorem Field.ofName_eq_ok_iff {field : Field} {name : String} :
    ofName name = .ok field ↔ field.GoesBy name := by
  rw [← answersTo_iff_goesBy]
  constructor
  · exact answersTo_of_ofName
  · intro hanswers
    have hmem : field ∈ all := by
      cases field <;> decide
    cases hfound : all.find? (·.answersTo (Text.lower (Text.strip name.toList))) with
    | none => exact absurd hanswers (List.find?_eq_none.mp hfound field hmem)
    | some found =>
        have hother := List.find?_some (p := fun f => answersTo f _) hfound
        rw [ofName, ofName?, hfound, eq_of_answersTo hother hanswers]

theorem Field.ofName_eq_error_iff {name : String} {cause : FieldError} :
    ofName name = .error cause ↔ cause = .unknown name ∧ ∀ field : Field, ¬ field.GoesBy name := by
  simp only [← ofName_eq_ok_iff]
  rw [ofName]
  cases ofName? name with
  | none => simp [eq_comm]
  | some found => simp

namespace Definition

open Condition (Kind)

/-- The settings have these texts under the key, in this order: as an array, or the only one as
the value itself. -/
def Lists (settings : Members) (key : String) (texts : List String) : Prop :=
  settings.get? key = some (.array (texts.map .string)) ∨
    ∃ text, settings.get? key = some (.string text) ∧ texts = [text]

/-- The same of a key that may be absent. -/
def MayList (settings : Members) (key : String) : Option (List String) → Prop
  | none => settings.get? key = none
  | some texts => Lists settings key texts

/-- The settings describe a condition: its type, its alternatives, and the field that they
address, which has to suit the type. -/
inductive Describes (modifierRelations : List String) (settings : Members) : Condition → Prop where
  | word {words : List String} {field : Field}
      (htype : settings.get? "type" = some (.string Kind.word.label))
      (hwords : Lists settings "words" words) (hfield : Addresses settings .text field)
      (hsuited : field = .text ∨ field = .scrubbedText) :
      Describes modifierRelations settings (.word words field)
  | tagged {entries : List String} {tokens : List TaggedToken}
      (htype : settings.get? "type" = some (.string Kind.tagged.label))
      (hentries : Lists settings "tagged_tokens" entries)
      (htokens : List.Forall₂ (fun entry t => TaggedToken.decode entry = .ok t) entries tokens) :
      Describes modifierRelations settings (.tagged tokens)
  | relation {relations : List String}
      (htype : settings.get? "type" = some (.string Kind.relation.label))
      (hrelations : Lists settings "relations" relations) :
      Describes modifierRelations settings (.relation relations)
  | phrase {phrases : List String} {relations : Option (List String)} {field : Field}
      (htype : settings.get? "type" = some (.string Kind.phrase.label))
      (hphrases : Lists settings "target_words" phrases)
      (hrelations : MayList settings "relations" relations)
      (hfield : Addresses settings .governor field)
      (hsuited : field = .governor ∨ field = .dependent) :
      Describes modifierRelations settings (.phrase phrases relations field modifierRelations)
  | endpointTag {tags relations : List String} {field : Field}
      (htype : settings.get? "type" = some (.string Kind.endpointTag.label))
      (htags : Lists settings "tags" tags) (hrelations : Lists settings "relations" relations)
      (hfield : Addresses settings .governor field)
      (hsuited : field = .governor ∨ field = .dependent) :
      Describes modifierRelations settings (.endpointTag tags relations field)

theorem lists_of_alternatives {key : String} {settings : Members} {value : Json}
    {texts : List String} (hvalue : settings.get? key = some value) :
    alternatives key value = .ok texts ↔ Lists settings key texts := by
  rw [alternatives_eq_ok_iff, Lists, hvalue, or_comm]
  simp

theorem required_eq_ok_iff {settings : Members} {key : String} {texts : List String} :
    required settings key = .ok texts ↔ Lists settings key texts := by
  rw [required]
  split
  · next hnone => simp [Lists, hnone]
  · next value hvalue => exact lists_of_alternatives hvalue

theorem optional_eq_ok_iff {settings : Members} {key : String} {texts : Option (List String)} :
    optional settings key = .ok texts ↔ MayList settings key texts := by
  rw [optional]
  split
  · next hnone => cases texts <;> simp [MayList, Lists, hnone]
  · next value hvalue =>
      split
      · next found hfound =>
          cases texts with
          | none => simp [MayList, hvalue]
          | some texts =>
              rw [MayList, ← lists_of_alternatives hvalue, hfound]
              simp
      · next cause hcause =>
          cases texts with
          | none => simp [MayList, hvalue]
          | some texts =>
              rw [MayList, ← lists_of_alternatives hvalue, hcause]
              simp

theorem fieldOf_eq_ok_iff {settings : Members} {usual field : Field} :
    fieldOf settings usual = .ok field ↔ Addresses settings usual field := by
  constructor
  · intro h
    exact (addresses_iff_of_fieldOf h field).mpr rfl
  · intro h
    rcases h with ⟨hnone, rfl⟩ | ⟨name, hname, hgoes⟩
    · simp only [fieldOf, hnone]
    · simp only [fieldOf, hname, Field.ofName_eq_ok_iff.mpr hgoes]

/-- Settings define a condition exactly if they describe it. -/
theorem defines_iff_describes {modifierRelations : List String} {settings : Members}
    {c : Condition} :
    Defines modifierRelations settings c ↔ Describes modifierRelations settings c := by
  constructor
  · intro h
    cases h with
    | word htype hwords hfield hsuited =>
        exact .word htype (required_eq_ok_iff.mp hwords) (fieldOf_eq_ok_iff.mp hfield)
          (List.mem_pair.mp hsuited)
    | tagged htype hentries htokens =>
        exact .tagged htype (required_eq_ok_iff.mp hentries) (taggedTokens_eq_ok_iff.mp htokens)
    | relation htype hrelations => exact .relation htype (required_eq_ok_iff.mp hrelations)
    | phrase htype hphrases hrelations hfield hsuited =>
        exact .phrase htype (required_eq_ok_iff.mp hphrases) (optional_eq_ok_iff.mp hrelations)
          (fieldOf_eq_ok_iff.mp hfield) (List.mem_pair.mp hsuited)
    | endpointTag htype htags hrelations hfield hsuited =>
        exact .endpointTag htype (required_eq_ok_iff.mp htags) (required_eq_ok_iff.mp hrelations)
          (fieldOf_eq_ok_iff.mp hfield) (List.mem_pair.mp hsuited)
  · intro h
    cases h with
    | word htype hwords hfield hsuited =>
        exact .word htype (required_eq_ok_iff.mpr hwords) (fieldOf_eq_ok_iff.mpr hfield)
          (List.mem_pair.mpr hsuited)
    | tagged htype hentries htokens =>
        exact .tagged htype (required_eq_ok_iff.mpr hentries) (taggedTokens_eq_ok_iff.mpr htokens)
    | relation htype hrelations => exact .relation htype (required_eq_ok_iff.mpr hrelations)
    | phrase htype hphrases hrelations hfield hsuited =>
        exact .phrase htype (required_eq_ok_iff.mpr hphrases) (optional_eq_ok_iff.mpr hrelations)
          (fieldOf_eq_ok_iff.mpr hfield) (List.mem_pair.mpr hsuited)
    | endpointTag htype htags hrelations hfield hsuited =>
        exact .endpointTag htype (required_eq_ok_iff.mpr htags) (required_eq_ok_iff.mpr hrelations)
          (fieldOf_eq_ok_iff.mpr hfield) (List.mem_pair.mpr hsuited)

end Definition

end GrammarSieve
