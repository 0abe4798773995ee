/-
Why a section does not define a condition.  A section is checked in a fixed order: whether it is
one at all, its type, and then the keys that the type reads, each of them for a fault of its own.
Building fails for the first check that finds a fault.  Where none does, the condition has the
listed alternatives in their order, the field that the section addresses and the modifier relations
that it was given.
-/
import GrammarSieve.Proofs.Checks
import GrammarSieve.Proofs.Filter.Description

namespace GrammarSieve

/-- The types of condition that a section can have, in the order in which they are looked up. -/
def Condition.Kind.all : List Condition.Kind :=
  [.word, .tagged, .relation, .phrase, .endpointTag]

namespace Definition

open Condition (Kind)

/-- A thing that is asked of a section. -/
inductive Check where
  | isSection
  /-- The type is neither an array nor an object. -/
  | typeIsPlain
  | typeIsKnown
  | isPresent (key : String)
  /-- What is under the key, if anything, is a string or an array of strings. -/
  | areStrings (key : String)
  | tagDecodes (entry : String)
  | fieldIsText
  | fieldIsKnown
  /-- The field, or the usual one if none is named, is one of these. -/
  | fieldSuits (subject : String) (usual : Field) (fields : List Field)

/-- The value is a string or an array of strings. -/
def IsStrings : Json → Prop
  | .string _ => True
  | .array items => ∀ item ∈ items, item.kind = .string
  | _ => False

/-- The section has a type that is an array or an object. -/
def HasCompoundType (value : Json) : Prop :=
  ∃ (settings : Members) (type : Json), value = .object settings ∧
    settings.get? "type" = some type ∧ (type.kind = .array ∨ type.kind = .object)

/-- A check finds a section at fault.  The section is that of the condition with this name in the
filter with that one. -/
inductive Check.Finds (filter name : String) : Json → Check → DefinitionError → Prop where
  | notSection {value : Json} (h : value.kind ≠ .object) :
      Finds filter name value .isSection (.conditionNotSection filter name)
  | compoundType {value : Json} (h : HasCompoundType value) :
      Finds filter name value .typeIsPlain .compoundType
  | unknownType {settings : Members}
      (h : ∀ kind : Kind, settings.get? "type" ≠ some (.string kind.label)) :
      Finds filter name (.object settings) .typeIsKnown
        (.unknownType filter name ((settings.get? "type").getD .null))
  | missingKey {settings : Members} {key : String} (h : settings.get? key = none) :
      Finds filter name (.object settings) (.isPresent key) (.missingKey key)
  | notStrings {settings : Members} {key : String} {value : Json}
      (hvalue : settings.get? key = some value) (h : ¬ IsStrings value) :
      Finds filter name (.object settings) (.areStrings key) (.notStrings key)
  | malformedTag {settings : Members} {entry : String} {cause : DecodeError}
      (h : TaggedToken.decode entry = .error cause) :
      Finds filter name (.object settings) (.tagDecodes entry) (.malformedTag cause)
  | fieldNotString {settings : Members} {value : Json}
      (hvalue : settings.get? "field" = some value) (h : value.kind ≠ .string) :
      Finds filter name (.object settings) .fieldIsText .fieldNotString
  | unknownField {settings : Members} {written : String}
      (hvalue : settings.get? "field" = some (.string written))
      (h : ∀ field : Field, ¬ field.GoesBy written) :
      Finds filter name (.object settings) .fieldIsKnown (.unknownField (.unknown written))
  | unsuitedField {settings : Members} {subject : String} {usual field : Field}
      {fields : List Field} (hfield : Addresses settings usual field) (h : field ∉ fields) :
      Finds filter name (.object settings) (.fieldSuits subject usual fields)
        (.unsuitedField subject field)

/-- The strings under a key, as far as there are any. -/
def listed (settings : Members) (key : String) : List String :=
  match settings.get? key with
  | some (.string text) => [text]
  | some (.array items) => items.filterMap fun | .string text => some text | _ => none
  | _ => []

/-- A list of alternatives is first looked for and then looked at. -/
def listChecks (key : String) : List Check :=
  [.isPresent key, .areStrings key]

def fieldChecks (subject : String) (usual : Field) (fields : List Field) : List Check :=
  [.fieldIsText, .fieldIsKnown, .fieldSuits subject usual fields]

/-- The checks of the keys that a type of condition reads. -/
def kindChecks (settings : Members) : Kind → List Check
  | .word => listChecks "words" ++ fieldChecks "Strict string" .text [.text, .scrubbedText]
  | .tagged => listChecks "tagged_tokens" ++ (listed settings "tagged_tokens").map .tagDecodes
  | .relation => listChecks "relations"
  | .phrase => listChecks "target_words" ++ .areStrings "relations" ::
      fieldChecks "Target word" .governor [.governor, .dependent]
  | .endpointTag => listChecks "tags" ++ (listChecks "relations" ++
      fieldChecks "Tag" .governor [.governor, .dependent])

/-- The type of condition that settings name. -/
def kind? (settings : Members) : Option Kind :=
  match settings.get? "type" with
  | some (.string label) => Kind.all.find? (·.label == label)
  | _ => none

/-- The checks of a section in their order.  Without a known type there are no keys to check. -/
def checks : Json → List Check
  | .object settings =>
      .isSection :: .typeIsPlain :: .typeIsKnown :: (kind? settings).elim [] (kindChecks settings)
  | _ => [.isSection]

section Steps

variable {filter name key subject : String} {settings : Members} {usual field : Field}

theorem isStrings_array_iff {items : List Json} :
    IsStrings (.array items) ↔ ∃ texts, Json.strings? items = some texts := by
  simp only [IsStrings]
  induction items with
  | nil => simp [Json.strings?]
  | cons item rest ih =>
      rw [List.forall_mem_cons, ih]
      cases item <;> simp [Json.strings?, Json.kind]

/-- What is under a key gives alternatives exactly if it is made of strings. -/
theorem performs_alternatives {value : Json} (hvalue : settings.get? key = some value) :
    Performs (Check.Finds filter name (.object settings)) (alternatives key value)
      [.areStrings key] := by
  have hclear (hstrings : IsStrings value) :
      Clear (Check.Finds filter name (.object settings)) (.areStrings key) := by
    intro cause hfound
    cases hfound with
    | notStrings hother hnot =>
        obtain rfl := Option.some.inj (hvalue.symm.trans hother)
        exact hnot hstrings
  cases value with
  | string text => simpa [Performs, alternatives] using hclear trivial
  | array items =>
      rw [alternatives]
      cases hitems : Json.strings? items with
      | none => exact .head (.notStrings hvalue (by simp [isStrings_array_iff, hitems]))
      | some texts =>
          simpa [Performs] using hclear (isStrings_array_iff.mpr ⟨texts, hitems⟩)
  | _ => exact .head (.notStrings hvalue (by simp [IsStrings]))

theorem performs_required (settings : Members) (key : String) :
    Performs (Check.Finds filter name (.object settings)) (required settings key)
      (listChecks key) := by
  rw [required]
  cases hvalue : settings.get? key with
  | none => exact .head (.missingKey hvalue)
  | some value =>
      refine .cons ?_ (performs_alternatives hvalue)
      intro cause hfound
      cases hfound with
      | missingKey hnone => simp [hvalue] at hnone

theorem performs_optional (settings : Members) (key : String) :
    Performs (Check.Finds filter name (.object settings)) (optional settings key)
      [.areStrings key] := by
  rw [optional]
  cases hvalue : settings.get? key with
  | none =>
      simp only [Performs, List.forall_mem_singleton]
      intro cause hfound
      cases hfound with
      | notStrings hsome => simp [hvalue] at hsome
  | some value =>
      have hperforms := @performs_alternatives filter name key settings value hvalue
      dsimp only
      cases halternatives : alternatives key value with
      | error cause => rwa [halternatives] at hperforms
      | ok texts => rwa [halternatives] at hperforms

theorem performs_taggedTokens (settings : Members) (entries : List String) :
    Performs (Check.Finds filter name (.object settings)) (taggedTokens entries)
      (entries.map .tagDecodes) := by
  induction entries with
  | nil => exact performs_ok_nil []
  | cons entry rest ih =>
      rw [taggedTokens, List.map_cons]
      cases hentry : TaggedToken.decode entry with
      | error cause => exact .head (.malformedTag hentry)
      | ok t =>
          have hclear : Clear (Check.Finds filter name (.object settings)) (.tagDecodes entry) := by
            intro cause hfound
            cases hfound with
            | malformedTag hfails => simp [hentry] at hfails
          cases hrest : taggedTokens rest with
          | error cause =>
              rw [hrest] at ih
              exact .cons hclear ih
          | ok others =>
              rw [hrest] at ih
              exact .cons hclear ih

/-- The field is found among its names, and then it has to suit. -/
theorem performs_fieldOf (settings : Members) (usual : Field) :
    Performs (Check.Finds filter name (.object settings)) (fieldOf settings usual)
      [.fieldIsText, .fieldIsKnown] := by
  rw [fieldOf]
  cases hvalue : settings.get? "field" with
  | none =>
      simp only [Performs, List.forall_mem_cons]
      refine ⟨?_, ?_, by simp⟩
      · intro cause hfound
        cases hfound with
        | fieldNotString hsome => simp [hvalue] at hsome
      · intro cause hfound
        cases hfound with
        | unknownField hsome => simp [hvalue] at hsome
  | some value =>
      cases value with
      | string written =>
          have htext : Clear (Check.Finds filter name (.object settings)) .fieldIsText := by
            intro cause hfound
            cases hfound with
            | fieldNotString hsome hkind =>
                obtain rfl := Option.some.inj (hvalue.symm.trans hsome)
                exact hkind rfl
          dsimp only
          cases hname : Field.ofName written with
          | error cause =>
              obtain ⟨rfl, hnone⟩ := Field.ofName_eq_error_iff.mp hname
              exact .cons htext (.head (.unknownField hvalue hnone))
          | ok field =>
              simp only [Performs, List.forall_mem_cons]
              refine ⟨htext, ?_, by simp⟩
              intro cause hfound
              cases hfound with
              | unknownField hsome hnone =>
                  obtain rfl := Json.string.inj (Option.some.inj (hvalue.symm.trans hsome))
                  exact hnone field (Field.ofName_eq_ok_iff.mp hname)
      | _ => exact .head (.fieldNotString hvalue (by simp [Json.kind]))

theorem performs_suited (h : fieldOf settings usual = .ok field) (subject : String)
    (fields : List Field) :
    Performs (Check.Finds filter name (.object settings)) (suited subject fields field)
      [.fieldSuits subject usual fields] := by
  rw [suited]
  split
  · next hmem =>
      simp only [Performs, List.forall_mem_singleton]
      intro cause hfound
      cases hfound with
      | unsuitedField haddresses hnot =>
          obtain rfl := (addresses_iff_of_fieldOf h _).mp haddresses
          exact hnot hmem
  · next hnot => exact .head (.unsuitedField (fieldOf_eq_ok_iff.mp h) hnot)

/-- What is built with a field performs the checks of the field. -/
theorem performs_withField {α : Type} (settings : Members) (subject : String) (usual : Field)
    (fields : List Field) (build : Field → α) :
    Performs (Check.Finds filter name (.object settings))
      (fieldOf settings usual >>= fun field =>
        suited subject fields field >>= fun field => .ok (build field))
      (fieldChecks subject usual fields) := by
  apply Performs.bind (performs_fieldOf settings usual)
  intro field hfield
  apply Performs.bind (performs_suited hfield subject fields)
  intro field _
  exact performs_ok_nil (build field)

theorem listed_of_lists {entries : List String} (h : Lists settings key entries) :
    listed settings key = entries := by
  rcases h with harray | ⟨text, htext, rfl⟩
  · rw [listed, harray]
    simp [List.filterMap_map]
  · rw [listed, htext]

theorem performs_word (settings : Members) :
    Performs (Check.Finds filter name (.object settings)) (word settings)
      (kindChecks settings .word) := by
  apply Performs.bind (performs_required settings "words")
  intro words _
  exact performs_withField settings "Strict string" .text textFields (Condition.word words)

theorem performs_tagged (settings : Members) :
    Performs (Check.Finds filter name (.object settings)) (tagged settings)
      (kindChecks settings .tagged) := by
  apply Performs.bind (performs_required settings "tagged_tokens")
  intro entries hentries
  rw [listed_of_lists (required_eq_ok_iff.mp hentries), ← List.append_nil (entries.map _)]
  apply Performs.bind (performs_taggedTokens settings entries)
  intro tokens _
  exact performs_ok_nil (Condition.tagged tokens)

theorem performs_relation (settings : Members) :
    Performs (Check.Finds filter name (.object settings)) (relation settings)
      (kindChecks settings .relation) := by
  apply Performs.bind (performs_required settings "relations")
  intro relations _
  exact performs_ok_nil (Condition.relation relations)

theorem performs_phrase (modifierRelations : List String) (settings : Members) :
    Performs (Check.Finds filter name (.object settings)) (phrase modifierRelations settings)
      (kindChecks settings .phrase) := by
  apply Performs.bind (performs_required settings "target_words")
  intro phrases _
  apply Performs.bind (performs_optional settings "relations")
  intro relations _
  exact performs_withField settings "Target word" .governor endpointFields
    (Condition.phrase phrases relations · modifierRelations)

theorem performs_endpointTag (settings : Members) :
    Performs (Check.Finds filter name (.object settings)) (endpointTag settings)
      (kindChecks settings .endpointTag) := by
  apply Performs.bind (performs_required settings "tags")
  intro tags _
  apply Performs.bind (performs_required settings "relations")
  intro relations _
  exact performs_withField settings "Tag" .governor endpointFields
    (Condition.endpointTag tags relations)

theorem clear_isSection (settings : Members) :
    Clear (Check.Finds filter name (.object settings)) .isSection := by
  intro cause hfound
  cases hfound with
  | notSection hother => exact hother rfl

/-- With a known type, building performs the checks of the section and those of the type. -/
theorem performs_checks (kind : Kind) {step : Except DefinitionError Condition}
    (htype : settings.get? "type" = some (.string kind.label))
    (h : Performs (Check.Finds filter name (.object settings)) step (kindChecks settings kind)) :
    Performs (Check.Finds filter name (.object settings)) step (checks (.object settings)) := by
  have hkind : kind? settings = some kind := by
    rw [kind?, htype]
    cases kind <;> decide
  rw [checks, hkind]
  refine .cons (clear_isSection settings) (.cons ?_ (.cons ?_ h))
  · intro cause hfound
    cases hfound with
    | compoundType hcompound =>
        obtain ⟨members, type, hmembers, hother, hkinds⟩ := hcompound
        obtain rfl := Json.object.inj hmembers
        obtain rfl := Option.some.inj (htype.symm.trans hother)
        simp [Json.kind] at hkinds
  · intro cause hfound
    cases hfound with
    | unknownType hnone => exact hnone kind htype

/-- Building a condition performs the checks of its section. -/
theorem performs_condition (modifierRelations : List String) (filter name : String)
    (value : Json) :
    Performs (Check.Finds filter name value) (condition modifierRelations filter name value)
      (checks value) := by
  unfold condition
  split
  · next settings =>
      split
      · next htype => exact performs_checks .word htype (performs_word settings)
      · next htype => exact performs_checks .tagged htype (performs_tagged settings)
      · next htype => exact performs_checks .relation htype (performs_relation settings)
      · next htype =>
          exact performs_checks .phrase htype (performs_phrase modifierRelations settings)
      · next htype => exact performs_checks .endpointTag htype (performs_endpointTag settings)
      · next items htype =>
          refine .cons (clear_isSection settings) (.head (.compoundType ?_))
          exact ⟨settings, _, rfl, htype, by simp [Json.kind]⟩
      · next members htype =>
          refine .cons (clear_isSection settings) (.head (.compoundType ?_))
          exact ⟨settings, _, rfl, htype, by simp [Json.kind]⟩
      · next hword htagged hrelation hphrase htag harray hobject =>
          refine .cons (clear_isSection settings) (.cons ?_ (.head (.unknownType ?_)))
          · intro cause hfound
            cases hfound with
            | compoundType hcompound =>
                obtain ⟨members, type, hmembers, htype, hkinds⟩ := hcompound
                obtain rfl := Json.object.inj hmembers
                cases type with
                | array items => exact harray items htype
                | object inner => exact hobject inner htype
                | _ => simp [Json.kind] at hkinds
          · intro kind
            cases kind with
            | word => exact hword
            | tagged => exact htagged
            | relation => exact hrelation
            | phrase => exact hphrase
            | endpointTag => exact htag
  · next hnot =>
      cases value with
      | object settings => exact absurd rfl (hnot settings)
      | _ => exact .head (.notSection (by simp [Json.kind]))

/-- A check finds one fault at most. -/
theorem Check.Finds.cause_unique {value : Json} (check : Check) (cause cause' : DefinitionError)
    (h : Check.Finds filter name value check cause)
    (h' : Check.Finds filter name value check cause') : cause = cause' := by
  cases h with
  | notSection => cases h'; rfl
  | compoundType => cases h'; rfl
  | unknownType => cases h'; rfl
  | missingKey => cases h'; rfl
  | notStrings => cases h'; rfl
  | malformedTag hfails =>
      cases h' with
      | malformedTag hfails' => rw [Except.error.inj (hfails.symm.trans hfails')]
  | fieldNotString => cases h'; rfl
  | unknownField hvalue =>
      cases h' with
      | unknownField hvalue' =>
          rw [Json.string.inj (Option.some.inj (hvalue.symm.trans hvalue'))]
  | unsuitedField hfield =>
      cases h' with
      | unsuitedField hfield' =>
          have hfound := fieldOf_eq_ok_iff.mpr hfield
          rw [(addresses_iff_of_fieldOf hfound _).mp hfield']

end Steps

/-- A type that cannot be looked up is found before any fault of the definition. -/
theorem firstFound_compoundType {filter name : String} {value : Json} (h : HasCompoundType value) :
    FirstFound (Check.Finds filter name value) (checks value) .compoundType := by
  have hcompound := h
  obtain ⟨settings, type, rfl, -, -⟩ := h
  exact .cons (clear_isSection settings) (.head (.compoundType hcompound))

/-- All other faults are faults of the definition. -/
theorem Check.Finds.kind_eq {filter name : String} {value : Json} {check : Check}
    {cause : DefinitionError} (h : Check.Finds filter name value check cause)
    (hplain : ¬ HasCompoundType value) : cause.kind = .definition := by
  cases h with
  | compoundType hcompound => exact absurd hcompound hplain
  | _ => rfl

/-- A condition is built exactly of an object that describes it, and that is one in which no check
finds a fault.  Otherwise the first check that finds one says why, and this is a fault of the
definition unless the type is an array or an object. -/
theorem condition_described_or_first_fault (modifierRelations : List String)
    (filter name : String) (value : Json) :
    (∀ c, condition modifierRelations filter name value = .ok c ↔
        ∃ settings, value = .object settings ∧ Describes modifierRelations settings c) ∧
      ((∃ c, condition modifierRelations filter name value = .ok c) ↔
        ∀ check ∈ checks value, Clear (Check.Finds filter name value) check) ∧
      (∀ cause, condition modifierRelations filter name value = .error cause ↔
        FirstFound (Check.Finds filter name value) (checks value) cause) ∧
      match condition modifierRelations filter name value with
      | .ok _ => ¬ HasCompoundType value
      | .error cause => cause.kind = .lookup ∧ HasCompoundType value ∨
          cause.kind = .definition ∧ ¬ HasCompoundType value := by
  have hperforms := performs_condition modifierRelations filter name value
  have herror : ∀ cause, condition modifierRelations filter name value = .error cause ↔
      FirstFound (Check.Finds filter name value) (checks value) cause :=
    fun _ => hperforms.eq_error_iff Check.Finds.cause_unique
  refine ⟨?_, hperforms.exists_eq_ok_iff, herror, ?_⟩
  · intro c
    simp only [condition_eq_ok_iff, defines_iff_describes]
  · by_cases hcompound : HasCompoundType value
    · rw [(herror _).mpr (firstFound_compoundType hcompound)]
      exact .inl ⟨rfl, hcompound⟩
    · cases hresult : condition modifierRelations filter name value with
      | ok c => exact hcompound
      | error cause =>
          obtain ⟨-, check, -, -, -, hfound⟩ := (herror cause).mp hresult
          exact .inr ⟨hfound.kind_eq hcompound, hcompound⟩

/-- A tag that is no string is found before the missing relations and the unsuited field. -/
example :
    condition [] "f" "c" (.object [("type", .string "tag_in_grammar_dependency"),
      ("tags", .array [.string "NN", .null]), ("field", .string "text")]) =
        .error (.notStrings "tags") := by rfl

end Definition

end GrammarSieve
