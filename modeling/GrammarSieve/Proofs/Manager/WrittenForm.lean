/-
A coding of saved filters.  Filters are written as objects with all that they hold, and a condition
has its label with it, so that the objects can be taken apart again.  What this coding has written
is read back, as is asked of a coding.
-/
import GrammarSieve.Manager.Saved
import GrammarSieve.Proofs.Json.StrictText

namespace GrammarSieve

namespace Json

def text? : Json → Option String
  | .string text => some text
  | _ => none

/-- The items of an array, if all of them can be read. -/
def items? {α : Type} (read? : Json → Option α) : Json → Option (List α)
  | .array items => items.mapM read?
  | _ => none

/-- Nothing, or what is read. -/
def option? {α : Type} (read? : Json → Option α) : Json → Option (Option α)
  | .null => some none
  | value => (read? value).map some

/-- What the object has under the key, if that can be read. -/
def part? {α : Type} (read? : Json → Option α) (key : String) (members : Members) : Option α :=
  (members.get? key).bind read?

def ofTexts (texts : List String) : Json :=
  .array (texts.map .string)

theorem items?_map {α : Type} {write : α → Json} {read? : Json → Option α}
    (h : ∀ value, read? (write value) = some value) (values : List α) :
    items? read? (.array (values.map write)) = some values := by
  rw [items?]
  induction values with
  | nil => rfl
  | cons value rest ih => simp [h, ih]

@[simp]
theorem items?_ofTexts (texts : List String) : items? text? (ofTexts texts) = some texts := by
  have htext : ∀ text, text? (.string text) = some text := fun _ => rfl
  exact items?_map htext texts

theorem exact_array_map {α : Type} {write : α → Json} (h : ∀ value, Exact (write value))
    (values : List α) : Exact (.array (values.map write)) := by
  apply exact_array
  intro item hitem
  obtain ⟨value, -, rfl⟩ := List.mem_map.mp hitem
  exact h value

theorem exact_ofTexts (texts : List String) : Exact (ofTexts texts) :=
  exact_array_map exact_string texts

end Json

open Json (text? items? option? part? ofTexts)

namespace TaggedToken

def written (t : TaggedToken) : Json :=
  .object [("tag", .string t.tag), ("token", .string t.token)]

def ofWritten? : Json → Option TaggedToken
  | .object members => do
      return ⟨← part? text? "tag" members, ← part? text? "token" members⟩
  | _ => none

@[simp]
theorem ofWritten?_written (t : TaggedToken) : ofWritten? t.written = some t := by
  simp [written, ofWritten?, part?, Members.get?, text?]

theorem exact_written (t : TaggedToken) : t.written.Exact := by
  apply Json.exact_object
  · simp [Members.keys]
  · simp [Json.exact_string]

end TaggedToken

namespace Field

def ofWritten? (value : Json) : Option Field :=
  (text? value).bind ofFullName?

@[simp]
theorem ofWritten?_fullName (field : Field) :
    ofWritten? (.string field.fullName) = some field := by
  cases field <;> rfl

end Field

namespace Condition

/-- What the condition holds, by the names of its parts. -/
def parts : Condition → Members
  | .word words field => [("words", ofTexts words), ("field_type", .string field.fullName)]
  | .tagged tokens => [("tagged_tokens", .array (tokens.map (·.written)))]
  | .relation relations => [("relations", ofTexts relations)]
  | .phrase phrases relations field modifierRelations =>
      [("target_words", ofTexts phrases), ("relations", (relations.map ofTexts).getD .null),
        ("field_type", .string field.fullName), ("modifier_relations", ofTexts modifierRelations)]
  | .endpointTag tags relations field =>
      [("tags", ofTexts tags), ("relations", ofTexts relations),
        ("field_type", .string field.fullName)]

def written (c : Condition) : Json :=
  .object (("type", .string c.label) :: c.parts)

def ofWritten? : Json → Option Condition
  | .object members =>
      let texts? := part? (items? text?)
      match Members.get? "type" members with
      | some (.string "strict_string") => do
          return .word (← texts? "words" members) (← part? Field.ofWritten? "field_type" members)
      | some (.string "tagged_token") => do
          return .tagged (← part? (items? TaggedToken.ofWritten?) "tagged_tokens" members)
      | some (.string "grammar_dependency") => do
          return .relation (← texts? "relations" members)
      | some (.string "target_word_in_grammar_dependency") => do
          return .phrase (← texts? "target_words" members)
            (← part? (option? (items? text?)) "relations" members)
            (← part? Field.ofWritten? "field_type" members)
            (← texts? "modifier_relations" members)
      | some (.string "tag_in_grammar_dependency") => do
          return .endpointTag (← texts? "tags" members) (← texts? "relations" members)
            (← part? Field.ofWritten? "field_type" members)
      | _ => none
  | _ => none

theorem ofWritten?_written (c : Condition) : ofWritten? c.written = some c := by
  cases c with
  | word words field =>
      simp [written, label, kind, Kind.label, parts, ofWritten?, part?, Members.get?]
  | tagged tokens =>
      have htokens := Json.items?_map TaggedToken.ofWritten?_written tokens
      simp [written, label, kind, Kind.label, parts, ofWritten?, part?, Members.get?, htokens]
  | relation relations =>
      simp [written, label, kind, Kind.label, parts, ofWritten?, part?, Members.get?]
  | phrase phrases relations field modifierRelations =>
      have hrelations : option? (items? text?) ((relations.map ofTexts).getD .null) =
          some relations := by
        cases relations with
        | none => rfl
        | some names => exact congrArg (Option.map some) (Json.items?_ofTexts names)
      simp [written, label, kind, Kind.label, parts, ofWritten?, part?, Members.get?, hrelations]
  | endpointTag tags relations field =>
      simp [written, label, kind, Kind.label, parts, ofWritten?, part?, Members.get?]

theorem exact_written (c : Condition) : c.written.Exact := by
  apply Json.exact_object
  · cases c <;> simp [parts, Members.keys]
  · rw [List.forall_mem_cons]
    refine ⟨Json.exact_string _, ?_⟩
    cases c with
    | word words field => simp [parts, Json.exact_string, Json.exact_ofTexts]
    | tagged tokens =>
        rw [parts, List.forall_mem_singleton]
        exact Json.exact_array_map TaggedToken.exact_written tokens
    | relation relations => simp [parts, Json.exact_ofTexts]
    | phrase phrases relations field modifierRelations =>
        have hrelations : ((relations.map ofTexts).getD .null).Exact := by
          cases relations with
          | none => exact Json.exact_null
          | some names => exact Json.exact_ofTexts names
        simp [parts, Json.exact_string, Json.exact_ofTexts, hrelations]
    | endpointTag tags relations field => simp [parts, Json.exact_string, Json.exact_ofTexts]

end Condition

namespace RegisteredFilter

def written : RegisteredFilter → Json
  | .ordinary f =>
      .object [("name", .string f.name), ("conditions", .array (f.conditions.map (·.written)))]
  | .clearing name => .object [("clearing", .string name)]

def ofWritten? : Json → Option RegisteredFilter
  | .object members =>
      match part? text? "clearing" members with
      | some name => some (.clearing name)
      | none => do
          return .ordinary ⟨← part? text? "name" members,
            ← part? (items? Condition.ofWritten?) "conditions" members⟩
  | _ => none

theorem ofWritten?_written (f : RegisteredFilter) : ofWritten? f.written = some f := by
  cases f with
  | ordinary f =>
      have hconditions := Json.items?_map Condition.ofWritten?_written f.conditions
      simp [written, ofWritten?, part?, Members.get?, text?, hconditions]
  | clearing name => simp [written, ofWritten?, part?, Members.get?, text?]

theorem exact_written (f : RegisteredFilter) : f.written.Exact := by
  cases f with
  | clearing name =>
      apply Json.exact_object
      · simp [Members.keys]
      · simp [Json.exact_string]
  | ordinary f =>
      have hconditions : (Json.array (f.conditions.map (·.written))).Exact :=
        Json.exact_array_map Condition.exact_written f.conditions
      apply Json.exact_object
      · simp [Members.keys]
      · simp [Json.exact_string, hconditions]

end RegisteredFilter

namespace SavedFilters

def written (saved : SavedFilters) : Json :=
  .array (saved.registry.map (·.written))

/-- What a value stands for: the items of an array may be filters or not. -/
def decodeWritten : Json → Decoded
  | .array items => .list (items.map RegisteredFilter.ofWritten?)
  | _ => .other

theorem decodeWritten_written (saved : SavedFilters) :
    decodeWritten saved.written = .list (saved.registry.map some) := by
  have hitem : RegisteredFilter.ofWritten? ∘ RegisteredFilter.written = some :=
    funext RegisteredFilter.ofWritten?_written
  rw [written, decodeWritten, List.map_map, hitem]

theorem exact_written (saved : SavedFilters) : saved.written.Exact :=
  Json.exact_array_map RegisteredFilter.exact_written saved.registry

/-- The coding that writes each filter with all that it holds. -/
def Coding.inFull : Coding Unit where
  encode saved := String.ofList saved.written.compact
  decode text :=
    match Json.readStrict? text with
    | none => .error ()
    | some value => .ok (decodeWritten value)

theorem Coding.inFull_lawful : inFull.Lawful := by
  intro saved
  have hread : Json.readStrict? (inFull.encode saved) = some saved.written :=
    Json.readStrict?_compact saved.exact_written
  simp only [inFull] at hread ⊢
  simp only [hread, decodeWritten_written]

end SavedFilters

end GrammarSieve
