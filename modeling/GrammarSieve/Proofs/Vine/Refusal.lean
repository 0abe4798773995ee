/-
Why a document is refused.  Reading a vine makes a list of checks, each of which looks at the
document alone, and the list and its order are written down here.  Reading fails exactly with the
fault of the first check that the document does not pass, and a document passes all of them
exactly if it is complete.  A refusal is reported once, as a warning, and nothing else is; where an
index is too long, or what is to be reported cannot be shown, the reading breaks off instead.
-/
import GrammarSieve.Proofs.Checks
import GrammarSieve.Proofs.Json.Parts
import GrammarSieve.Proofs.Vine.Reading

namespace GrammarSieve

namespace Document

/-- The value under a key, if the document is an object that has the key. -/
def member? (key : String) : Json → Option Json
  | .object members => Members.get? key members
  | _ => none

/-- The entries of the array under a key. -/
def entriesAt (key : String) (document : Json) : List Json :=
  match member? key document with
  | some (.array entries) => entries
  | _ => []

/-- A thing that is asked of a document. -/
inductive Check where
  | isObject
  | isPresent (key : String)
  | hasKind (key : String) (kind : Json.Kind)
  | tagDecodes (entry : Json)
  | edgeDecodes (entry : Json)

/-- What is wrong with an entry that does not decode. -/
def entryFault? {α : Type} : Except DecodeError α → Option VineError
  | .ok _ => none
  | .error cause => some (.undecodable cause)

/-- What is wrong with a document that does not pass the check.  Nothing is wrong with the kind
of a value that is not there. -/
def Check.fault? (document : Json) : Check → Option VineError
  | .isObject => if document.kind = .object then none else some (.notObject document.kind)
  | .isPresent key =>
      match member? key document with
      | some _ => none
      | none => some (.missingField key)
  | .hasKind key kind =>
      match member? key document with
      | some value => if value.kind = kind then none else some (.wrongKind key value.kind)
      | none => none
  | .tagDecodes entry => entryFault? (TaggedToken.ofJson entry)
  | .edgeDecodes entry => entryFault? (Edge.ofJson entry)

/-- A field is first looked for and then looked at. -/
def fieldChecks (key : String) (kind : Json.Kind) : List Check :=
  [.isPresent key, .hasKind key kind]

/-- The checks of the members of a document.  The entries of the tags are decoded before the
field of the dependencies is looked for. -/
def memberChecks (document : Json) : List Check :=
  List.flatten [
    fieldChecks "id" .string,
    fieldChecks "url" .string,
    fieldChecks "text" .string,
    fieldChecks "scrubbed_text" .string,
    fieldChecks "pos_tags" .array,
    (entriesAt "pos_tags" document).map .tagDecodes,
    fieldChecks "grammar_dependencies" .array,
    (entriesAt "grammar_dependencies" document).map .edgeDecodes]

/-- The checks of a document in their order. -/
def checks (document : Json) : List Check :=
  .isObject :: memberChecks document

/-- The check finds this fault with the document. -/
def Finds (document : Json) (check : Check) (cause : VineError) : Prop :=
  check.fault? document = some cause

theorem clear_iff {document : Json} {check : Check} :
    Clear (Finds document) check ↔ check.fault? document = none := by
  simp [Clear, Finds, Option.eq_none_iff_forall_ne_some]

/-- The document has a string under the key. -/
def HasText (document : Members) (key : String) : Prop :=
  ∃ text, document.get? key = some (.string text)

/-- The document has an array of strings under the key, and all of them decode. -/
def HasDecodable {α : Type} (document : Members) (key : String)
    (decode : String → Except DecodeError α) : Prop :=
  ∃ texts : List String, document.get? key = some (.array (texts.map .string)) ∧
    ∀ text ∈ texts, ∃ value, decode text = .ok value

/-- The document has everything that a vine is made of. -/
structure Complete (document : Members) : Prop where
  id : HasText document "id"
  url : HasText document "url"
  text : HasText document "text"
  scrubbedText : HasText document "scrubbed_text"
  tags : HasDecodable document "pos_tags" TaggedToken.decode
  dependencies : HasDecodable document "grammar_dependencies" Edge.decode

theorem performs_textField (members : Members) (key : String) :
    Performs (Finds (.object members)) (Vine.textField key members) (fieldChecks key .string) := by
  rw [Vine.textField]
  cases hvalue : members.get? key with
  | none => exact FirstFound.head (by simp [Finds, Check.fault?, member?, hvalue])
  | some value =>
      have hpresent : Clear (Finds (.object members)) (.isPresent key) :=
        clear_iff.mpr (by simp [Check.fault?, member?, hvalue])
      refine Performs.cons hpresent ?_
      cases value with
      | string text => simp [Performs, clear_iff, Check.fault?, member?, hvalue, Json.kind]
      | _ => exact FirstFound.head (by simp [Finds, Check.fault?, member?, hvalue, Json.kind])

theorem performs_listField (members : Members) (key : String) :
    Performs (Finds (.object members)) (Vine.listField key members) (fieldChecks key .array) := by
  rw [Vine.listField]
  cases hvalue : members.get? key with
  | none => exact FirstFound.head (by simp [Finds, Check.fault?, member?, hvalue])
  | some value =>
      have hpresent : Clear (Finds (.object members)) (.isPresent key) :=
        clear_iff.mpr (by simp [Check.fault?, member?, hvalue])
      refine Performs.cons hpresent ?_
      cases value with
      | array items => simp [Performs, clear_iff, Check.fault?, member?, hvalue, Json.kind]
      | _ => exact FirstFound.head (by simp [Finds, Check.fault?, member?, hvalue, Json.kind])

theorem performs_decodeEach {document : Json} {α : Type} {decode : Json → Except DecodeError α}
    {check : Json → Check}
    (hcheck : ∀ entry, (check entry).fault? document = entryFault? (decode entry))
    (entries : List Json) :
    Performs (Finds document) (Vine.decodeEach decode entries) (entries.map check) := by
  induction entries with
  | nil => exact performs_ok_nil []
  | cons entry rest ih =>
      rw [Vine.decodeEach, List.map_cons]
      cases hentry : decode entry with
      | error cause => exact FirstFound.head (by rw [Finds, hcheck, hentry]; rfl)
      | ok value =>
          have hclear : Clear (Finds document) (check entry) :=
            clear_iff.mpr (by rw [hcheck, hentry]; rfl)
          have hrest : Performs (Finds document)
              ((Vine.decodeEach decode rest).map (value :: ·)) (rest.map check) := ih.map
          refine Performs.cons hclear ?_
          cases hvalues : Vine.decodeEach decode rest <;> simpa [hvalues, Except.map] using hrest

theorem entriesAt_of_listField {key : String} {members : Members} {entries : List Json}
    (h : Vine.listField key members = .ok entries) : entriesAt key (.object members) = entries := by
  rw [entriesAt, member?, Vine.listField_eq_ok_iff.mp h]

/-- Reading goes through the fields in the order of the checks. -/
theorem performs_ofMembers (members : Members) :
    Performs (Finds (.object members)) (Vine.ofMembers members)
      (memberChecks (.object members)) := by
  apply (performs_textField members "id").bind
  intro id _
  apply (performs_textField members "url").bind
  intro url _
  apply (performs_textField members "text").bind
  intro text _
  apply (performs_textField members "scrubbed_text").bind
  intro scrubbedText _
  apply (performs_listField members "pos_tags").bind
  intro tags htags
  rw [entriesAt_of_listField htags]
  apply (performs_decodeEach (fun _ => rfl) tags).bind
  intro taggedTokens _
  apply (performs_listField members "grammar_dependencies").bind
  intro dependencies hdependencies
  rw [entriesAt_of_listField hdependencies]
  apply (performs_decodeEach (fun _ => rfl) dependencies).bind
  intro edges _
  exact performs_ok_nil _

theorem performs_ofDocument (document : Json) :
    Performs (Finds document) (Vine.ofDocument document) (checks document) := by
  cases document with
  | object members =>
      have hobject : Clear (Finds (.object members)) .isObject := clear_iff.mpr rfl
      exact (performs_ofMembers members).cons hobject
  | _ => exact FirstFound.head rfl

theorem ofDocument_eq_error_iff {document : Json} {cause : VineError} :
    Vine.ofDocument document = .error cause ↔
      FirstFound (Finds document) (checks document) cause :=
  (performs_ofDocument document).eq_error_iff fun _ _ _ h h' => Option.some.inj (h.symm.trans h')

/-- Entries can all be decoded exactly if they are strings that decode. -/
theorem exists_forall₂_iff {α : Type} {read : Json → Except DecodeError α}
    {decode : String → Except DecodeError α}
    (hread : ∀ entry value, read entry = .ok value ↔
      ∃ text, entry = .string text ∧ decode text = .ok value) (entries : List Json) :
    (∃ values, List.Forall₂ (fun entry value => read entry = .ok value) entries values) ↔
      ∃ texts : List String, entries = texts.map .string ∧
        ∀ text ∈ texts, ∃ value, decode text = .ok value := by
  constructor
  · intro h
    obtain ⟨values, hvalues⟩ := h
    induction hvalues with
    | nil => exact ⟨[], rfl, by simp⟩
    | cons hentry _ ih =>
        obtain ⟨text, rfl, hdecode⟩ := (hread _ _).mp hentry
        obtain ⟨texts, rfl, hall⟩ := ih
        exact ⟨text :: texts, rfl, List.forall_mem_cons.mpr ⟨⟨_, hdecode⟩, hall⟩⟩
  · intro h
    obtain ⟨texts, rfl, hall⟩ := h
    induction texts with
    | nil => exact ⟨[], .nil⟩
    | cons text rest ih =>
        obtain ⟨⟨value, hdecode⟩, hrest⟩ := List.forall_mem_cons.mp hall
        obtain ⟨values, hvalues⟩ := ih hrest
        exact ⟨value :: values, .cons ((hread _ _).mpr ⟨text, rfl, hdecode⟩) hvalues⟩

/-- A document that a vine is read from is complete, and the other way round. -/
theorem exists_readFrom_iff {document : Members} :
    (∃ v, Vine.ReadFrom document v) ↔ Complete document := by
  have htags := exists_forall₂_iff fun _ _ => TaggedToken.ofJson_eq_ok_iff
  have hedges := exists_forall₂_iff fun _ _ => Edge.ofJson_eq_ok_iff
  constructor
  · intro h
    obtain ⟨v, h⟩ := h
    obtain ⟨tags, hget, htokens⟩ := h.taggedTokens
    obtain ⟨texts, rfl, htexts⟩ := (htags tags).mp ⟨_, htokens⟩
    obtain ⟨dependencies, hget', hdecoded⟩ := h.edges
    obtain ⟨encodings, rfl, hencodings⟩ := (hedges dependencies).mp ⟨_, hdecoded⟩
    exact
      { id := ⟨_, h.get?_id⟩
        url := ⟨_, h.get?_url⟩
        text := ⟨_, h.get?_text⟩
        scrubbedText := ⟨_, h.get?_scrubbedText⟩
        tags := ⟨texts, hget, htexts⟩
        dependencies := ⟨encodings, hget', hencodings⟩ }
  · intro h
    obtain ⟨⟨id, hid⟩, ⟨url, hurl⟩, ⟨text, htext⟩, ⟨scrubbedText, hscrubbed⟩,
      ⟨texts, hget, htexts⟩, ⟨encodings, hget', hencodings⟩⟩ := h
    obtain ⟨taggedTokens, htokens⟩ := (htags _).mpr ⟨texts, rfl, htexts⟩
    obtain ⟨edges, hdecoded⟩ := (hedges _).mpr ⟨encodings, rfl, hencodings⟩
    exact ⟨⟨document, id, url, text, scrubbedText, taggedTokens, edges, []⟩,
      { document_eq := rfl
        get?_id := hid
        get?_url := hurl
        get?_text := htext
        get?_scrubbedText := hscrubbed
        taggedTokens := ⟨_, hget, htokens⟩
        edges := ⟨_, hget', hdecoded⟩
        goodFilters_eq := rfl }⟩

end Document

/-- The `id` of a document, if it has one. -/
def Document.idOf (document : Json) : Json :=
  (member? "id" document).getD .null

/-- What a reader that refuses a document runs into when it shows the entry or the `id`. -/
def Document.refusalBreakdown? (depths : Depths) (document : Json) (cause : VineError) :
    Option Breakdown :=
  (cause.breakdown? depths.entry).or ((idOf document).breakdown? depths.label)

theorem Vine.label_eq_idOf (document : Json) : label document = Document.idOf document := by
  cases document <;> rfl

theorem Vine.read_of_refused {depths : Depths} {document : Json} {cause : VineError}
    (h : ofDocument document = .error cause) :
    read depths document =
      match Document.refusalBreakdown? depths document cause with
      | some breakdown => .error breakdown
      | none => .ok (none, [.refused (Document.idOf document) cause]) := by
  have hbreakdown : Document.refusalBreakdown? depths document cause =
      (cause.breakdown? depths.entry).or ((label document).breakdown? depths.label) := by
    rw [Document.refusalBreakdown?, label_eq_idOf]
  cases hfound : Document.refusalBreakdown? depths document cause with
  | none => simp only [read, h, ← hbreakdown, hfound, ← label_eq_idOf]
  | some breakdown => simp only [read, h, ← hbreakdown, hfound]

/-- The document is refused, and the refusal runs into this. -/
def Document.BreaksOff (depths : Depths) (document : Json) (cause : Breakdown) : Prop :=
  ∃ reason, Vine.ofDocument document = .error reason ∧
    refusalBreakdown? depths document reason = some cause

theorem Document.BreaksOff.read_eq {depths : Depths} {document : Json} {cause : Breakdown}
    (h : BreaksOff depths document cause) : Vine.read depths document = .error cause := by
  obtain ⟨reason, hrefused, hcause⟩ := h
  rw [Vine.read_of_refused hrefused, hcause]

theorem Document.clear_of_ok {depths : Depths} {document : Json} {v : Vine}
    (h : Vine.ofDocument document = .ok v) : Clear (BreaksOff depths) document := by
  rintro cause ⟨reason, hrefused, -⟩
  rw [h] at hrefused
  contradiction

/-- A value that is no object has neither entries nor an `id` that would have to be shown. -/
theorem Document.clear_of_not_object {depths : Depths} (hlabel : 0 < depths.label)
    {document : Json} (h : document.kind ≠ .object) : Clear (BreaksOff depths) document := by
  obtain ⟨room, hroom⟩ := Nat.exists_eq_succ_of_ne_zero (Nat.ne_of_gt hlabel)
  have hnull : Json.breakdown? depths.label .null = none := by
    rw [hroom]
    rfl
  rintro cause ⟨reason, hrefused, hcause⟩
  have hidOf : idOf document = .null := by
    cases document with
    | object members => exact absurd rfl h
    | _ => rfl
  have hreason : reason = .notObject document.kind := by
    cases document with
    | object members => exact absurd rfl h
    | _ => exact (Except.error.inj hrefused).symm
  simp [refusalBreakdown?, hreason, hidOf, hnull, VineError.breakdown?] at hcause

theorem Vine.read_of_ok {depths : Depths} {document : Json} {v : Vine}
    (h : ofDocument document = .ok v) : read depths document = .ok (some v, []) := by
  rw [read, h]

/-- A document that is refused is reported if the refusal does not break off. -/
theorem Vine.read_of_clear {depths : Depths} {document : Json} {reason : VineError}
    (hclear : Clear (Document.BreaksOff depths) document)
    (h : ofDocument document = .error reason) :
    read depths document = .ok (none, [.refused (label document) reason]) := by
  have hnone : Document.refusalBreakdown? depths document reason = none :=
    Option.eq_none_iff_forall_ne_some.mpr fun cause hcause => hclear cause ⟨reason, h, hcause⟩
  rw [read_of_refused h, hnone, label_eq_idOf]

/-- A vine is read exactly from a complete document, and it holds the decoded entries in their
order and an empty log; nothing is reported.  Any other document is refused for the first check
that it does not pass, with a single warning that shows its `id` and the reason.  The reading breaks
off instead if this check finds an index that is too long, or if the entry or the `id` cannot be
shown. -/
theorem Vine.read_whole_or_first_fault (depths : Depths) (document : Json) :
    ((∃ v, ofDocument document = .ok v) ↔
        ∃ members, document = .object members ∧ Document.Complete members) ∧
      match ofDocument document with
      | .ok v => (∃ members, document = .object members ∧ ReadFrom members v) ∧
          read depths document = .ok (some v, [])
      | .error cause =>
          FirstFound (Document.Finds document) (Document.checks document) cause ∧
            match Document.refusalBreakdown? depths document cause with
            | some breakdown => read depths document = .error breakdown
            | none => ∃ notice, read depths document = .ok (none, [notice]) ∧
                notice.level = .warning ∧ notice.message =
                  "Unable to construct vine " ++ (Document.idOf document).display ++ ": " ++
                    cause.message := by
  constructor
  · simp only [ofDocument_eq_ok_iff, ← Document.exists_readFrom_iff]
    constructor
    · intro h
      obtain ⟨v, members, hmembers, hread⟩ := h
      exact ⟨members, hmembers, v, hread⟩
    · intro h
      obtain ⟨members, hmembers, v, hread⟩ := h
      exact ⟨v, members, hmembers, hread⟩
  · cases hresult : ofDocument document with
    | ok v => exact ⟨ofDocument_eq_ok_iff.mp hresult, read_of_ok hresult⟩
    | error cause =>
        refine ⟨Document.ofDocument_eq_error_iff.mp hresult, ?_⟩
        have hread := @read_of_refused depths document cause hresult
        cases hbreakdown : Document.refusalBreakdown? depths document cause with
        | some breakdown => simpa only [hbreakdown] using hread
        | none =>
            rw [hbreakdown] at hread
            exact ⟨.refused (Document.idOf document) cause, hread, rfl, rfl⟩

/-- A document with a single edge. -/
def Document.ofEdge (encoding : String) : Json :=
  .object [("id", .string "1"), ("url", .string ""), ("text", .string ""),
    ("scrubbed_text", .string ""), ("pos_tags", .array []),
    ("grammar_dependencies", .array [.string encoding])]

theorem Document.exact_ofEdge (encoding : String) : (ofEdge encoding).Exact := by
  refine Json.exact_object (by simp [Members.keys]) ?_
  simp [Json.exact_string, Json.exact_array]

theorem Vine.ofDocument_ofEdge {encoding : String} {cause : DecodeError}
    (h : Edge.decode encoding = .error cause) :
    ofDocument (Document.ofEdge encoding) = .error (.undecodable cause) := by
  simp [Document.ofEdge, ofDocument, ofMembers, textField, listField, Members.get?, decodeEach,
    Edge.ofJson, h, bind, Except.bind]

/-- A document whose only edge has an index that is too long is not refused. -/
theorem Document.breaksOff_ofEdge_padded (depths : Depths) {zeros : Nat}
    (h : Text.digitLimit ≤ zeros) :
    BreaksOff depths (ofEdge (Edge.padded zeros)) (.longDigits (zeros + 1)) :=
  ⟨_, Vine.ofDocument_ofEdge (Edge.decode_padded h), rfl⟩

/-- A document that is not complete, and of which nothing is reported. -/
theorem Vine.read_incomplete_breaks_off :
    ∃ document, (∃ cause, ofDocument document = .error cause) ∧
      read ⟨900, 900⟩ document = .error (.longDigits (Text.digitLimit + 1)) :=
  ⟨Document.ofEdge (Edge.padded Text.digitLimit),
    ⟨_, ofDocument_ofEdge (Edge.decode_padded (Nat.le_refl _))⟩,
    (Document.breaksOff_ofEdge_padded _ (Nat.le_refl _)).read_eq⟩

end GrammarSieve
