/-
What the service answers.  A reply depends on nothing but the body that is posted and the two
filters, and posting leaves the manager as it is, so a whole series of bodies is answered body by
body.  What the two filters ask for is said here of the posted document itself.  The names in a
reply come in the order of the sections in the configuration, however it was parsed; and however a
body is read, the service fails if that breaks off, or the refusal of its document does.
-/
import Mathlib.Data.List.Permutation
import GrammarSieve.Service
import GrammarSieve.Proofs.Json.StrictText
import GrammarSieve.Proofs.Manager.Succession
import GrammarSieve.Proofs.Vine.Refusal

namespace GrammarSieve

theorem Side.governor_eq_field_iff (side : Side) :
    Field.governor = side.field ↔ side = .governor := by
  cases side <;> simp [field]

/-- Where every relation counts for the last word of a phrase at the governor, the edge of any
earlier word shows it too. -/
theorem flatStar_any_governor_iff {among : Edge → Prop} {modifier : String → Prop}
    {modifiers : List String} {root : String} (hne : modifiers ≠ []) :
    FlatStar among (RelationChoice.Allows .any) modifier .governor (modifiers ++ [root]) ↔
      ∀ word ∈ modifiers, ∃ e, among e ∧ modifier e.relation ∧ e.governor.token = root ∧
        e.dependent.token = word := by
  rw [flatStar_append_iff]
  constructor
  · intro h
    exact h.2
  · intro h
    obtain ⟨word, hword⟩ := List.exists_mem_of_ne_nil _ hne
    obtain ⟨e, hmem, -, hroot, -⟩ := h word hword
    exact ⟨⟨e, hmem, trivial, hroot⟩, h⟩

namespace Service

open Document (HasEdge HasTagAt)

def peppersSection : Json :=
  .object [("produce", .object [
    ("type", .string "target_word_in_grammar_dependency"),
    ("target_words", .array [.string "green bell pepper", .string "red bell pepper",
      .string "jalapeno pepper"]),
    ("field", .string "governor")])]

def cookingSection : Json :=
  .object [
    ("action", .object [
      ("type", .string "tag_in_grammar_dependency"),
      ("tags", .array [.string "VB", .string "VBD", .string "VBG", .string "VBZ", .string "VBP"]),
      ("relations", .array [.string "dobj"]),
      ("field", .string "governor")]),
    ("topic", .object [
      ("type", .string "strict_string"),
      ("words", .array [.string "cooking", .string "recipe", .string "dinner"]),
      ("field", .string "scrubbed_text")])]

/-- The sections of the two filters, in the order in which the settings have them. -/
def writtenSections : Members :=
  [("peppers", peppersSection), ("cooking", cookingSection)]

def peppers : Filter :=
  ⟨"peppers", [
    .phrase ["green bell pepper", "red bell pepper", "jalapeno pepper"] none .governor
      defaultModifierRelations]⟩

def cooking : Filter :=
  ⟨"cooking", [
    .endpointTag ["VB", "VBD", "VBG", "VBZ", "VBP"] ["dobj"] .governor,
    .word ["cooking", "recipe", "dinner"] .scrubbedText]⟩

theorem peppers_configured : peppers.Configured :=
  ⟨defaultModifierRelations, "peppers", peppersSection, rfl⟩

theorem cooking_configured : cooking.Configured :=
  ⟨defaultModifierRelations, "cooking", cookingSection, rfl⟩

/-- Some edge with one of the modifier relations goes from the word `pepper` to this word. -/
def PepperWith (document : Members) (word : String) : Prop :=
  ∃ e, HasEdge document e ∧ e.relation ∈ ["amod", "nn"] ∧ e.governor.token = "pepper" ∧
    e.dependent.token = word

def HasPeppers (document : Members) : Prop :=
  PepperWith document "green" ∧ PepperWith document "bell" ∨
    PepperWith document "red" ∧ PepperWith document "bell" ∨
      PepperWith document "jalapeno"

/-- Some verb has an object, and a word of the scrubbed text is about cooking. -/
def HasCooking (document : Members) : Prop :=
  (∃ e tag, HasEdge document e ∧ e.relation = "dobj" ∧
      HasTagAt document e.governor.position tag ∧ tag ∈ ["VB", "VBD", "VBG", "VBZ", "VBP"]) ∧
    ∃ text, document.get? "scrubbed_text" = some (.string text) ∧
      ∃ found ∈ Text.words text.toList, ∃ word ∈ ["cooking", "recipe", "dinner"],
        Text.lower found = word.toList

section Filters

variable {document : Members} {v : Vine}

/-- A phrase that ends with the word `pepper` is in the vine if every earlier word of it depends on
that word in the document. -/
theorem flatStar_pepper_iff (h : v.ReadFrom document) {phrase : String} {modifiers : List String}
    (hwords : Text.wordStrings phrase = modifiers ++ ["pepper"]) (hne : modifiers ≠ []) :
    FlatStar (· ∈ v.edges) (RelationChoice.Allows .any) (· ∈ defaultModifierRelations) .governor
        (Text.wordStrings phrase) ↔
      ∀ word ∈ modifiers, PepperWith document word := by
  simp only [hwords, flatStar_any_governor_iff hne, h.mem_edges_iff]
  rfl

theorem peppers_passes_iff (h : v.ReadFrom document) :
    peppers.passes v = .ok true ↔ HasPeppers document := by
  have hgreen : Text.wordStrings "green bell pepper" = ["green", "bell"] ++ ["pepper"] := by decide
  have hred : Text.wordStrings "red bell pepper" = ["red", "bell"] ++ ["pepper"] := by decide
  have hjalapeno : Text.wordStrings "jalapeno pepper" = ["jalapeno"] ++ ["pepper"] := by decide
  rw [Filter.passes_eq_true_iff peppers_configured.suited]
  simp [peppers, Vine.Fulfils, RelationChoice.ofList?, Side.governor_eq_field_iff,
    flatStar_pepper_iff h hgreen, flatStar_pepper_iff h hred, flatStar_pepper_iff h hjalapeno,
    HasPeppers]

/-- The vine has an edge of the relation with one of the tags at its governor exactly if the
document has one. -/
theorem exists_tag_at_governor_iff (h : v.ReadFrom document) (relation : String)
    (tags : List String) :
    (∃ e ∈ v.edges, e.relation = relation ∧
        ∃ t, v.taggedTokens[e.governor.position]? = some t ∧ t.tag ∈ tags) ↔
      ∃ e tag, HasEdge document e ∧ e.relation = relation ∧
        HasTagAt document e.governor.position tag ∧ tag ∈ tags := by
  simp only [← h.mem_edges_iff, ← h.exists_tag_iff]
  constructor
  · intro hvine
    obtain ⟨e, he, hrelation, t, ht, htag⟩ := hvine
    exact ⟨e, t.tag, he, hrelation, ⟨t, ht, rfl⟩, htag⟩
  · intro hdocument
    obtain ⟨e, _, he, hrelation, ⟨t, ht, rfl⟩, htag⟩ := hdocument
    exact ⟨e, he, hrelation, t, ht, htag⟩

/-- The words that are looked for are in lower case already. -/
theorem exists_topic_iff (h : v.ReadFrom document) :
    v.Fulfils (.word ["cooking", "recipe", "dinner"] .scrubbedText) ↔
      ∃ text, document.get? "scrubbed_text" = some (.string text) ∧
        ∃ found ∈ Text.words text.toList, ∃ word ∈ ["cooking", "recipe", "dinner"],
          Text.lower found = word.toList := by
  have hlower : ∀ word ∈ ["cooking", "recipe", "dinner"],
      Text.lower word.toList = word.toList := by decide
  simp only [Vine.Fulfils, Vine.textFor, ↓reduceIte, h.get?_scrubbedText, Option.some.injEq,
    Json.string.injEq, exists_eq_left']
  constructor
  · intro hvine
    obtain ⟨word, hword, found, hfound, heq⟩ := hvine
    exact ⟨found, hfound, word, hword, heq.trans (hlower word hword)⟩
  · intro hdocument
    obtain ⟨found, hfound, word, hword, heq⟩ := hdocument
    exact ⟨word, hword, found, hfound, heq.trans (hlower word hword).symm⟩

theorem cooking_passes_iff (h : v.ReadFrom document) :
    cooking.passes v = .ok true ↔ HasCooking document := by
  have haction : v.Fulfils (.endpointTag ["VB", "VBD", "VBG", "VBZ", "VBP"] ["dobj"] .governor) ↔
      ∃ e ∈ v.edges, e.relation = "dobj" ∧ ∃ t,
        v.taggedTokens[e.governor.position]? = some t ∧
          t.tag ∈ ["VB", "VBD", "VBG", "VBZ", "VBP"] := by
    simp only [Vine.Fulfils, Side.governor_eq_field_iff, exists_eq_left, List.mem_singleton,
      Edge.tokenAt]
  rw [Filter.passes_eq_true_iff cooking_configured.suited, HasCooking,
    ← exists_tag_at_governor_iff h, ← haction, ← exists_topic_iff h]
  simp [cooking]

end Filters

section Replies

variable {depths : Depths} {read : String → Except (Failure Unit) Json} {m : Manager}
  {body : String} {document : Members}

/-- The body is read as a document that a vine can be made of. -/
def Carries (read : String → Except (Failure Unit) Json) (body : String) (document : Members) :
    Prop :=
  read body = .ok (.object document) ∧ Document.Complete document

/-- Reading the body, or refusing its document, runs into this. -/
def BreaksOff (depths : Depths) (read : String → Except (Failure Unit) Json) (body : String)
    (cause : Breakdown) : Prop :=
  read body = .error (.brokenOff cause) ∨
    ∃ document, read body = .ok document ∧ Document.BreaksOff depths document cause

/-- What a body is answered where these filters are registered. -/
inductive Replies (depths : Depths) (read : String → Except (Failure Unit) Json)
    (filters : Registry) (body : String) : Reply → Prop where
  | notJson (hjson : read body = .error (.reported ())) : Replies depths read filters body .notJson
  | notVine {document : Json} {reason : VineError} (hjson : read body = .ok document)
      (hvine : Vine.ofDocument document = .error reason)
      (hclear : Clear (Document.BreaksOff depths) document) :
      Replies depths read filters body .notVine
  | passed {document : Members} {v : Vine} (hjson : read body = .ok (.object document))
      (hvine : v.ReadFrom document) :
      Replies depths read filters body (.passed v.id (filters.admitted v))
  | broken {cause : Breakdown} (h : BreaksOff depths read body cause) :
      Replies depths read filters body (.broken (.brokenOff cause))

/-- A body is answered, and the manager stays as it is. -/
theorem post_replies (hconfigured : m.registry.Configured) (hne : m.registry ≠ [])
    (body : String) :
    (post depths read m body).2.2 = m ∧
      Replies depths read m.registry body (post depths read m body).1 := by
  rw [post]
  cases hjson : read body with
  | error failure =>
      cases failure with
      | reported cause => exact ⟨rfl, .notJson hjson⟩
      | brokenOff cause => exact ⟨rfl, .broken (.inl hjson)⟩
  | ok document =>
      cases hvine : Vine.ofDocument document with
      | error reason =>
          by_cases hclear : Clear (Document.BreaksOff depths) document
          · simp only [Vine.read_of_clear hclear hvine]
            exact ⟨trivial, .notVine hjson hvine hclear⟩
          · obtain ⟨cause, hbreaks⟩ : ∃ cause, Document.BreaksOff depths document cause := by
              simpa [Clear] using hclear
            simp only [hbreaks.read_eq]
            exact ⟨trivial, .broken (.inr ⟨document, hjson, hbreaks⟩)⟩
      | ok v =>
          obtain ⟨members, rfl, hread⟩ := Vine.ofDocument_eq_ok_iff.mp hvine
          simp only [Vine.read_of_ok hvine, Trial.evaluate_eq_ok hconfigured hne]
          exact ⟨trivial, .passed hjson hread⟩

/-- A body that carries a document is read, and a vine of it is not refused. -/
theorem Carries.not_breaksOff (h : Carries read body document) :
    Clear (BreaksOff depths read) body := by
  obtain ⟨hread, hcomplete⟩ := h
  obtain ⟨v, hv⟩ := Document.exists_readFrom_iff.mpr hcomplete
  have hclear : Clear (Document.BreaksOff depths) (.object document) :=
    Document.clear_of_ok (Vine.ofDocument_object_eq_ok_iff.mpr hv)
  intro cause hbreaks
  rcases hbreaks with hbody | ⟨other, hjson, hother⟩
  · simp [hread] at hbody
  · obtain rfl := Except.ok.inj (hread.symm.trans hjson)
    exact hclear cause hother

theorem Replies.exists_of_carries {filters : Registry} {reply : Reply}
    (h : Replies depths read filters body reply) (hcarries : Carries read body document) :
    ∃ v : Vine, v.ReadFrom document ∧ reply = .passed v.id (filters.admitted v) := by
  have hclear : Clear (BreaksOff depths read) body := hcarries.not_breaksOff
  obtain ⟨hread, hcomplete⟩ := hcarries
  cases h with
  | notJson hjson => simp [hread] at hjson
  | notVine hjson hvine =>
      obtain rfl := Except.ok.inj (hread.symm.trans hjson)
      obtain ⟨v, hv⟩ := Document.exists_readFrom_iff.mpr hcomplete
      rw [Vine.ofDocument_object_eq_ok_iff.mpr hv] at hvine
      contradiction
  | passed hjson hvine =>
      obtain rfl := Json.object.inj (Except.ok.inj (hread.symm.trans hjson))
      exact ⟨_, hvine, rfl⟩
  | broken hbreaks => exact absurd hbreaks (hclear _)

/-- A body runs into one thing at most. -/
theorem BreaksOff.unique {cause cause' : Breakdown} (h : BreaksOff depths read body cause)
    (h' : BreaksOff depths read body cause') : cause = cause' := by
  rcases h with hbody | ⟨document, hjson, hbreaks⟩
  · rcases h' with hbody' | ⟨document', hjson', -⟩
    · simpa using hbody.symm.trans hbody'
    · simp [hbody] at hjson'
  · rcases h' with hbody' | ⟨document', hjson', hbreaks'⟩
    · simp [hjson] at hbody'
    · obtain rfl := Except.ok.inj (hjson.symm.trans hjson')
      simpa using hbreaks.read_eq.symm.trans hbreaks'.read_eq

theorem Replies.eq_broken {filters : Registry} {reply : Reply} {cause : Breakdown}
    (h : Replies depths read filters body reply) (hbreaks : BreaksOff depths read body cause) :
    reply = .broken (.brokenOff cause) := by
  cases h with
  | notJson hjson =>
      rcases hbreaks with hbody | ⟨document, hread, -⟩
      · simp [hjson] at hbody
      · simp [hjson] at hread
  | notVine hjson hvine hclear =>
      rcases hbreaks with hbody | ⟨document, hread, hdocument⟩
      · simp [hjson] at hbody
      · obtain rfl := Except.ok.inj (hjson.symm.trans hread)
        exact absurd hdocument (hclear cause)
  | passed hjson hvine =>
      have hcarries : Carries read body _ :=
        ⟨hjson, Document.exists_readFrom_iff.mp ⟨_, hvine⟩⟩
      exact absurd hbreaks (hcarries.not_breaksOff cause)
  | broken hother => rw [hother.unique hbreaks]

/-- Exactly the bodies that carry no complete document are refused, unless that breaks off. -/
theorem Replies.status_eq_iff {filters : Registry} {reply : Reply}
    (h : Replies depths read filters body reply) (hclear : Clear (BreaksOff depths read) body) :
    reply.status = 400 ↔ ¬ ∃ document, Carries read body document := by
  constructor
  · intro hstatus hsome
    obtain ⟨document, hcarries⟩ := hsome
    obtain ⟨v, -, rfl⟩ := h.exists_of_carries hcarries
    simp [Reply.status] at hstatus
  · intro hnone
    cases h with
    | notJson _ => rfl
    | notVine _ _ _ => rfl
    | passed hjson hvine =>
        exact absurd ⟨_, hjson, Document.exists_readFrom_iff.mp ⟨_, hvine⟩⟩ hnone
    | broken hbreaks => exact absurd hbreaks (hclear _)

end Replies

section Series

variable (depths : Depths) (read : String → Except (Failure Unit) Json)

/-- A reply that is right for the body, where the filters are registered under these names. -/
structure Answers (names : List String) (body : String) (reply : Reply) : Prop where
  status_eq_iff : Clear (BreaksOff depths read) body →
    (reply.status = 400 ↔ ¬ ∃ document, Carries read body document)
  broken : ∀ cause, BreaksOff depths read body cause → reply = .broken (.brokenOff cause)
  passed : ∀ document, Carries read body document → ∃ id passed,
    document.get? "id" = some (.string id) ∧ reply = .passed id passed ∧ passed.Sublist names ∧
      ("peppers" ∈ passed ↔ HasPeppers document) ∧ ("cooking" ∈ passed ↔ HasCooking document)

/-- Every series of bodies is answered body by body: the replies are the ones that each body gets
when nothing else is posted, they are right for the bodies, and the manager stays as it is. -/
def AnswersByContent (m : Manager) (names : List String) : Prop :=
  ∀ bodies,
    serve depths read m bodies =
      (bodies.map fun body =>
        ((post depths read m body).1, (post depths read m body).2.1), m) ∧
    ∀ body ∈ bodies, Answers depths read names body (post depths read m body).1

variable {m : Manager}

/-- The two filters are registered, in whichever order. -/
def Equipped (m : Manager) : Prop :=
  m.registry.Perm [.ordinary peppers, .ordinary cooking]

namespace Equipped

theorem configured (h : Equipped m) : m.registry.Configured := by
  intro f hf
  exact Registry.Configured.cons peppers_configured (.cons cooking_configured .nil) f
    (h.mem_iff.mp hf)

theorem registry_ne_nil (h : Equipped m) : m.registry ≠ [] := by
  intro hempty
  have hlength := h.length_eq
  simp [hempty] at hlength

theorem names_nodup (h : Equipped m) : m.registry.names.Nodup := by
  have hperm : m.registry.names.Perm ["peppers", "cooking"] := h.map _
  rw [hperm.nodup_iff]
  decide

/-- Posting a body leaves the manager as it is, and the reply is right for the body. -/
theorem post_answers (h : Equipped m) (body : String) :
    (post depths read m body).2.2 = m ∧
      Answers depths read m.registry.names body (post depths read m body).1 := by
  obtain ⟨hmanager, hreplies⟩ := post_replies h.configured h.registry_ne_nil body
  refine ⟨hmanager, hreplies.status_eq_iff, fun _ hbreaks => hreplies.eq_broken hbreaks, ?_⟩
  intro document hcarries
  obtain ⟨v, hv, hreply⟩ := hreplies.exists_of_carries hcarries
  have hpeppers : .ordinary peppers ∈ m.registry := h.mem_iff.mpr (by simp)
  have hcooking : .ordinary cooking ∈ m.registry := h.mem_iff.mpr (by simp)
  refine ⟨v.id, _, hv.get?_id, hreply, Registry.admitted_sublist _ v, ?_, ?_⟩
  · rw [← peppers_passes_iff hv]
    exact Registry.name_mem_admitted_iff h.names_nodup hpeppers
  · rw [← cooking_passes_iff hv]
    exact Registry.name_mem_admitted_iff h.names_nodup hcooking

/-- A series of bodies is answered body by body, by induction on the series: each body meets the
manager that the first one has met. -/
theorem serve_eq_map (h : Equipped m) (bodies : List String) :
    serve depths read m bodies =
      (bodies.map fun body =>
        ((post depths read m body).1, (post depths read m body).2.1), m) := by
  induction bodies with
  | nil => rfl
  | cons body rest ih => simp only [serve, (h.post_answers depths read body).1, ih, List.map_cons]

theorem answersByContent (h : Equipped m) : AnswersByContent depths read m m.registry.names := by
  intro bodies
  exact ⟨h.serve_eq_map depths read bodies, fun body _ => (h.post_answers depths read body).2⟩

end Equipped

end Series

section Start

/-- The manager that the service starts with if the sections come in this order. -/
def equippedWith (filters : Registry) : Manager :=
  ⟨defaultModifierRelations, 1, by decide, false, filters⟩

/-- However the settings are parsed, the filters come in the order of the sections. -/
theorem exists_startWith {parse : List (List Char) → Except SettingsError Json}
    {sections : Members}
    (hparse : parse (settings.map String.toList) = .ok (.object [("filters", .object sections)]))
    (hsections : sections.Perm writtenSections) :
    ∃ m, startWith parse = .ok m ∧ Equipped m ∧ m.registry.names = Members.keys sections := by
  rcases List.perm_pair.mp hsections with rfl | rfl
  · exact ⟨equippedWith [.ordinary peppers, .ordinary cooking], by rw [startWith, hparse]; rfl,
      .refl _, rfl⟩
  · exact ⟨equippedWith [.ordinary cooking, .ordinary peppers], by rw [startWith, hparse]; rfl,
      .swap _ _ _, rfl⟩

/-- The service answers every series of bodies body by body, and every body by its own content: it
refuses the ones of which no vine can be made, and to the others it replies with the `id` of the
document and with those of its two filters that the document asks for.  It fails if reading the body
or refusing it breaks off.  All that is asked of the parsed settings is that they give the two
sections as they are written, and the names come in the order in which they give them. -/
theorem serve_answers_by_content (depths : Depths) (read : String → Except (Failure Unit) Json)
    {parse : List (List Char) → Except SettingsError Json} {sections : Members}
    (hparse : parse (settings.map String.toList) = .ok (.object [("filters", .object sections)]))
    (hsections : sections.Perm writtenSections) :
    ∃ m, startWith parse = .ok m ∧ AnswersByContent depths read m (Members.keys sections) := by
  obtain ⟨m, hstart, hequipped, hnames⟩ := exists_startWith hparse hsections
  exact ⟨m, hstart, hnames ▸ hequipped.answersByContent depths read⟩

/-- Settings that are parsed as these sections. -/
def parsedAs (sections : Members) (_ : List (List Char)) : Except SettingsError Json :=
  .ok (.object [("filters", .object sections)])

/-- The names come as the sections are written where the sections are parsed in that order, and the
other way round where they are parsed in the order of their names. -/
theorem serve_answers_by_content_written :
    (∃ m, startWith (parsedAs writtenSections) = .ok m ∧
      AnswersByContent ⟨900, 900⟩ readBody m ["peppers", "cooking"]) ∧
    ∃ m, startWith (parsedAs [("cooking", cookingSection), ("peppers", peppersSection)]) = .ok m ∧
      AnswersByContent ⟨900, 900⟩ readBody m ["cooking", "peppers"] :=
  ⟨serve_answers_by_content ⟨900, 900⟩ readBody rfl (.refl writtenSections),
    serve_answers_by_content ⟨900, 900⟩ readBody rfl (.swap _ _ _)⟩

theorem readBody_ofEdge (encoding : String) :
    readBody (String.ofList (Document.ofEdge encoding).compact) =
      .ok (Document.ofEdge encoding) := by
  rw [readBody, Json.readStrict?_compact (Document.exact_ofEdge encoding)]

/-- A document with an index that is too long describes no vine, and the service does not refuse
it. -/
theorem post_padded {m : Manager} (h : Equipped m) (depths : Depths) {zeros : Nat}
    (hzeros : Text.digitLimit ≤ zeros) :
    (¬ ∃ document,
      Carries readBody (String.ofList (Document.ofEdge (Edge.padded zeros)).compact) document) ∧
      (post depths readBody m
        (String.ofList (Document.ofEdge (Edge.padded zeros)).compact)).1.status = 500 := by
  have hbreaks : BreaksOff depths readBody
      (String.ofList (Document.ofEdge (Edge.padded zeros)).compact) (.longDigits (zeros + 1)) :=
    .inr ⟨_, readBody_ofEdge _, Document.breaksOff_ofEdge_padded depths hzeros⟩
  constructor
  · rintro ⟨document, hcarries⟩
    exact hcarries.not_breaksOff _ hbreaks
  · rw [((h.post_answers depths readBody _).2).broken _ hbreaks]
    rfl

theorem post_incomplete_fails :
    let body := String.ofList (Document.ofEdge (Edge.padded Text.digitLimit)).compact
    ∃ m, startWith (parsedAs writtenSections) = .ok m ∧
      (¬ ∃ document, Carries readBody body document) ∧
      (post ⟨900, 900⟩ readBody m body).1.status = 500 := by
  obtain ⟨m, hstart, hequipped, -⟩ := @exists_startWith (parsedAs writtenSections) _ rfl (.refl _)
  exact ⟨m, hstart, post_padded hequipped ⟨900, 900⟩ (Nat.le_refl _)⟩

end Start

end Service

end GrammarSieve
