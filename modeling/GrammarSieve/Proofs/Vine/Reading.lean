/-
Reading a vine, from the side of the document.  Reading succeeds exactly if every field is there
with the right kind of value and every entry decodes, and then the vine holds what the fields
say.
-/
import GrammarSieve.Vine.Document
import GrammarSieve.Proofs.Token
import GrammarSieve.Proofs.Edge.Grammar
import Mathlib.Data.List.Forall2

namespace GrammarSieve

/-- A chain of steps has a result exactly if its first step has one and the rest goes on from
there. -/
theorem bind_eq_ok_iff {ε α β : Type} {x : Except ε α} {f : α → Except ε β} {b : β} :
    x >>= f = .ok b ↔ ∃ a, x = .ok a ∧ f a = .ok b := by
  cases x with
  | error cause => simp [bind, Except.bind]
  | ok a => simp [bind, Except.bind]

/-- A pass over a list that takes its first entry and then the rest has a result exactly if every
entry gives one, and the result is made of these. -/
theorem eq_ok_iff_forall₂ {ε α β : Type} {pass : List α → Except ε (List β)} {R : α → β → Prop}
    (hnil : pass [] = .ok [])
    (hcons : ∀ x rest values, pass (x :: rest) = .ok values ↔
      ∃ y others, R x y ∧ pass rest = .ok others ∧ values = y :: others)
    {xs : List α} {ys : List β} : pass xs = .ok ys ↔ List.Forall₂ R xs ys := by
  induction xs generalizing ys with
  | nil => rw [hnil, List.forall₂_nil_left_iff, Except.ok.injEq, eq_comm]
  | cons x rest ih =>
      rw [hcons, List.forall₂_cons_left_iff]
      simp only [ih]

/-- What is related entry by entry is related at every position. -/
theorem exists_getElem?_of_forall₂ {α β : Type} {R : α → β → Prop} {xs : List α} {ys : List β}
    (h : List.Forall₂ R xs ys) {position : Nat} {x : α} (hx : xs[position]? = some x) :
    ∃ y, ys[position]? = some y ∧ R x y := by
  induction h generalizing position with
  | nil => simp at hx
  | cons hrel _ ih =>
      cases position with
      | zero =>
          obtain rfl := Option.some.inj hx
          exact ⟨_, rfl, hrel⟩
      | succ position => exact ih hx

/-- What is related entry by entry has a partner for every entry. -/
theorem exists_mem_of_forall₂ {α β : Type} {R : α → β → Prop} {xs : List α} {ys : List β}
    (h : List.Forall₂ R xs ys) {x : α} (hx : x ∈ xs) : ∃ y ∈ ys, R x y := by
  obtain ⟨position, hposition⟩ := List.mem_iff_getElem?.mp hx
  obtain ⟨y, hy, hrel⟩ := exists_getElem?_of_forall₂ h hposition
  exact ⟨y, List.mem_of_getElem? hy, hrel⟩

theorem forall_mem_iff_of_forall₂ {α β : Type} {R : α → β → Prop} {p : α → Prop} {q : β → Prop}
    {xs : List α} {ys : List β} (h : List.Forall₂ R xs ys) (hpq : ∀ x y, R x y → (p x ↔ q y)) :
    (∀ x ∈ xs, p x) ↔ ∀ y ∈ ys, q y := by
  induction h with
  | nil => simp
  | cons hrel _ ih => rw [List.forall_mem_cons, List.forall_mem_cons, hpq _ _ hrel, ih]

namespace Document

/-- The text is an entry of the array that the document has under the key. -/
def HasEntry (document : Members) (key text : String) : Prop :=
  ∃ entries, document.get? key = some (.array entries) ∧ Json.string text ∈ entries

/-- Some entry of the dependencies spells the edge. -/
def HasEdge (document : Members) (e : Edge) : Prop :=
  ∃ text, HasEntry document "grammar_dependencies" text ∧ Edge.Spells text.toList e

/-- Some entry of the dependencies has the relation before its first opening parenthesis. -/
def HasRelation (document : Members) (relation : String) : Prop :=
  ∃ text rest, HasEntry document "grammar_dependencies" text ∧
    text.toList = relation.toList ++ '(' :: rest ∧ '(' ∉ relation.toList

/-- There is an entry of the tags at the position, with the tag before its first hyphen. -/
def HasTagAt (document : Members) (position : Nat) (tag : String) : Prop :=
  ∃ entries text token, document.get? "pos_tags" = some (.array entries) ∧
    entries[position]? = some (Json.string text) ∧
    text.toList = tag.toList ++ '-' :: token ∧ '-' ∉ tag.toList

end Document

namespace Vine

theorem textField_eq_ok_iff {name value : String} {document : Members} :
    textField name document = .ok value ↔ document.get? name = some (.string value) := by
  rw [textField]
  split <;> simp_all

theorem listField_eq_ok_iff {name : String} {document : Members} {items : List Json} :
    listField name document = .ok items ↔ document.get? name = some (.array items) := by
  rw [listField]
  split <;> simp_all

theorem decodeEach_eq_ok_iff {α : Type} {decode : Json → Except DecodeError α}
    {entries : List Json} {values : List α} :
    decodeEach decode entries = .ok values ↔
      List.Forall₂ (fun entry value => decode entry = .ok value) entries values := by
  apply eq_ok_iff_forall₂
  · rfl
  · intro entry rest values
    rw [decodeEach]
    cases decode entry with
    | error cause => simp
    | ok value =>
        cases decodeEach decode rest with
        | error cause => simp
        | ok others => simp [eq_comm]

/-- What a document says of the vine that is read from it. -/
structure ReadFrom (document : Members) (v : Vine) : Prop where
  document_eq : v.document = document
  get?_id : document.get? "id" = some (.string v.id)
  get?_url : document.get? "url" = some (.string v.url)
  get?_text : document.get? "text" = some (.string v.text)
  get?_scrubbedText : document.get? "scrubbed_text" = some (.string v.scrubbedText)
  taggedTokens : ∃ entries, document.get? "pos_tags" = some (.array entries) ∧
    List.Forall₂ (fun entry t => TaggedToken.ofJson entry = .ok t) entries v.taggedTokens
  edges : ∃ entries, document.get? "grammar_dependencies" = some (.array entries) ∧
    List.Forall₂ (fun entry e => Edge.ofJson entry = .ok e) entries v.edges
  goodFilters_eq : v.goodFilters = []

theorem ofMembers_eq_ok_iff {document : Members} {v : Vine} :
    ofMembers document = .ok v ↔ ReadFrom document v := by
  simp only [ofMembers, bind_eq_ok_iff, textField_eq_ok_iff, listField_eq_ok_iff,
    decodeEach_eq_ok_iff]
  constructor
  · intro h
    obtain ⟨id, hid, url, hurl, text, htext, scrubbedText, hscrubbed, tags, htags, taggedTokens,
      htokens, dependencies, hdependencies, edges, hedges, h⟩ := h
    obtain rfl := Except.ok.inj h
    exact
      { document_eq := rfl
        get?_id := hid
        get?_url := hurl
        get?_text := htext
        get?_scrubbedText := hscrubbed
        taggedTokens := ⟨tags, htags, htokens⟩
        edges := ⟨dependencies, hdependencies, hedges⟩
        goodFilters_eq := rfl }
  · intro h
    obtain ⟨rfl, hid, hurl, htext, hscrubbed, ⟨tags, htags, htokens⟩,
      ⟨dependencies, hdependencies, hedges⟩, hlog⟩ := h
    refine ⟨_, hid, _, hurl, _, htext, _, hscrubbed, tags, htags, _, htokens, dependencies,
      hdependencies, _, hedges, ?_⟩
    rw [← hlog]
    rfl

theorem ofDocument_eq_ok_iff {document : Json} {v : Vine} :
    ofDocument document = .ok v ↔ ∃ members, document = .object members ∧ ReadFrom members v := by
  cases document <;> simp [ofDocument, ofMembers_eq_ok_iff]

theorem ofDocument_object_eq_ok_iff {document : Members} {v : Vine} :
    ofDocument (.object document) = .ok v ↔ ReadFrom document v :=
  ofMembers_eq_ok_iff

namespace ReadFrom

open Document

variable {document : Members} {v : Vine}

/-- The tag entries of the document decode to the tagged tokens. -/
theorem forall₂_taggedTokens (h : ReadFrom document v) {entries : List Json}
    (hentries : document.get? "pos_tags" = some (.array entries)) :
    List.Forall₂ (fun entry t => TaggedToken.ofJson entry = .ok t) entries v.taggedTokens := by
  obtain ⟨others, hothers, hdecoded⟩ := h.taggedTokens
  obtain rfl : others = entries := by simpa [hentries, eq_comm] using hothers
  exact hdecoded

/-- The dependency entries of the document decode to the edges. -/
theorem forall₂_edges (h : ReadFrom document v) {entries : List Json}
    (hentries : document.get? "grammar_dependencies" = some (.array entries)) :
    List.Forall₂ (fun entry e => Edge.ofJson entry = .ok e) entries v.edges := by
  obtain ⟨others, hothers, hdecoded⟩ := h.edges
  obtain rfl : others = entries := by simpa [hentries, eq_comm] using hothers
  exact hdecoded

/-- Each tag entry decodes to the tagged token at its position. -/
theorem getElem?_taggedTokens (h : ReadFrom document v) {entries : List Json}
    (hentries : document.get? "pos_tags" = some (.array entries)) {position : Nat} {text : String}
    (htext : entries[position]? = some (.string text)) :
    ∃ t, v.taggedTokens[position]? = some t ∧ TaggedToken.decode text = .ok t :=
  exists_getElem?_of_forall₂ (h.forall₂_taggedTokens hentries) htext

theorem getElem?_entries (h : ReadFrom document v) {position : Nat} {t : TaggedToken}
    (ht : v.taggedTokens[position]? = some t) :
    ∃ entries text, document.get? "pos_tags" = some (.array entries) ∧
      entries[position]? = some (.string text) ∧ TaggedToken.decode text = .ok t := by
  obtain ⟨entries, hentries, hdecoded⟩ := h.taggedTokens
  obtain ⟨entry, hentry, hok⟩ := exists_getElem?_of_forall₂ hdecoded.flip ht
  obtain ⟨text, rfl, hdecode⟩ := TaggedToken.ofJson_eq_ok_iff.mp hok
  exact ⟨entries, text, hentries, hentry, hdecode⟩

/-- A tagged token is in the vine exactly if an entry that decodes to it is in the document. -/
theorem mem_taggedTokens_iff (h : ReadFrom document v) {text : String} {t : TaggedToken}
    (hdecode : TaggedToken.decode text = .ok t) :
    t ∈ v.taggedTokens ↔ HasEntry document "pos_tags" text := by
  constructor
  · intro ht
    obtain ⟨position, hposition⟩ := List.mem_iff_getElem?.mp ht
    obtain ⟨entries, other, hentries, hother, hdecode'⟩ := h.getElem?_entries hposition
    obtain rfl := TaggedToken.decode_injective hdecode hdecode'
    exact ⟨entries, hentries, List.mem_of_getElem? hother⟩
  · intro hentry
    obtain ⟨entries, hentries, hmem⟩ := hentry
    obtain ⟨position, hposition⟩ := List.mem_iff_getElem?.mp hmem
    obtain ⟨found, hfound, hdecode'⟩ := h.getElem?_taggedTokens hentries hposition
    obtain rfl := Except.ok.inj (hdecode.symm.trans hdecode')
    exact List.mem_of_getElem? hfound

/-- The tag at a position is the one that the document has there. -/
theorem exists_tag_iff (h : ReadFrom document v) (position : Nat) (tag : String) :
    (∃ t, v.taggedTokens[position]? = some t ∧ t.tag = tag) ↔ HasTagAt document position tag := by
  constructor
  · intro htagged
    obtain ⟨t, ht, rfl⟩ := htagged
    obtain ⟨entries, text, hentries, htext, hdecode⟩ := h.getElem?_entries ht
    obtain ⟨hchars, hfree, -⟩ := TaggedToken.decode_eq_ok_iff.mp hdecode
    exact ⟨entries, text, t.token.toList, hentries, htext, hchars, hfree⟩
  · intro hentry
    obtain ⟨entries, text, token, hentries, htext, hchars, hfree⟩ := hentry
    obtain ⟨t, ht, hdecode⟩ := h.getElem?_taggedTokens hentries htext
    obtain ⟨hchars', hfree', -⟩ := TaggedToken.decode_eq_ok_iff.mp hdecode
    have hcut := Text.append_mark_inj hfree' hfree (hchars'.symm.trans hchars)
    exact ⟨t, ht, String.toList_inj.mp hcut.1⟩

/-- An edge is in the vine exactly if an entry of the document spells it. -/
theorem mem_edges_iff (h : ReadFrom document v) (e : Edge) :
    e ∈ v.edges ↔ HasEdge document e := by
  constructor
  · intro he
    obtain ⟨entries, hentries, hdecoded⟩ := h.edges
    obtain ⟨position, hposition⟩ := List.mem_iff_getElem?.mp he
    obtain ⟨entry, hentry, hok⟩ := exists_getElem?_of_forall₂ hdecoded.flip hposition
    obtain ⟨text, rfl, hdecode⟩ := Edge.ofJson_eq_ok_iff.mp hok
    exact ⟨text, ⟨entries, hentries, List.mem_of_getElem? hentry⟩, Edge.spells_of_decode hdecode⟩
  · intro hentry
    obtain ⟨text, ⟨entries, hentries, hmem⟩, hspells⟩ := hentry
    obtain ⟨position, hposition⟩ := List.mem_iff_getElem?.mp hmem
    obtain ⟨found, hfound, hok⟩ :=
      exists_getElem?_of_forall₂ (h.forall₂_edges hentries) hposition
    obtain rfl := (Edge.spells_iff_eq_of_decode hok).mp hspells
    exact List.mem_of_getElem? hfound

/-- A relation has an edge in the vine exactly if an entry of the document starts with it. -/
theorem exists_relation_iff (h : ReadFrom document v) (relation : String) :
    (∃ e ∈ v.edges, e.relation = relation) ↔ HasRelation document relation := by
  constructor
  · intro hedge
    obtain ⟨e, he, rfl⟩ := hedge
    obtain ⟨text, hentry, hspellable, s, -, -, htext⟩ := (h.mem_edges_iff e).mp he
    exact ⟨text, _, hentry, htext, hspellable.paren_not_mem_relation⟩
  · intro hentry
    obtain ⟨text, rest, ⟨entries, hentries, hmem⟩, htext, hfree⟩ := hentry
    obtain ⟨position, hposition⟩ := List.mem_iff_getElem?.mp hmem
    obtain ⟨e, he, hok⟩ := exists_getElem?_of_forall₂ (h.forall₂_edges hentries) hposition
    obtain ⟨hspellable, s, -, -, htext'⟩ := Edge.spells_of_decode hok
    have hcut := Text.append_mark_inj hspellable.paren_not_mem_relation hfree
      (htext'.symm.trans htext)
    exact ⟨e, List.mem_of_getElem? he, String.toList_inj.mp hcut.1⟩

end ReadFrom

end Vine

end GrammarSieve
