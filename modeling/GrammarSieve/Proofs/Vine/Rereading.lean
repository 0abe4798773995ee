/-
Reading a vine again from its own document with the log in it.  The log stands under a key that
the reading does not look at, so the vine is read again as it was, with a new document and an
empty log.  Nothing that an exact document holds is lost on the way.
-/
import GrammarSieve.Proofs.Json.Parts
import GrammarSieve.Proofs.Vine.Log
import GrammarSieve.Proofs.Vine.Reading

namespace GrammarSieve.Vine

/-- A log as it stands in a document. -/
def logValue (log : List String) : Json :=
  .array (log.map .string)

theorem exact_logValue (log : List String) : Json.Exact (logValue log) := by
  apply Json.exact_array
  intro item hitem
  obtain ⟨name, -, rfl⟩ := List.mem_map.mp hitem
  exact Json.exact_string name

/-- The vine as it is read from its document with the log in it. -/
def reread (v : Vine) : Vine :=
  { v with document := v.toDocument, goodFilters := [] }

namespace ReadFrom

variable {document : Members} {v : Vine}

theorem goodFilters_logged (h : ReadFrom document v) (log : List String) :
    (v.logged log).goodFilters = log := by
  rw [logged, h.goodFilters_eq, List.nil_append]

theorem toDocument_logged (h : ReadFrom document v) (log : List String) :
    (v.logged log).toDocument = document.put logKey (logValue log) := by
  rw [toDocument, h.goodFilters_logged]
  exact congrArg _ h.document_eq

theorem toDocument_eq (h : ReadFrom document v) :
    v.toDocument = document.put logKey (logValue []) := by
  rw [← h.toDocument_logged [], logged_nil]

theorem reread_logged (h : ReadFrom document v) (log : List String) :
    (v.logged log).reread = { v with document := document.put logKey (logValue log) } := by
  rw [reread, h.toDocument_logged, logged, h.goodFilters_eq]

/-- Putting a log into the document changes nothing but the document. -/
theorem put_logKey (h : ReadFrom document v) (log : Json) :
    ReadFrom (document.put logKey log) { v with document := document.put logKey log } where
  document_eq := rfl
  get?_id := by rw [Members.get?_put_of_ne (by decide), h.get?_id]
  get?_url := by rw [Members.get?_put_of_ne (by decide), h.get?_url]
  get?_text := by rw [Members.get?_put_of_ne (by decide), h.get?_text]
  get?_scrubbedText := by rw [Members.get?_put_of_ne (by decide), h.get?_scrubbedText]
  taggedTokens := by
    rw [Members.get?_put_of_ne (by decide)]
    exact h.taggedTokens
  edges := by
    rw [Members.get?_put_of_ne (by decide)]
    exact h.edges
  goodFilters_eq := h.goodFilters_eq

/-- Whatever was recorded, the document with the log describes the vine. -/
theorem ofDocument_toDocument (h : ReadFrom document v) (log : List String) :
    ofDocument (.object (v.logged log).toDocument) = .ok (v.logged log).reread := by
  rw [h.toDocument_logged, h.reread_logged]
  exact ofDocument_object_eq_ok_iff.mpr (h.put_logKey (logValue log))

end ReadFrom

/-- What comes back of a vine that has been written: all that it holds besides its log, and its
document with an empty log in place of the old one. -/
structure ReadBackAs (v again : Vine) : Prop where
  id_eq : again.id = v.id
  url_eq : again.url = v.url
  text_eq : again.text = v.text
  scrubbedText_eq : again.scrubbedText = v.scrubbedText
  taggedTokens_eq : again.taggedTokens = v.taggedTokens
  edges_eq : again.edges = v.edges
  goodFilters_eq : again.goodFilters = []
  toDocument_eq : again.toDocument = Members.put logKey (logValue []) v.toDocument
  keys_eq : Members.keys again.toDocument = Members.keys v.toDocument

theorem readBackAs_reread (v : Vine) : ReadBackAs v v.reread where
  id_eq := rfl
  url_eq := rfl
  text_eq := rfl
  scrubbedText_eq := rfl
  taggedTokens_eq := rfl
  edges_eq := rfl
  goodFilters_eq := rfl
  toDocument_eq := rfl
  keys_eq := Members.keys_put_of_mem (Members.mem_keys_put_self logKey _ v.document) (logValue [])

/-- An exact document stays exact with the log in it. -/
theorem exact_toDocument {v : Vine} (h : Json.Exact (.object v.document)) :
    Json.Exact (.object v.toDocument) := by
  refine Json.exact_object (Members.nodup_keys_put h.nodup_keys logKey _) ?_
  intro entry hentry
  rcases Members.mem_put hentry with rfl | hold
  · exact exact_logValue v.goodFilters
  · exact h.member hold

/-- The log is nested no deeper than the tags, so it needs no more room than they do. -/
theorem ReadFrom.fits_toDocument {document : Members} {v : Vine} (h : ReadFrom document v)
    (log : List String) {room : Nat} (hfits : Json.Fits room (.object document)) :
    Json.Fits room (.object (v.logged log).toDocument) := by
  obtain ⟨entries, hentries, -⟩ := h.taggedTokens
  rw [h.toDocument_logged]
  cases room with
  | zero => exact hfits.elim
  | succ room =>
      intro entry hentry
      rcases Members.mem_put hentry with rfl | hold
      · have htags := hfits _ (Members.mem_of_get? hentries)
        cases room with
        | zero => exact htags.elim
        | succ room =>
            intro item hitem
            obtain ⟨name, -, rfl⟩ := List.mem_map.mp hitem
            simp [Json.Fits]
      · exact hfits entry hold

end GrammarSieve.Vine
