/-
Tag entries and tagged tokens, in both directions.  An entry is read if its first hyphen has
something on either side, and what is read is written as that entry.  A tagged token comes back from
its written form if the tag has no hyphen and neither part is empty.  So the tags of a vine are the
entries of its document, written again.
-/
import GrammarSieve.Proofs.Vine.Reading

namespace GrammarSieve

namespace TaggedToken

/-- The first hyphen of the written form is the one behind the tag, and neither part is empty. -/
structure Separable (t : TaggedToken) : Prop where
  tag_ne : t.tag ≠ ""
  not_mem_tag : '-' ∉ t.tag.toList
  token_ne : t.token ≠ ""

theorem text_of_decode {entry : String} {t : TaggedToken} (h : decode entry = .ok t) :
    t.text = entry := by
  obtain ⟨hchars, -⟩ := decode_eq_ok_iff.mp h
  rw [text, ← hchars, String.ofList_toList]

theorem decode_text_iff {t : TaggedToken} : decode t.text = .ok t ↔ t.Separable := by
  rw [decode_eq_ok_iff, text, String.toList_ofList]
  constructor
  · rintro ⟨-, hfree, htag, htoken⟩
    exact ⟨htag, hfree, htoken⟩
  · intro h
    exact ⟨rfl, h.not_mem_tag, h.tag_ne, h.token_ne⟩

/-- An entry is read if it has a hyphen and its first one is neither at the beginning nor at the
end. -/
theorem exists_decode_iff {entry : String} :
    (∃ t, decode entry = .ok t) ↔
      '-' ∈ entry.toList ∧ entry.toList.idxOf '-' ≠ 0 ∧
        entry.toList.idxOf '-' ≠ entry.toList.length - 1 := by
  constructor
  · rintro ⟨t, ht⟩
    obtain ⟨hchars, hfree, htag, htoken⟩ := decode_eq_ok_iff.mp ht
    have hplace : entry.toList.idxOf '-' = t.tag.toList.length := by
      rw [hchars, chars, List.idxOf_append_of_notMem hfree, List.idxOf_cons_self, Nat.add_zero]
    have hlength : entry.toList.length = t.tag.toList.length + (t.token.toList.length + 1) := by
      rw [hchars, chars, List.length_append, List.length_cons]
    have htag' : t.tag.toList.length ≠ 0 := by simpa using htag
    have htoken' : t.token.toList.length ≠ 0 := by simpa using htoken
    refine ⟨?_, by omega, by omega⟩
    rw [hchars, chars]
    simp
  · rintro ⟨hmem, hfront, hback⟩
    obtain ⟨tag, token, hsplit, hfree⟩ := List.eq_append_cons_of_mem hmem
    rw [hsplit, List.idxOf_append_of_notMem hfree, List.idxOf_cons_self, Nat.add_zero] at hfront hback
    have htag : tag ≠ [] := by
      rintro rfl
      simp at hfront
    have htoken : token ≠ [] := by
      rintro rfl
      simp at hback
    refine ⟨⟨String.ofList tag, String.ofList token⟩, decode_eq_ok_iff.mpr ?_⟩
    simp [chars, hsplit, hfree, htag, htoken]

theorem eq_string_of_ofJson {entry : Json} {t : TaggedToken} (h : ofJson entry = .ok t) :
    entry = .string t.text := by
  obtain ⟨text, rfl, hdecode⟩ := ofJson_eq_ok_iff.mp h
  rw [text_of_decode hdecode]

end TaggedToken

/-- Written again, the tagged tokens of a vine are the tag entries of its document. -/
theorem Vine.ReadFrom.get?_posTags {document : Members} {v : Vine} (h : ReadFrom document v) :
    document.get? "pos_tags" = some (.array (v.taggedTokens.map fun t => .string t.text)) := by
  obtain ⟨entries, hentries, hdecoded⟩ := h.taggedTokens
  have hwritten : entries = v.taggedTokens.map fun t => .string t.text := by
    rw [← List.forall₂_eq_eq_eq, List.forall₂_map_right_iff]
    exact hdecoded.imp fun _ _ => TaggedToken.eq_string_of_ofJson
  rw [hentries, hwritten]

/-- Reading a tag entry and writing a tagged token are inverse to each other where both are
possible.  Reading needs a first hyphen with something on either side, and writing can be undone if
the tag has no hyphen and neither part is empty.  So the tags of a vine, written again, are the tag
entries of its document, and a tagged token that was read is among them exactly if its written form
is among the entries. -/
theorem TaggedToken.decode_inverse_text :
    (∀ entry, (∃ t, decode entry = .ok t) ↔
      '-' ∈ entry.toList ∧ entry.toList.idxOf '-' ≠ 0 ∧
        entry.toList.idxOf '-' ≠ entry.toList.length - 1) ∧
    (∀ entry t, decode entry = .ok t → t.text = entry) ∧
    (∀ tag token, decode (text ⟨tag, token⟩) = .ok ⟨tag, token⟩ ↔
      tag ≠ "" ∧ '-' ∉ tag.toList ∧ token ≠ "") ∧
    ∀ (document : Members) (v : Vine), Vine.ofDocument (.object document) = .ok v →
      ∃ entries, document.get? "pos_tags" = some (.array (entries.map .string)) ∧
        v.taggedTokens.map text = entries ∧
        ∀ entry t, decode entry = .ok t → (v.containsTagged t = true ↔ t.text ∈ entries) := by
  refine ⟨fun entry => exists_decode_iff, fun entry t => text_of_decode, ?_, ?_⟩
  · intro tag token
    rw [decode_text_iff]
    constructor
    · rintro ⟨htag, hfree, htoken⟩
      exact ⟨htag, hfree, htoken⟩
    · rintro ⟨htag, hfree, htoken⟩
      exact ⟨htag, hfree, htoken⟩
  · intro document v hv
    have hread := Vine.ofDocument_object_eq_ok_iff.mp hv
    refine ⟨v.taggedTokens.map text, ?_, rfl, ?_⟩
    · rw [hread.get?_posTags, List.map_map]
      rfl
    · intro entry t ht
      rw [Vine.containsTagged, List.contains_iff_mem, hread.mem_taggedTokens_iff ht,
        text_of_decode ht, Document.HasEntry]
      simp [hread.get?_posTags]

/-- A token that is a hyphen, and one with a hyphen in it, which is not taken for what stands behind
the last hyphen.  A tag with a hyphen in it does not come back. -/
theorem TaggedToken.decode_inverse_text_hyphen :
    let document : Members := [("id", .string "1"), ("url", .string ""), ("text", .string ""),
      ("scrubbed_text", .string ""), ("pos_tags", .array [.string "HYPH--", .string "NN-top-shelf"]),
      ("grammar_dependencies", .array [])]
    ∃ v, Vine.ofDocument (.object document) = .ok v ∧
      v.taggedTokens.map text = ["HYPH--", "NN-top-shelf"] ∧
      v.containsTagged ⟨"NN", "top-shelf"⟩ = true ∧ v.containsTagged ⟨"NN", "shelf"⟩ = false ∧
      text ⟨"HYPH", "-"⟩ = "HYPH--" ∧ (¬ ∃ t, decode "-NN" = .ok t) ∧
      decode (text ⟨"NN-top", "shelf"⟩) ≠ .ok ⟨"NN-top", "shelf"⟩ := by
  intro document
  let v : Vine := ⟨document, "1", "", "", "", [⟨"HYPH", "-"⟩, ⟨"NN", "top-shelf"⟩], [], []⟩
  have hv : Vine.ofDocument (.object document) = .ok v := by rfl
  obtain ⟨hread, hwrite, hback, hvine⟩ := decode_inverse_text
  obtain ⟨entries, hentries, htexts, hmem⟩ := hvine document v hv
  have htop : decode "NN-top-shelf" = .ok ⟨"NN", "top-shelf"⟩ := by rfl
  have hshelf : decode "NN-shelf" = .ok ⟨"NN", "shelf"⟩ := by rfl
  have hhyphen : decode "HYPH--" = .ok ⟨"HYPH", "-"⟩ := by rfl
  have hlisted : entries = ["HYPH--", "NN-top-shelf"] := by rw [← htexts]; rfl
  refine ⟨v, hv, htexts.trans hlisted, ?_, ?_, hwrite _ _ hhyphen, ?_, ?_⟩
  · rw [hmem _ _ htop, hwrite _ _ htop, hlisted]
    simp
  · rw [← Bool.not_eq_true, hmem _ _ hshelf, hwrite _ _ hshelf, hlisted]
    simp
  · rw [hread]
    decide
  · rw [ne_eq, hback]
    decide

end GrammarSieve
