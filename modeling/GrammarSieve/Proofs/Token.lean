/-
Tokens and their written form.  The position of an enumerated token holds no hyphen, so it stands
behind the last hyphen of the written form, whatever the token looks like.  A hyphen that is not in
the tag of a tagged token is the first one of the entry, so an entry is read as exactly one tag and
one token, and two entries that are read alike are alike.
-/
import GrammarSieve.Token
import GrammarSieve.Proofs.Text.Decimal

namespace GrammarSieve

namespace Text

/-- A text has one last mark only. -/
theorem append_last_mark_inj {mark : Char} {before before' after after' : List Char}
    (h : mark ∉ after) (h' : mark ∉ after')
    (heq : before ++ mark :: after = before' ++ mark :: after') :
    before = before' ∧ after = after' := by
  have hreverse : after.reverse ++ mark :: before.reverse =
      after'.reverse ++ mark :: before'.reverse := by
    simpa using congrArg List.reverse heq
  obtain ⟨hafter, hbefore⟩ := append_mark_inj (by simpa using h) (by simpa using h') hreverse
  exact ⟨List.reverse_inj.mp hbefore, List.reverse_inj.mp hafter⟩

end Text

namespace EnumeratedToken

/-- A token has a written form exactly if its position is small enough to be written. -/
theorem chars?_eq_some_iff {t : EnumeratedToken} {chars : List Char} :
    t.chars? = some chars ↔ t.position < 10 ^ Text.digitLimit ∧
      chars = t.token.toList ++ '-' :: Text.decimal t.position := by
  simp only [chars?, Option.map_eq_some_iff, Text.digits?_eq_some_iff]
  constructor
  · rintro ⟨digits, ⟨hsmall, rfl⟩, rfl⟩
    exact ⟨hsmall, rfl⟩
  · rintro ⟨hsmall, rfl⟩
    exact ⟨_, ⟨hsmall, rfl⟩, rfl⟩

theorem text?_eq_some_iff {t : EnumeratedToken} {text : String} :
    t.text? = some text ↔ t.position < 10 ^ Text.digitLimit ∧
      text.toList = t.token.toList ++ '-' :: Text.decimal t.position := by
  simp only [text?, Option.map_eq_some_iff, chars?_eq_some_iff]
  constructor
  · rintro ⟨chars, ⟨hsmall, rfl⟩, rfl⟩
    exact ⟨hsmall, String.toList_ofList⟩
  · rintro ⟨hsmall, htext⟩
    exact ⟨text.toList, ⟨hsmall, htext⟩, String.ofList_toList⟩

theorem text?_eq_none_iff {t : EnumeratedToken} :
    t.text? = none ↔ 10 ^ Text.digitLimit ≤ t.position := by
  simp [text?, chars?, Text.digits?_eq_none_iff]

/-- The written form tells enumerated tokens apart, even where a token ends in a hyphen and digits
of its own: two tokens have one written form exactly if they are the same token, at a position that
is small enough to be written.  A token at a bigger position has no written form. -/
theorem common_text_iff (s t : String) (i j : Nat) :
    ((∃ text, text? ⟨s, i⟩ = some text ∧ text? ⟨t, j⟩ = some text) ↔
      (s = t ∧ i = j) ∧ i < 10 ^ Text.digitLimit) ∧
    (text? ⟨s, i⟩ = none ↔ 10 ^ Text.digitLimit ≤ i) := by
  refine ⟨?_, text?_eq_none_iff⟩
  simp only [text?_eq_some_iff]
  constructor
  · rintro ⟨text, ⟨hsmall, htext⟩, -, htext'⟩
    obtain ⟨htoken, hposition⟩ := Text.append_last_mark_inj (Text.hyphen_not_mem_decimal i)
      (Text.hyphen_not_mem_decimal j) (htext.symm.trans htext')
    exact ⟨⟨String.toList_inj.mp htoken, Text.decimal_injective hposition⟩, hsmall⟩
  · rintro ⟨⟨rfl, rfl⟩, hsmall⟩
    exact ⟨String.ofList (s.toList ++ '-' :: Text.decimal i), ⟨hsmall, String.toList_ofList⟩,
      hsmall, String.toList_ofList⟩

/-- The first position that is too big to be written. -/
theorem text?_ten_pow_digitLimit :
    ¬ ∃ text, text? ⟨"a", 10 ^ Text.digitLimit⟩ = some text := by
  have hnone : text? ⟨"a", 10 ^ Text.digitLimit⟩ = none := text?_eq_none_iff.mpr (Nat.le_refl _)
  simp [hnone]

end EnumeratedToken

namespace TaggedToken

/-- An entry is decoded to a tag and a token exactly if it is their written form, the tag has no
hyphen and neither of them is empty. -/
theorem decode_eq_ok_iff {entry : String} {t : TaggedToken} :
    decode entry = .ok t ↔
      entry.toList = t.chars ∧ '-' ∉ t.tag.toList ∧ t.tag ≠ "" ∧ t.token ≠ "" := by
  constructor
  · intro h
    rw [decode] at h
    split at h
    · next tag token hcut =>
        split at h
        · contradiction
        · next hne =>
            simp only [Except.ok.injEq] at h
            subst h
            rw [not_or] at hne
            refine ⟨?_, by simpa using Text.not_mem_of_cutAtFirst hcut, by simpa using hne.1,
              by simpa using hne.2⟩
            simpa [chars] using Text.eq_of_cutAtFirst hcut
    · contradiction
  · intro h
    obtain ⟨hentry, hfree, htag, htoken⟩ := h
    rw [decode, hentry, chars, Text.cutAtFirst_append hfree]
    simp [htag, htoken]

/-- Entries that decode to one tagged token are one entry. -/
theorem decode_injective {first second : String} {t : TaggedToken}
    (hfirst : decode first = .ok t) (hsecond : decode second = .ok t) : first = second := by
  have hchars := (decode_eq_ok_iff.mp hfirst).1.trans (decode_eq_ok_iff.mp hsecond).1.symm
  exact String.toList_inj.mp hchars

theorem ofJson_eq_ok_iff {entry : Json} {t : TaggedToken} :
    ofJson entry = .ok t ↔ ∃ text, entry = .string text ∧ decode text = .ok t := by
  cases entry <;> simp [ofJson]

end TaggedToken

end GrammarSieve
