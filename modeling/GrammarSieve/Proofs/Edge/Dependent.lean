/-
The scan for a dependent by itself.  It reads an index from the end of a text, and of what stands
before the hyphen of this index only the part behind the last comma.  So a text in front of any
comma is passed over, whatever it holds, and the index may be written with other apostrophes and
with more zeros, as long as its digits can be read.
-/
import GrammarSieve.Proofs.Edge.Grammar

namespace GrammarSieve

namespace Text

theorem afterLast_append_mark (mark : Char) (front back : List Char) :
    afterLast mark (front ++ mark :: back) = afterLast mark back := by
  obtain ⟨passed, hback, hends⟩ := exists_append_afterLast mark back
  have hends' : [mark] <:+ front ++ mark :: passed := by
    rcases hends with rfl | ⟨before, rfl⟩
    · exact List.suffix_append front [mark]
    · exact ⟨front ++ mark :: before, by simp⟩
  calc afterLast mark (front ++ mark :: back)
      = afterLast mark (front ++ mark :: passed ++ afterLast mark back) := by
        rw [List.append_assoc, List.cons_append, ← hback]
    _ = afterLast mark back := afterLast_append (not_mem_afterLast mark back) (.inr hends')

/-- An end of a text that does not hold the mark lies behind every mark of the text. -/
theorem exists_eq_of_append_mark_eq {mark : Char} {front back before tail : List Char}
    (htail : mark ∉ tail) (h : front ++ mark :: back = before ++ tail) :
    ∃ passed, before = front ++ mark :: passed ∧ back = passed ++ tail := by
  rcases List.append_eq_append_iff.mp h with ⟨extra, hbefore, hback⟩ | ⟨extra, -, hextra⟩
  · cases extra with
    | nil =>
        obtain rfl : mark :: back = tail := hback
        exact absurd List.mem_cons_self htail
    | cons c passed =>
        obtain ⟨rfl, hpassed⟩ := List.cons.inj hback
        exact ⟨passed, hbefore, hpassed⟩
  · exact absurd (by simp [hextra]) htail

end Text

namespace Edge

/-- Where a dependent is scanned, the text ends in a hyphen and an index. -/
theorem exists_index_of_scanDependent {text : List Char} {dependent : EnumeratedToken}
    (h : scanDependent text = .ok dependent) :
    ∃ (before : List Char) (index : WrittenIndex),
      text = before ++ '-' :: (index.chars ++ [')']) := by
  obtain ⟨-, -, front, index, -, -, -, htext⟩ := scanDependent_eq_ok_iff.mp h
  exact ⟨front ++ dependent.token.toList, index, by rw [htext, List.append_assoc]⟩

/-- Whatever stands in front of a comma is passed over. -/
theorem scanDependent_append_comma (front back : List Char) (dependent : EnumeratedToken) :
    scanDependent (front ++ ',' :: back) = .ok dependent ↔ scanDependent back = .ok dependent := by
  have hpassed : ∀ (before : List Char) (index : WrittenIndex),
      scanDependent (front ++ ',' :: (before ++ '-' :: (index.chars ++ [')']))) = .ok dependent ↔
        scanDependent (before ++ '-' :: (index.chars ++ [')'])) = .ok dependent := by
    intro before index
    have hassoc : front ++ ',' :: (before ++ '-' :: (index.chars ++ [')'])) =
        front ++ ',' :: before ++ '-' :: (index.chars ++ [')']) := by
      simp
    rw [hassoc, scanDependent_index, scanDependent_index, Text.afterLast_append_mark]
  constructor
  · intro h
    obtain ⟨before, index, htext⟩ := exists_index_of_scanDependent h
    have htail : ',' ∉ '-' :: (index.chars ++ [')']) := by
      simp [index.comma_not_mem_chars]
    obtain ⟨passed, -, rfl⟩ := Text.exists_eq_of_append_mark_eq htail htext
    exact (hpassed passed index).mp h
  · intro h
    obtain ⟨before, index, rfl⟩ := exists_index_of_scanDependent h
    exact (hpassed before index).mpr h

/-- The position may be written with other apostrophes behind and with more zeros in front, up to
the number of digits that can be read. -/
theorem scanDependent_respelled {before : List Char} {index : WrittenIndex}
    {dependent : EnumeratedToken}
    (h : scanDependent (before ++ '-' :: (index.chars ++ [')'])) = .ok dependent)
    (zeros marks : Nat) :
    scanDependent (before ++ '-' :: ((index.respelled zeros marks).chars ++ [')'])) =
      if zeros + index.digits.length ≤ Text.digitLimit then .ok dependent
      else .error (.longIndex (zeros + index.digits.length)) := by
  obtain ⟨hne, htoken, -, hvalue⟩ := (scanDependent_index before index dependent).mp h
  split
  · next hshort =>
      rw [scanDependent_index, WrittenIndex.value_respelled]
      exact ⟨hne, htoken, WrittenIndex.short_respelled_iff.mpr hshort, hvalue⟩
  · next hlong =>
      have hafter : Text.afterLast ',' before ≠ [] := by
        rw [htoken]
        exact mt String.toList_eq_nil_iff.mp hne
      have hposition := (index.respelled zeros marks).position_digits_eq_error_iff.mpr
        ⟨mt WrittenIndex.short_respelled_iff.mp hlong, rfl⟩
      rw [scanDependent, dependentParts_index, if_neg hafter]
      simp only [hposition]
      simp [WrittenIndex.respelled]

/-- A text behind any comma decides alone whether a dependent is scanned and which one it is.  A
text in which one is scanned ends in a hyphen, digits, apostrophes and a closing parenthesis.  The
same dependent is scanned with any number of apostrophes before the parenthesis, and with any number
of zeros behind the hyphen as long as the digits can be read; more zeros break the scan off. -/
theorem scanDependent_ignores_front_and_spelling (text : List Char) (dependent : EnumeratedToken) :
    (∀ front : List Char,
      scanDependent (front ++ ',' :: text) = .ok dependent ↔ scanDependent text = .ok dependent) ∧
    (scanDependent text = .ok dependent →
      (∃ (before : List Char) (index : WrittenIndex),
        text = before ++ '-' :: (index.digits ++ (index.marks ++ [')']))) ∧
      ∀ (before : List Char) (index : WrittenIndex),
        text = before ++ '-' :: (index.digits ++ (index.marks ++ [')'])) →
        ∀ zeros marks : Nat,
          scanDependent (before ++ '-' :: (List.replicate zeros '0' ++ (index.digits ++
            (List.replicate marks '\'' ++ [')'])))) =
          if zeros + index.digits.length ≤ Text.digitLimit then .ok dependent
          else .error (.longIndex (zeros + index.digits.length))) := by
  refine ⟨fun front => scanDependent_append_comma front text dependent, fun hscan => ⟨?_, ?_⟩⟩
  · obtain ⟨before, index, htext⟩ := exists_index_of_scanDependent hscan
    exact ⟨before, index, by simpa [WrittenIndex.chars] using htext⟩
  · rintro before index rfl zeros marks
    have hindex : scanDependent (before ++ '-' :: (index.chars ++ [')'])) = .ok dependent := by
      simpa [WrittenIndex.chars] using hscan
    rw [← scanDependent_respelled hindex zeros marks]
    simp [WrittenIndex.respelled, WrittenIndex.chars]

/-- A front that ends in a hyphen and digits, and an index with a zero and an apostrophe of its
own. -/
theorem scanDependent_ignores_front_and_spelling_dollars :
    let dependent : EnumeratedToken := ⟨"000", 2⟩
    let index : WrittenIndex := ⟨['0', '2'], ['\''], by simp, by simp [Text.isDigit],
      by simp⟩
    let text := "000".toList ++ '-' :: (index.digits ++ (index.marks ++ [')']))
    scanDependent text = .ok dependent ∧
      scanDependent ("dollars-3,1-1".toList ++ ',' :: text) = .ok dependent ∧
      scanDependent ("000".toList ++ '-' :: (List.replicate 3 '0' ++ (index.digits ++
        (List.replicate 0 '\'' ++ [')'])))) = .ok dependent := by
  intro dependent index text
  have hscan : scanDependent text = .ok dependent := by rfl
  obtain ⟨hfront, hspelling⟩ := scanDependent_ignores_front_and_spelling text dependent
  have hzeros := (hspelling hscan).2 "000".toList index rfl 3 0
  rw [if_pos (by decide)] at hzeros
  exact ⟨hscan, (hfront _).mpr hscan, hzeros⟩

/-- One zero more than can be read breaks the scan off. -/
theorem scanDependent_too_many_zeros :
    let text := "a".toList ++ '-' :: (['1'] ++ [')'])
    scanDependent text = .ok ⟨"a", 1⟩ ∧
      scanDependent ("a".toList ++ '-' :: (List.replicate 4300 '0' ++ (['1'] ++ [')']))) =
        .error (.longIndex 4301) := by
  let index : WrittenIndex := ⟨['1'], [], by simp, by simp [Text.isDigit], by simp⟩
  have hscan : scanDependent ("a".toList ++ '-' :: (index.chars ++ [')'])) = .ok ⟨"a", 1⟩ := by rfl
  have hchars : ∀ zeros, (index.respelled zeros 0).chars ++ [')'] =
      List.replicate zeros '0' ++ (['1'] ++ [')']) := by
    simp [index, WrittenIndex.respelled, WrittenIndex.chars]
  have hzeros := scanDependent_respelled hscan 4300 0
  rw [hchars, if_neg (by decide)] at hzeros
  exact ⟨hscan, hzeros⟩

end Edge

end GrammarSieve
