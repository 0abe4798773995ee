/-
The scan for a governor by itself.  It stops at the leftmost anchor of a text, and what it finds
there is settled by the text up to this anchor: a candidate that failed before it still fails when
the text goes on.  So the scan loses no character, and more text only makes its remainder longer.
An index with too many digits breaks the scan off at this anchor.
-/
import GrammarSieve.Proofs.Edge.Flaw

namespace GrammarSieve.Edge

/-- A text that has an anchor has a leftmost one. -/
theorem exists_leftmostAnchor {text : List Char} (h : ¬ Anchorless text) :
    ∃ before index after, LeftmostAnchor text before index after := by
  obtain ⟨⟨before, digits, after⟩, hfound⟩ :=
    Option.ne_none_iff_exists'.mp (mt firstAnchor?_eq_none_iff.mp h)
  obtain ⟨hfree, index, -, htext⟩ := firstAnchor?_eq_some_iff.mp hfound
  exact ⟨before, index, after, leftmostAnchor_iff.mpr ⟨hfree, htext⟩⟩

/-- The leftmost anchor stays where it is when the text goes on. -/
theorem LeftmostAnchor.append {text before after : List Char} {index : WrittenIndex}
    (h : LeftmostAnchor text before index after) (more : List Char) :
    LeftmostAnchor (text ++ more) before index (after ++ more) := by
  obtain ⟨hfree, htext⟩ := leftmostAnchor_iff.mp h
  exact leftmostAnchor_iff.mpr ⟨hfree, by simp [htext]⟩

/-- A governor is scanned exactly where it is what stands before the leftmost anchor, and the index
of this anchor can be read. -/
theorem scanGovernor_eq_ok_iff_leftmost {text rest : List Char} {governor : EnumeratedToken} :
    scanGovernor text = .ok (governor, rest) ↔ governor.token ≠ "" ∧
      ∃ index : WrittenIndex, index.Short ∧ index.value = governor.position ∧
        LeftmostAnchor text governor.token.toList index rest := by
  simp only [scanGovernor_eq_ok_iff, leftmostAnchor_iff]
  constructor
  · intro h
    obtain ⟨hne, hfree, index, hshort, hvalue, htext⟩ := h
    exact ⟨hne, index, hshort, hvalue, hfree, htext⟩
  · intro h
    obtain ⟨hne, index, hshort, hvalue, hfree, htext⟩ := h
    exact ⟨hne, hfree, index, hshort, hvalue, htext⟩

/-- Some governor is scanned exactly if there is an anchor, and the leftmost one is not at the
beginning and can be read. -/
theorem exists_scanGovernor_eq_ok_iff {text : List Char} :
    (∃ found, scanGovernor text = .ok found) ↔
      ¬ Anchorless text ∧ ∀ before index after, LeftmostAnchor text before index after →
        before ≠ [] ∧ index.Short := by
  constructor
  · intro h
    obtain ⟨⟨governor, rest⟩, hscan⟩ := h
    obtain ⟨hne, index, hshort, -, hleftmost⟩ := scanGovernor_eq_ok_iff_leftmost.mp hscan
    refine ⟨hleftmost.not_anchorless, fun before other after hother => ?_⟩
    obtain ⟨hbefore, hdigits, -⟩ := hother.unique hleftmost
    rw [hbefore, WrittenIndex.Short, hdigits]
    exact ⟨mt String.toList_eq_nil_iff.mp hne, hshort⟩
  · intro h
    obtain ⟨hanchor, hleast⟩ := h
    obtain ⟨before, index, after, hleftmost⟩ := exists_leftmostAnchor hanchor
    obtain ⟨hne, hshort⟩ := hleast before index after hleftmost
    refine ⟨(⟨String.ofList before, index.value⟩, after), scanGovernor_eq_ok_iff_leftmost.mpr ?_⟩
    exact ⟨by simpa using hne, index, hshort, rfl, by simpa using hleftmost⟩

/-- An index that is too long breaks the scan off, wherever its anchor stands. -/
theorem LeftmostAnchor.scanGovernor_eq_longIndex {text before after : List Char}
    {index : WrittenIndex} (h : LeftmostAnchor text before index after) (hlong : ¬ index.Short) :
    scanGovernor text = .error (.longIndex index.digits.length) := by
  have hposition := index.position_digits_eq_error_iff.mpr ⟨hlong, rfl⟩
  simp [scanGovernor, h.firstAnchor?_eq, hposition]

/-- A governor is scanned exactly if the text has an anchor, and the leftmost one is not at its
beginning and has an index that can be read; a longer index breaks the scan off.  Where a governor
is scanned, the text is the governor, without an anchor in it, a hyphen, the digits of its
position, any apostrophes, a comma and the remainder; and however the text goes on, the same
governor is scanned and the remainder goes on alike. -/
theorem scanGovernor_lossless_and_stable (text : List Char) :
    ((∃ found, scanGovernor text = .ok found) ↔
        ¬ Anchorless text ∧ ∀ before index after, LeftmostAnchor text before index after →
          before ≠ [] ∧ index.digits.length ≤ Text.digitLimit) ∧
      (∀ before index after, LeftmostAnchor text before index after →
        Text.digitLimit < index.digits.length →
          scanGovernor text = .error (.longIndex index.digits.length)) ∧
      ∀ governor rest, scanGovernor text = .ok (governor, rest) →
        Anchorless governor.token.toList ∧
        (∃ index : WrittenIndex, index.value = governor.position ∧
          text = governor.token.toList ++ '-' :: (index.digits ++ index.marks ++ ',' :: rest)) ∧
        ∀ more, scanGovernor (text ++ more) = .ok (governor, rest ++ more) := by
  refine ⟨exists_scanGovernor_eq_ok_iff, ?_, ?_⟩
  · intro before index after hleftmost hlong
    exact hleftmost.scanGovernor_eq_longIndex (Nat.not_le.mpr hlong)
  · intro governor rest hscan
    obtain ⟨hne, index, hshort, hvalue, hleftmost⟩ := scanGovernor_eq_ok_iff_leftmost.mp hscan
    refine ⟨(leftmostAnchor_iff.mp hleftmost).1, ⟨index, hvalue, ?_⟩, fun more => ?_⟩
    · rw [hleftmost.text_eq]
      simp [WrittenIndex.anchor, WrittenIndex.closed, WrittenIndex.chars]
    · exact scanGovernor_eq_ok_iff_leftmost.mpr
        ⟨hne, index, hshort, hvalue, hleftmost.append more⟩

/-- Three candidates fail before the anchor, one of them at the next hyphen, and the text goes on
with another anchor. -/
theorem scanGovernor_lossless_and_stable_covid :
    let governor : EnumeratedToken := ⟨"-covid-19-x'", 7⟩
    let text := "-covid-19-x'-07'',5".toList
    scanGovernor text = .ok (governor, ['5']) ∧ Anchorless governor.token.toList ∧
      (∃ index : WrittenIndex, index.value = 7 ∧
        text = governor.token.toList ++ '-' :: (index.digits ++ index.marks ++ [',', '5'])) ∧
      scanGovernor (text ++ "-6,".toList) = .ok (governor, "5-6,".toList) := by
  intro governor text
  have hscan : scanGovernor text = .ok (governor, ['5']) := by rfl
  obtain ⟨hfree, hlossless, hstable⟩ :=
    (scanGovernor_lossless_and_stable text).2.2 governor ['5'] hscan
  exact ⟨hscan, hfree, hlossless, hstable "-6,".toList⟩

/-- An anchor that is not at the beginning, with one zero more than can be read. -/
theorem scanGovernor_too_many_zeros :
    let index := (WrittenIndex.ofNat 1).respelled 4300 0
    let text := ['a'] ++ (index.anchor ++ ['x'])
    LeftmostAnchor text ['a'] index ['x'] ∧ index.value = 1 ∧
      scanGovernor text = .error (.longIndex 4301) := by
  intro index text
  have hfree : Anchorless ['a'] := anchorless_of_hyphen_not_mem (by simp)
  have hleftmost : LeftmostAnchor text ['a'] index ['x'] := leftmostAnchor_iff.mpr ⟨hfree, rfl⟩
  have hlength : index.digits.length = 4301 := by
    change (List.replicate 4300 '0' ++ ['1']).length = 4301
    rw [List.length_append, List.length_replicate]
    rfl
  have hlong : ¬ index.Short := mt WrittenIndex.short_respelled_iff.mp (by decide)
  have hscan := hleftmost.scanGovernor_eq_longIndex hlong
  rw [hlength] at hscan
  exact ⟨hleftmost, by rw [WrittenIndex.value_respelled, WrittenIndex.value_ofNat], hscan⟩

end GrammarSieve.Edge
