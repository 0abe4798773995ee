/-
Anchors in the text of an edge.  An anchor is a hyphen, a written index and a comma, and the reader
of a governor stops at the first one.  A hyphen never stands inside a written index, so a candidate
that fails cannot swallow the anchor that follows it.  The index of a dependent is read from the end
of the text, apostrophes first.
-/
import GrammarSieve.Proofs.Edge.WrittenIndex
import Mathlib.Data.List.TakeWhile

namespace GrammarSieve.Edge

open Text (isDigit)

namespace WrittenIndex

/-- What follows the hyphen of an anchor. -/
def closed (index : WrittenIndex) : List Char :=
  index.chars ++ [',']

theorem hyphen_not_mem_closed (index : WrittenIndex) : '-' ∉ index.closed := by
  simp [closed, index.hyphen_not_mem_chars]

/-- A closed index at the start of a text ends before the first hyphen of that text. -/
theorem closed_prefix_of_append_eq (index : WrittenIndex) {before rest after : List Char}
    (h : before ++ '-' :: rest = index.closed ++ after) : index.closed <+: before := by
  rcases List.append_eq_append_iff.mp h with ⟨extra, hclosed, hrest⟩ | ⟨extra, hbefore, -⟩
  · cases extra with
    | nil => exact ⟨[], by simpa using hclosed⟩
    | cons c extra =>
        obtain ⟨rfl, -⟩ := List.cons.inj hrest
        exact absurd (by simp [hclosed]) index.hyphen_not_mem_closed
  · exact ⟨extra, hbefore.symm⟩

/-- The anchor itself: a hyphen, the index, a comma. -/
def anchor (index : WrittenIndex) : List Char :=
  '-' :: index.closed

end WrittenIndex

/-- No anchor stands anywhere in the text. -/
def Anchorless (text : List Char) : Prop :=
  ∀ index : WrittenIndex, ¬ index.anchor <:+: text

theorem exists_of_readIndex {text digits after : List Char}
    (h : readIndex text = some (digits, after)) :
    ∃ index : WrittenIndex, index.digits = digits ∧ text = index.closed ++ after := by
  simp only [readIndex] at h
  split at h
  · simp at h
  · next hdigits =>
      split at h
      · next rest hrest =>
          simp only [Option.some.injEq, Prod.mk.injEq] at h
          obtain ⟨rfl, rfl⟩ := h
          let index : WrittenIndex :=
            { digits := text.takeWhile isDigit
              marks := (text.dropWhile isDigit).takeWhile isCopyMark
              digits_ne_nil := hdigits
              isDigit_of_mem := fun c hc => List.mem_takeWhile_imp hc
              eq_of_mem_marks := fun c hc => by
                simpa [isCopyMark] using List.mem_takeWhile_imp hc }
          have hmarks := List.takeWhile_append_dropWhile
            (p := isCopyMark) (l := text.dropWhile isDigit)
          have hsplit := List.takeWhile_append_dropWhile (p := isDigit) (l := text)
          rw [← hmarks, hrest] at hsplit
          refine ⟨index, rfl, ?_⟩
          simpa [index, WrittenIndex.closed, WrittenIndex.chars] using hsplit.symm
      · simp at h

theorem readIndex_closed_append (index : WrittenIndex) (after : List Char) :
    readIndex (index.closed ++ after) = some (index.digits, after) := by
  have hstop : ∀ c ∈ (index.marks ++ ',' :: after).head?, isDigit c = false := by
    cases hmarks : index.marks with
    | nil =>
        rintro c ⟨⟩
        decide
    | cons mark rest =>
        rintro c ⟨⟩
        rw [index.eq_of_mem_marks mark (by simp [hmarks])]
        decide
  have hdigits := Text.takeWhile_append_of_stop index.isDigit_of_mem hstop
  have hrest := Text.dropWhile_append_of_stop index.isDigit_of_mem hstop
  have hcomma : (index.marks ++ ',' :: after).dropWhile isCopyMark = ',' :: after :=
    Text.dropWhile_append_of_stop (fun c => index.isCopyMark_of_mem_marks)
      (by rintro c ⟨⟩; decide)
  have hclosed : index.closed ++ after = index.digits ++ (index.marks ++ ',' :: after) := by
    simp [WrittenIndex.closed, WrittenIndex.chars]
  rw [hclosed, readIndex, hdigits, hrest, hcomma]
  simp [index.digits_ne_nil]

/-- Reading an index succeeds exactly behind the hyphen of an anchor. -/
theorem readIndex_eq_some_iff {text digits after : List Char} :
    readIndex text = some (digits, after) ↔
      ∃ index : WrittenIndex, index.digits = digits ∧ text = index.closed ++ after := by
  constructor
  · exact exists_of_readIndex
  · intro h
    obtain ⟨index, rfl, rfl⟩ := h
    exact readIndex_closed_append index after

theorem readCandidate_eq_some_iff {c : Char} {rest digits after : List Char} :
    (if c = '-' then readIndex rest else none) = some (digits, after) ↔
      ∃ index : WrittenIndex, index.digits = digits ∧ c :: rest = index.anchor ++ after := by
  by_cases hc : c = '-'
  · simp [hc, readIndex_eq_some_iff, WrittenIndex.anchor]
  · simp [hc, WrittenIndex.anchor]

theorem Anchorless.tail {c : Char} {text : List Char} (h : Anchorless (c :: text)) :
    Anchorless text :=
  fun index hinside => h index (List.infix_cons hinside)

/-- An anchor begins with a hyphen. -/
theorem anchorless_of_hyphen_not_mem {text : List Char} (h : '-' ∉ text) : Anchorless text :=
  fun index hinside => h (hinside.subset (by simp [WrittenIndex.anchor]))

theorem anchorless_nil : Anchorless [] :=
  anchorless_of_hyphen_not_mem List.not_mem_nil

theorem exists_of_firstAnchor? {text before digits after : List Char}
    (h : firstAnchor? text = some ⟨before, digits, after⟩) :
    Anchorless before ∧ ∃ index : WrittenIndex, index.digits = digits ∧
      text = before ++ (index.anchor ++ after) := by
  induction text generalizing before with
  | nil => simp [firstAnchor?] at h
  | cons c rest ih =>
      rw [firstAnchor?] at h
      split at h
      · next found rest' hread =>
          simp only [Option.some.injEq, Anchored.mk.injEq] at h
          obtain ⟨rfl, rfl, rfl⟩ := h
          exact ⟨anchorless_nil, readCandidate_eq_some_iff.mp hread⟩
      · next hread =>
          obtain ⟨⟨before', digits', after'⟩, hfound, heq⟩ := Option.map_eq_some_iff.mp h
          simp only [Anchored.mk.injEq] at heq
          obtain ⟨rfl, rfl, rfl⟩ := heq
          obtain ⟨hfree, index, hdigits, htext⟩ := ih hfound
          refine ⟨?_, index, hdigits, by rw [htext]; rfl⟩
          intro other hinside
          rcases List.infix_cons_iff.mp hinside with ⟨more, hprefix⟩ | hinside
          · -- An anchor at the front would have been read.
            have hfront : c :: rest = other.anchor ++ (more ++ (index.anchor ++ after')) := by
              rw [← List.append_assoc, hprefix, htext]
              rfl
            have hsome := readCandidate_eq_some_iff.mpr ⟨other, rfl, hfront⟩
            rw [hread] at hsome
            contradiction
          · exact hfree other hinside

theorem firstAnchor?_append {before : List Char} (h : Anchorless before) (index : WrittenIndex)
    (after : List Char) :
    firstAnchor? (before ++ (index.anchor ++ after)) = some ⟨before, index.digits, after⟩ := by
  induction before with
  | nil =>
      have hread := readCandidate_eq_some_iff.mpr
        ⟨index, rfl, show '-' :: (index.closed ++ after) = index.anchor ++ after from rfl⟩
      rw [List.nil_append, WrittenIndex.anchor, List.cons_append, firstAnchor?, hread]
  | cons c before ih =>
      have hnone : (if c = '-' then readIndex (before ++ (index.anchor ++ after)) else none) =
          none := by
        rw [Option.eq_none_iff_forall_not_mem]
        rintro ⟨digits, rest⟩ hread
        -- A candidate inside the anchorless text would have to end before the hyphen.
        obtain ⟨other, -, htext⟩ := readCandidate_eq_some_iff.mp hread
        obtain ⟨rfl, htail⟩ := List.cons.inj htext
        obtain ⟨more, hmore⟩ := other.closed_prefix_of_append_eq htail
        exact h other ⟨[], more, by simp [WrittenIndex.anchor, ← hmore]⟩
      rw [List.cons_append, firstAnchor?, hnone, ih h.tail]
      rfl

/-- The first anchor is found with an anchorless text before it, and wherever such a text
stands before an anchor. -/
theorem firstAnchor?_eq_some_iff {text before digits after : List Char} :
    firstAnchor? text = some ⟨before, digits, after⟩ ↔
      Anchorless before ∧
        ∃ index : WrittenIndex, index.digits = digits ∧
          text = before ++ (index.anchor ++ after) := by
  constructor
  · exact exists_of_firstAnchor?
  · intro h
    obtain ⟨hfree, index, rfl, rfl⟩ := h
    exact firstAnchor?_append hfree index after

/-- Apostrophes and digits that are met in this order from the end of a text are a written index,
if there is any digit. -/
theorem exists_index_of_backwards {backwards : List Char}
    (hdigits : (backwards.dropWhile isCopyMark).takeWhile isDigit ≠ []) :
    ∃ index : WrittenIndex,
      index.digits = ((backwards.dropWhile isCopyMark).takeWhile isDigit).reverse ∧
        backwards = index.chars.reverse ++ (backwards.dropWhile isCopyMark).dropWhile isDigit := by
  let index : WrittenIndex :=
    { digits := ((backwards.dropWhile isCopyMark).takeWhile isDigit).reverse
      marks := (backwards.takeWhile isCopyMark).reverse
      digits_ne_nil := by simpa using hdigits
      isDigit_of_mem := fun c hc => List.mem_takeWhile_imp (List.mem_reverse.mp hc)
      eq_of_mem_marks := fun c hc => by
        simpa [isCopyMark] using List.mem_takeWhile_imp (List.mem_reverse.mp hc) }
  refine ⟨index, rfl, ?_⟩
  simp [index, WrittenIndex.chars, List.takeWhile_append_dropWhile]

theorem dropWhile_isCopyMark_backwards (index : WrittenIndex) (before : List Char) :
    (index.chars.reverse ++ before).dropWhile isCopyMark = index.digits.reverse ++ before := by
  have hstop : ∀ c ∈ (index.digits.reverse ++ before).head?, isCopyMark c = false := by
    cases hdigits : index.digits.reverse with
    | nil => exact absurd (List.reverse_eq_nil_iff.mp hdigits) index.digits_ne_nil
    | cons digit rest =>
        rintro c ⟨⟩
        have hdigit := index.isDigit_of_mem digit (List.mem_reverse.mp (by simp [hdigits]))
        rw [isCopyMark, decide_eq_false_iff_not]
        rintro rfl
        exact absurd hdigit (by decide)
  rw [WrittenIndex.chars, List.reverse_append, List.append_assoc]
  exact Text.dropWhile_append_of_stop
    (fun c hc => index.isCopyMark_of_mem_marks (List.mem_reverse.mp hc)) hstop

theorem isDigit_of_mem_reverse_digits (index : WrittenIndex) :
    ∀ c ∈ index.digits.reverse, isDigit c = true :=
  fun c hc => index.isDigit_of_mem c (List.mem_reverse.mp hc)

theorem takeWhile_isDigit_backwards (index : WrittenIndex) (before : List Char) :
    (index.digits.reverse ++ '-' :: before).takeWhile isDigit = index.digits.reverse :=
  Text.takeWhile_append_of_stop (isDigit_of_mem_reverse_digits index)
    (by rintro c ⟨⟩; decide)

theorem dropWhile_isDigit_backwards (index : WrittenIndex) (before : List Char) :
    (index.digits.reverse ++ '-' :: before).dropWhile isDigit = '-' :: before :=
  Text.dropWhile_append_of_stop (isDigit_of_mem_reverse_digits index)
    (by rintro c ⟨⟩; decide)

end GrammarSieve.Edge
