/-
What is wrong with an entry that is no edge.  Every flaw is a property of the text alone: whether a
parenthesis opens, where the leftmost anchor stands, how the text behind that anchor ends, how many
digits an index has.  Several flaws may be there at once, and each of them is reported in one way.
-/
import GrammarSieve.Proofs.Checks
import GrammarSieve.Proofs.Edge.Grammar

namespace GrammarSieve.Edge

open Text (isDigit)

/-- What can be wrong with an entry that is to be an edge. -/
inductive Flaw where
  | notText
  | noOpening
  | noRelation
  | noGovernorIndex
  | longGovernorIndex
  | emptyGovernor
  | noClosing
  | noDependentIndex
  | noDependentHyphen
  | emptyDependent
  | longDependentIndex
deriving DecidableEq, Repr

/-- The flaws in the order in which they are looked for. -/
def Flaw.all : List Flaw :=
  [.notText, .noOpening, .noRelation, .noGovernorIndex, .longGovernorIndex, .emptyGovernor,
    .noClosing, .noDependentIndex, .noDependentHyphen, .emptyDependent, .longDependentIndex]

theorem Flaw.mem_all (flaw : Flaw) : flaw ∈ Flaw.all := by
  cases flaw <;> decide

/-- The text is what follows the first opening parenthesis. -/
def OpensTo (encoding remainder : List Char) : Prop :=
  ∃ relation, '(' ∉ relation ∧ encoding = relation ++ '(' :: remainder

/-- An anchor of a text before which no other one starts. -/
structure LeftmostAnchor (text before : List Char) (index : WrittenIndex) (after : List Char) :
    Prop where
  text_eq : text = before ++ (index.anchor ++ after)
  length_le : ∀ (other : WrittenIndex) (front back : List Char),
    text = front ++ (other.anchor ++ back) → before.length ≤ front.length

/-- The text is what follows the leftmost anchor behind the first opening parenthesis. -/
def AnchorsTo (encoding rest : List Char) : Prop :=
  ∃ remainder before index, OpensTo encoding remainder ∧ LeftmostAnchor remainder before index rest

/-- An entry has a flaw, which is reported with the text that it was found in. -/
inductive Flawed : Json → Flaw → DecodeError → Prop where
  | notText {entry : Json} (h : ∀ encoding, entry ≠ .string encoding) :
      Flawed entry .notText (.edgeNotText entry)
  | noOpening {encoding : String} (h : '(' ∉ encoding.toList) :
      Flawed (.string encoding) .noOpening (.noOpening encoding)
  | noRelation {encoding : String} (h : ['('] <+: encoding.toList) :
      Flawed (.string encoding) .noRelation (.noRelation encoding)
  | noGovernorIndex {encoding : String} {remainder : List Char}
      (hopens : OpensTo encoding.toList remainder) (h : Anchorless remainder) :
      Flawed (.string encoding) .noGovernorIndex (.noGovernorIndex (String.ofList remainder))
  | longGovernorIndex {encoding : String} {remainder before rest : List Char}
      {index : WrittenIndex} (hopens : OpensTo encoding.toList remainder)
      (hanchor : LeftmostAnchor remainder before index rest) (h : ¬ index.Short) :
      Flawed (.string encoding) .longGovernorIndex (.longIndex index.digits.length)
  | emptyGovernor {encoding : String} {remainder rest : List Char} {index : WrittenIndex}
      (hopens : OpensTo encoding.toList remainder) (h : LeftmostAnchor remainder [] index rest) :
      Flawed (.string encoding) .emptyGovernor (.emptyGovernor (String.ofList remainder))
  | noClosing {encoding : String} {rest : List Char} (hrest : AnchorsTo encoding.toList rest)
      (h : ¬ [')'] <:+ rest) :
      Flawed (.string encoding) .noClosing (.noClosing (String.ofList rest))
  /-- Neither an apostrophe nor a digit stands before the last apostrophes. -/
  | noDependentIndex {encoding : String} {rest front marks : List Char}
      (hrest : AnchorsTo encoding.toList rest) (hends : rest = front ++ (marks ++ [')']))
      (hmarks : ∀ c ∈ marks, c = '\'') (hfront : ∀ c ∈ front.getLast?, c ≠ '\'')
      (h : ∀ c ∈ front.getLast?, isDigit c = false) :
      Flawed (.string encoding) .noDependentIndex (.noDependentIndex (String.ofList rest))
  /-- The last digits are all taken, and no hyphen stands before them. -/
  | noDependentHyphen {encoding : String} {rest front : List Char} {index : WrittenIndex}
      (hrest : AnchorsTo encoding.toList rest) (hends : rest = front ++ (index.chars ++ [')']))
      (hfront : ∀ c ∈ front.getLast?, isDigit c = false) (h : front.getLast? ≠ some '-') :
      Flawed (.string encoding) .noDependentHyphen (.noDependentHyphen (String.ofList rest))
  | emptyDependent {encoding : String} {rest front : List Char} {index : WrittenIndex}
      (hrest : AnchorsTo encoding.toList rest)
      (hends : rest = front ++ '-' :: (index.chars ++ [')'])) (h : front = [] ∨ [','] <:+ front) :
      Flawed (.string encoding) .emptyDependent (.emptyDependent (String.ofList rest))
  | longDependentIndex {encoding : String} {rest front : List Char} {index : WrittenIndex}
      (hrest : AnchorsTo encoding.toList rest)
      (hends : rest = front ++ '-' :: (index.chars ++ [')'])) (h : ¬ index.Short) :
      Flawed (.string encoding) .longDependentIndex (.longIndex index.digits.length)

section Parts

variable {encoding remainder remainder' rest rest' : List Char}

theorem OpensTo.unique (h : OpensTo encoding remainder) (h' : OpensTo encoding remainder') :
    remainder = remainder' := by
  obtain ⟨relation, hfree, rfl⟩ := h
  obtain ⟨relation', hfree', heq⟩ := h'
  exact (Text.append_mark_inj hfree hfree' heq).2

theorem OpensTo.opening_mem (h : OpensTo encoding remainder) : '(' ∈ encoding := by
  obtain ⟨relation, -, rfl⟩ := h
  simp

/-- The leftmost anchor is the one with an anchorless text before it: another one that starts in
this text would have to end there, too. -/
theorem leftmostAnchor_iff {text before after : List Char} {index : WrittenIndex} :
    LeftmostAnchor text before index after ↔
      Anchorless before ∧ text = before ++ (index.anchor ++ after) := by
  constructor
  · rintro ⟨rfl, hleast⟩
    refine ⟨?_, rfl⟩
    rintro other ⟨front, back, rfl⟩
    have hle := hleast other front (back ++ (index.anchor ++ after)) (by simp)
    simp only [List.length_append, WrittenIndex.anchor, List.length_cons] at hle
    omega
  · rintro ⟨hfree, rfl⟩
    refine ⟨rfl, ?_⟩
    intro other front back heq
    by_contra hlt
    rcases List.append_eq_append_iff.mp heq with ⟨extra, rfl, -⟩ | ⟨extra, hbefore, hanchor⟩
    · simp at hlt
    · cases extra with
      | nil => simp [hbefore] at hlt
      | cons c extra =>
          simp only [WrittenIndex.anchor, List.cons_append, List.cons.injEq] at hanchor
          obtain ⟨rfl, hclosed⟩ := hanchor
          obtain ⟨more, hmore⟩ := other.closed_prefix_of_append_eq hclosed.symm
          exact hfree other ⟨front, more, by simp [hbefore, WrittenIndex.anchor, ← hmore]⟩

theorem LeftmostAnchor.firstAnchor?_eq {text before after : List Char} {index : WrittenIndex}
    (h : LeftmostAnchor text before index after) :
    firstAnchor? text = some ⟨before, index.digits, after⟩ := by
  obtain ⟨hfree, htext⟩ := leftmostAnchor_iff.mp h
  exact firstAnchor?_eq_some_iff.mpr ⟨hfree, index, rfl, htext⟩

/-- A text has one leftmost anchor. -/
theorem LeftmostAnchor.unique {text before before' after after' : List Char}
    {index index' : WrittenIndex} (h : LeftmostAnchor text before index after)
    (h' : LeftmostAnchor text before' index' after') :
    before = before' ∧ index.digits = index'.digits ∧ after = after' := by
  have heq := h.firstAnchor?_eq.symm.trans h'.firstAnchor?_eq
  simpa only [Option.some.injEq, Anchored.mk.injEq] using heq

theorem LeftmostAnchor.not_anchorless {text before after : List Char} {index : WrittenIndex}
    (h : LeftmostAnchor text before index after) : ¬ Anchorless text :=
  fun hfree => hfree index ⟨before, after, by simp [h.text_eq]⟩

/-- No anchor is found exactly where there is none. -/
theorem firstAnchor?_eq_none_iff {text : List Char} :
    firstAnchor? text = none ↔ Anchorless text := by
  constructor
  · intro h
    induction text with
    | nil => exact anchorless_nil
    | cons c rest ih =>
        rw [firstAnchor?] at h
        split at h
        · contradiction
        · next hread =>
            intro index hinside
            rcases List.infix_cons_iff.mp hinside with ⟨after, hprefix⟩ | hinside
            · rw [readCandidate_eq_some_iff.mpr ⟨index, rfl, hprefix.symm⟩] at hread
              contradiction
            · exact ih (Option.map_eq_none_iff.mp h) index hinside
  · intro h
    rw [Option.eq_none_iff_forall_not_mem]
    rintro ⟨before, digits, after⟩ hfound
    obtain ⟨-, index, -, rfl⟩ := exists_of_firstAnchor? hfound
    exact h index ⟨before, after, by simp⟩

theorem AnchorsTo.unique (h : AnchorsTo encoding rest) (h' : AnchorsTo encoding rest') :
    rest = rest' := by
  obtain ⟨remainder, before, index, hopens, hanchor⟩ := h
  obtain ⟨remainder', before', index', hopens', hanchor'⟩ := h'
  obtain rfl := hopens.unique hopens'
  exact (hanchor.unique hanchor').2.2

/-- What stands before the index at the end of a text is found from the end, provided that the
digits of the index are all taken. -/
theorem dropWhile_backwards {front : List Char} (index : WrittenIndex)
    (hfront : ∀ c ∈ front.getLast?, isDigit c = false) :
    ((index.chars.reverse ++ front.reverse).dropWhile isCopyMark).dropWhile isDigit =
      front.reverse := by
  rw [dropWhile_isCopyMark_backwards]
  refine Text.dropWhile_append_of_stop (isDigit_of_mem_reverse_digits index) ?_
  simpa using hfront

/-- There is one way to take an index with all its digits from the end of a text. -/
theorem front_unique {front front' : List Char} {index index' : WrittenIndex}
    (hfront : ∀ c ∈ front.getLast?, isDigit c = false)
    (hfront' : ∀ c ∈ front'.getLast?, isDigit c = false)
    (h : front ++ (index.chars ++ [')']) = front' ++ (index'.chars ++ [')'])) :
    front = front' := by
  have hreverse :
      index.chars.reverse ++ front.reverse = index'.chars.reverse ++ front'.reverse := by
    simpa using congrArg List.reverse h
  have hfound := dropWhile_backwards index hfront
  rw [hreverse, dropWhile_backwards index' hfront'] at hfound
  exact (List.reverse_inj.mp hfound).symm

/-- The digits behind the last hyphen of a text are the same however they are found. -/
theorem digits_unique {front front' : List Char} {index index' : WrittenIndex}
    (h : front ++ '-' :: (index.chars ++ [')']) = front' ++ '-' :: (index'.chars ++ [')'])) :
    index.digits = index'.digits := by
  have hreverse : index.chars.reverse ++ '-' :: front.reverse =
      index'.chars.reverse ++ '-' :: front'.reverse := by
    simpa using congrArg List.reverse h
  have hdigits := congrArg (fun text => (text.dropWhile isCopyMark).takeWhile isDigit) hreverse
  simpa only [dropWhile_isCopyMark_backwards, takeWhile_isDigit_backwards, List.reverse_inj]
    using hdigits

/-- A text cannot end both in an index and in apostrophes that follow no digit. -/
theorem not_ends_in_marks {front front' marks : List Char} {index : WrittenIndex}
    (hmarks : ∀ c ∈ marks, c = '\'') (hmark : ∀ c ∈ front'.getLast?, c ≠ '\'')
    (hdigit : ∀ c ∈ front'.getLast?, isDigit c = false) :
    front ++ (index.chars ++ [')']) ≠ front' ++ (marks ++ [')']) := by
  intro h
  have hreverse : index.chars.reverse ++ front.reverse = marks.reverse ++ front'.reverse := by
    simpa using congrArg List.reverse h
  have hdropped : (marks.reverse ++ front'.reverse).dropWhile isCopyMark = front'.reverse := by
    apply Text.dropWhile_append_of_stop
    · intro c hc
      simp [isCopyMark, hmarks c (List.mem_reverse.mp hc)]
    · simpa [isCopyMark] using hmark
  have hdigits := dropWhile_isCopyMark_backwards index front.reverse
  rw [hreverse, hdropped] at hdigits
  obtain ⟨digit, digits, hcons⟩ :=
    List.exists_cons_of_ne_nil (mt List.reverse_eq_nil_iff.mp index.digits_ne_nil)
  have hfalse : isDigit digit = false := by
    apply hdigit
    rw [← List.head?_reverse, hdigits, hcons]
    rfl
  have htrue : isDigit digit = true :=
    isDigit_of_mem_reverse_digits index digit (by simp [hcons])
  rw [htrue] at hfalse
  contradiction

end Parts

/-- A flaw is reported in one way. -/
theorem Flawed.cause_unique {entry : Json} {flaw : Flaw} {cause cause' : DecodeError}
    (h : Flawed entry flaw cause) (h' : Flawed entry flaw cause') : cause = cause' := by
  cases h with
  | notText => cases h'; rfl
  | noOpening => cases h'; rfl
  | noRelation => cases h'; rfl
  | noGovernorIndex hopens =>
      cases h' with
      | noGovernorIndex hopens' => rw [hopens.unique hopens']
  | longGovernorIndex hopens hanchor =>
      cases h' with
      | longGovernorIndex hopens' hanchor' =>
          obtain rfl := hopens.unique hopens'
          rw [(hanchor.unique hanchor').2.1]
  | emptyGovernor hopens =>
      cases h' with
      | emptyGovernor hopens' => rw [hopens.unique hopens']
  | noClosing hrest =>
      cases h' with
      | noClosing hrest' => rw [hrest.unique hrest']
  | noDependentIndex hrest =>
      cases h' with
      | noDependentIndex hrest' => rw [hrest.unique hrest']
  | noDependentHyphen hrest =>
      cases h' with
      | noDependentHyphen hrest' => rw [hrest.unique hrest']
  | emptyDependent hrest =>
      cases h' with
      | emptyDependent hrest' => rw [hrest.unique hrest']
  | longDependentIndex hrest hends =>
      cases h' with
      | longDependentIndex hrest' hends' =>
          obtain rfl := hrest.unique hrest'
          rw [digits_unique (hends.symm.trans hends')]

/-- The flaws that are not always reported as errors: an index that is too long never is, and an
entry that is no text only where it can be shown. -/
theorem Flawed.breakdown?_eq_none_iff {entry : Json} {flaw : Flaw} {cause : DecodeError}
    (h : Flawed entry flaw cause) (room : Nat) :
    cause.breakdown? room = none ↔
      flaw ≠ .longGovernorIndex ∧ flaw ≠ .longDependentIndex ∧
        (flaw = .notText → entry.breakdown? room = none) := by
  cases h <;> simp [DecodeError.breakdown?]

section Clear

variable {encoding : String} {remainder before rest front : List Char} {index : WrittenIndex}

theorem clear_notText (encoding : String) : Clear (Flawed (.string encoding)) .notText := by
  intro cause h
  cases h with
  | notText hnone => exact hnone encoding rfl

theorem OpensTo.clear_noOpening (h : OpensTo encoding.toList remainder) :
    Clear (Flawed (.string encoding)) .noOpening := by
  intro cause hflaw
  cases hflaw with
  | noOpening hfree => exact hfree h.opening_mem

theorem clear_noRelation {relation : List Char} (hne : relation ≠ []) (hfree : '(' ∉ relation)
    (h : encoding.toList = relation ++ '(' :: remainder) :
    Clear (Flawed (.string encoding)) .noRelation := by
  intro cause hflaw
  cases hflaw with
  | noRelation hprefix =>
      obtain ⟨c, relation, rfl⟩ := List.exists_cons_of_ne_nil hne
      rw [h, List.cons_append, List.cons_prefix_cons] at hprefix
      obtain ⟨rfl, -⟩ := hprefix
      exact hfree List.mem_cons_self

theorem clear_noGovernorIndex (hopens : OpensTo encoding.toList remainder)
    (h : LeftmostAnchor remainder before index rest) :
    Clear (Flawed (.string encoding)) .noGovernorIndex := by
  intro cause hflaw
  cases hflaw with
  | noGovernorIndex hopens' hfree => exact h.not_anchorless (hopens.unique hopens' ▸ hfree)

theorem clear_longGovernorIndex (hopens : OpensTo encoding.toList remainder)
    (h : LeftmostAnchor remainder before index rest) (hshort : index.Short) :
    Clear (Flawed (.string encoding)) .longGovernorIndex := by
  intro cause hflaw
  cases hflaw with
  | longGovernorIndex hopens' h' hlong =>
      obtain rfl := hopens.unique hopens'
      rw [WrittenIndex.Short, ← (h.unique h').2.1] at hlong
      exact hlong hshort

theorem clear_emptyGovernor (hopens : OpensTo encoding.toList remainder)
    (h : LeftmostAnchor remainder before index rest) (hne : before ≠ []) :
    Clear (Flawed (.string encoding)) .emptyGovernor := by
  intro cause hflaw
  cases hflaw with
  | emptyGovernor hopens' h' =>
      have hle := h.length_le _ [] _ (by rw [hopens.unique hopens', h'.text_eq])
      exact hne (List.eq_nil_of_length_eq_zero (Nat.le_zero.mp hle))

variable (hrest : AnchorsTo encoding.toList rest)

include hrest

theorem AnchorsTo.clear_noClosing (h : [')'] <:+ rest) :
    Clear (Flawed (.string encoding)) .noClosing := by
  intro cause hflaw
  cases hflaw with
  | noClosing hrest' hnone => exact hnone (hrest.unique hrest' ▸ h)

theorem AnchorsTo.clear_noDependentIndex (h : rest = front ++ (index.chars ++ [')'])) :
    Clear (Flawed (.string encoding)) .noDependentIndex := by
  intro cause hflaw
  cases hflaw with
  | noDependentIndex hrest' hends hmarks hmark hdigit =>
      obtain rfl := hrest.unique hrest'
      exact not_ends_in_marks hmarks hmark hdigit (h.symm.trans hends)

theorem AnchorsTo.clear_noDependentHyphen (h : rest = front ++ '-' :: (index.chars ++ [')'])) :
    Clear (Flawed (.string encoding)) .noDependentHyphen := by
  intro cause hflaw
  cases hflaw with
  | @noDependentHyphen _ _ front' index' hrest' hends hfront hhyphen =>
      obtain rfl := hrest.unique hrest'
      have heq : (front ++ ['-']) ++ (index.chars ++ [')']) =
          front' ++ (index'.chars ++ [')']) := by
        rw [List.append_assoc, List.singleton_append, ← h, ← hends]
      have hlast := front_unique (by simp; decide) hfront heq
      exact hhyphen (by simp [← hlast])

theorem AnchorsTo.clear_emptyDependent (h : rest = front ++ '-' :: (index.chars ++ [')']))
    (hne : Text.afterLast ',' front ≠ []) : Clear (Flawed (.string encoding)) .emptyDependent := by
  intro cause hflaw
  cases hflaw with
  | @emptyDependent _ _ front' index' hrest' hends hempty =>
      obtain rfl := hrest.unique hrest'
      have heq : (front ++ ['-']) ++ (index.chars ++ [')']) =
          (front' ++ ['-']) ++ (index'.chars ++ [')']) := by
        rw [List.append_assoc, List.append_assoc, List.singleton_append, List.singleton_append,
          ← h, ← hends]
      have hlast := front_unique (by simp; decide) (by simp; decide) heq
      obtain rfl := List.append_cancel_right hlast
      have hnil := Text.afterLast_append List.not_mem_nil hempty
      rw [List.append_nil] at hnil
      exact hne hnil

theorem AnchorsTo.clear_longDependentIndex (h : rest = front ++ '-' :: (index.chars ++ [')']))
    (hshort : index.Short) : Clear (Flawed (.string encoding)) .longDependentIndex := by
  intro cause hflaw
  cases hflaw with
  | longDependentIndex hrest' hends hlong =>
      obtain rfl := hrest.unique hrest'
      rw [WrittenIndex.Short, ← digits_unique (h.symm.trans hends)] at hlong
      exact hlong hshort

end Clear

end GrammarSieve.Edge
