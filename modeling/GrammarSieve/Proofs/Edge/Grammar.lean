/-
The grammar of an edge, and the proof that decoding accepts exactly what it allows, up to the
number of digits that can be read.  A text spells an edge if it is the relation, an opening
parenthesis, the governor with its anchor, any number of comma segments, the dependent with its
index, and a closing parenthesis.  The scans are characterised one by one and then put together.
-/
import GrammarSieve.Proofs.Edge.Anchor

namespace GrammarSieve.Edge

open Text (isDigit decimalValue)

/-- The edges that have a spelling at all. -/
structure Spellable (e : Edge) : Prop where
  relation_ne_empty : e.relation ≠ ""
  paren_not_mem_relation : '(' ∉ e.relation.toList
  governor_ne_empty : e.governor.token ≠ ""
  governor_anchorless : Anchorless e.governor.token.toList
  dependent_ne_empty : e.dependent.token ≠ ""
  comma_not_mem_dependent : ',' ∉ e.dependent.token.toList

/-- What a text says besides the edge it spells: the zeros and apostrophes of the two indexes,
and the comma segments before the dependent. -/
structure Spelling where
  governorIndex : WrittenIndex
  passedOver : List Char
  dependentIndex : WrittenIndex
  passedOver_ends : passedOver = [] ∨ [','] <:+ passedOver

def Spelling.chars (s : Spelling) (e : Edge) : List Char :=
  e.relation.toList ++ '(' :: (e.governor.token.toList ++ '-' :: (s.governorIndex.chars ++
    ',' :: (s.passedOver ++ (e.dependent.token.toList ++ '-' :: (s.dependentIndex.chars ++
      [')'])))))

/-- The spelling that says nothing besides the edge. -/
def Spelling.plain (e : Edge) : Spelling where
  governorIndex := .ofNat e.governor.position
  passedOver := []
  dependentIndex := .ofNat e.dependent.position
  passedOver_ends := Or.inl rfl

/-- The text spells the edge. -/
structure Spells (text : List Char) (e : Edge) : Prop where
  spellable : Spellable e
  exists_spelling : ∃ s : Spelling, s.governorIndex.value = e.governor.position ∧
    s.dependentIndex.value = e.dependent.position ∧ text = s.chars e

/-- Both indexes are short enough to be read. -/
def Spelling.Short (s : Spelling) : Prop :=
  s.governorIndex.Short ∧ s.dependentIndex.Short

/-- The text spells the edge in a way that can be read. -/
structure Legible (text : List Char) (e : Edge) : Prop where
  spellable : Spellable e
  exists_spelling : ∃ s : Spelling, s.Short ∧ s.governorIndex.value = e.governor.position ∧
    s.dependentIndex.value = e.dependent.position ∧ text = s.chars e

theorem Legible.spells {text : List Char} {e : Edge} (h : Legible text e) : Spells text e := by
  obtain ⟨hspellable, s, -, hspelling⟩ := h
  exact ⟨hspellable, s, hspelling⟩

/-- The relation is what stands before the first opening parenthesis. -/
theorem splitRelation_eq_ok_iff {encoding relation remainder : List Char} :
    splitRelation encoding = .ok (relation, remainder) ↔
      relation ≠ [] ∧ '(' ∉ relation ∧ encoding = relation ++ '(' :: remainder := by
  constructor
  · intro h
    rw [splitRelation] at h
    split at h
    · contradiction
    · contradiction
    · next first rest hne hcut =>
        simp only [Except.ok.injEq, Prod.mk.injEq] at h
        obtain ⟨rfl, rfl⟩ := h
        exact ⟨hne, Text.not_mem_of_cutAtFirst hcut, Text.eq_of_cutAtFirst hcut⟩
  · intro h
    obtain ⟨hne, hfree, rfl⟩ := h
    obtain ⟨c, relation, rfl⟩ := List.exists_cons_of_ne_nil hne
    rw [splitRelation, Text.cutAtFirst_append hfree]

/-- The governor is what stands before the first anchor. -/
theorem scanGovernor_eq_ok_iff {remainder rest : List Char} {governor : EnumeratedToken} :
    scanGovernor remainder = .ok (governor, rest) ↔
      governor.token ≠ "" ∧ Anchorless governor.token.toList ∧
        ∃ index : WrittenIndex, index.Short ∧ index.value = governor.position ∧
          remainder = governor.token.toList ++ (index.anchor ++ rest) := by
  obtain ⟨token, n⟩ := governor
  constructor
  · intro h
    rw [scanGovernor] at h
    split at h
    · contradiction
    · next before digits after hfound =>
        obtain ⟨hfree, index, rfl, hremainder⟩ := firstAnchor?_eq_some_iff.mp hfound
        split at h
        · contradiction
        · next found hposition =>
            obtain ⟨hshort, hvalue⟩ := index.position_digits_eq_ok_iff.mp hposition
            split at h
            · contradiction
            · next hne =>
                simp only [Except.ok.injEq, Prod.mk.injEq, EnumeratedToken.mk.injEq] at h
                obtain ⟨⟨rfl, rfl⟩, rfl⟩ := h
                simpa [hne, hfree] using ⟨index, hshort, hvalue, hremainder⟩
  · rintro ⟨hne, hfree, index, hshort, hvalue, rfl⟩
    have hposition := index.position_digits_eq_ok_iff.mpr ⟨hshort, hvalue⟩
    have htoken : token.toList ≠ [] := mt String.toList_eq_nil_iff.mp hne
    simp [scanGovernor, firstAnchor?_append hfree, hposition, htoken]

/-- Behind a hyphen and an index at the end of a text, the token of a dependent is the last comma
segment before the hyphen. -/
theorem dependentParts_index (before : List Char) (index : WrittenIndex) :
    dependentParts (before ++ '-' :: (index.chars ++ [')'])) =
      if Text.afterLast ',' before = [] then
        .error (.emptyDependent (String.ofList (before ++ '-' :: (index.chars ++ [')']))))
      else .ok (Text.afterLast ',' before, index.digits) := by
  have hreverse : (before ++ '-' :: (index.chars ++ [')'])).reverse =
      ')' :: (index.chars.reverse ++ '-' :: before.reverse) := by
    simp
  rw [dependentParts, hreverse]
  simp only [dropWhile_isCopyMark_backwards, takeWhile_isDigit_backwards,
    dropWhile_isDigit_backwards, List.reverse_reverse, index.digits_ne_nil, ↓reduceIte]

/-- The parts of a dependent are found only before a hyphen and an index at the end of a text. -/
theorem exists_index_of_dependentParts {rest token digits : List Char}
    (h : dependentParts rest = .ok (token, digits)) :
    ∃ (before : List Char) (index : WrittenIndex), index.digits = digits ∧
      rest = before ++ '-' :: (index.chars ++ [')']) := by
  rw [dependentParts] at h
  split at h
  · next backwards hrest =>
      dsimp only at h
      split at h
      · contradiction
      · next hdigits =>
          split at h
          · next before hhyphen =>
              split at h
              · contradiction
              · next hne =>
                  simp only [Except.ok.injEq, Prod.mk.injEq] at h
                  obtain ⟨-, rfl⟩ := h
                  obtain ⟨index, hindexDigits, hindex⟩ :=
                    exists_index_of_backwards (by simpa using hdigits)
                  refine ⟨before.reverse, index, hindexDigits, ?_⟩
                  calc rest = (')' :: backwards).reverse := by
                        rw [← hrest, List.reverse_reverse]
                    _ = before.reverse ++ '-' :: (index.chars ++ [')']) := by
                        rw [hindex, hhyphen]
                        simp
          · contradiction
  · contradiction

/-- The parts of a dependent are the last comma segment before the hyphen of an index, and the
digits of this index. -/
theorem dependentParts_eq_ok_iff {rest token digits : List Char} :
    dependentParts rest = .ok (token, digits) ↔
      token ≠ [] ∧ ',' ∉ token ∧
        ∃ (front : List Char) (index : WrittenIndex), (front = [] ∨ [','] <:+ front) ∧
          index.digits = digits ∧ rest = front ++ (token ++ '-' :: (index.chars ++ [')'])) := by
  constructor
  · intro h
    obtain ⟨before, index, rfl, rfl⟩ := exists_index_of_dependentParts h
    rw [dependentParts_index] at h
    split at h
    · contradiction
    · next hne =>
        simp only [Except.ok.injEq, Prod.mk.injEq, and_true] at h
        subst h
        obtain ⟨front, hfront, hends⟩ := Text.exists_append_afterLast ',' before
        refine ⟨hne, Text.not_mem_afterLast ',' before, front, index, hends, rfl, ?_⟩
        rw [← List.append_assoc, ← hfront]
  · rintro ⟨hne, hfree, front, index, hends, rfl, rfl⟩
    rw [← List.append_assoc, dependentParts_index, Text.afterLast_append hfree hends, if_neg hne]

/-- A dependent is its parts, with an index that can be read. -/
theorem scanDependent_eq_ok_iff_parts {rest : List Char} {dependent : EnumeratedToken} :
    scanDependent rest = .ok dependent ↔
      ∃ digits, dependentParts rest = .ok (dependent.token.toList, digits) ∧
        position digits = .ok dependent.position := by
  constructor
  · intro h
    rw [scanDependent] at h
    split at h
    · contradiction
    · next token digits hparts =>
        split at h
        · contradiction
        · next found hposition =>
            obtain rfl := Except.ok.inj h
            exact ⟨digits, by simpa using hparts, hposition⟩
  · rintro ⟨digits, hparts, hposition⟩
    simp [scanDependent, hparts, hposition]

/-- Behind a hyphen and an index at the end of a text, a dependent is scanned exactly if it has
the index as its position and the last comma segment before the hyphen as its token. -/
theorem scanDependent_index (before : List Char) (index : WrittenIndex)
    (dependent : EnumeratedToken) :
    scanDependent (before ++ '-' :: (index.chars ++ [')'])) = .ok dependent ↔
      dependent.token ≠ "" ∧ Text.afterLast ',' before = dependent.token.toList ∧
        index.Short ∧ index.value = dependent.position := by
  rw [scanDependent_eq_ok_iff_parts, dependentParts_index]
  split
  · next hempty =>
      simp only [reduceCtorEq, false_and, exists_const, false_iff, not_and]
      intro htoken hnil
      exact absurd (String.toList_eq_nil_iff.mp (hnil.symm.trans hempty)) htoken
  · next hne =>
      constructor
      · rintro ⟨digits, hparts, hposition⟩
        obtain ⟨htoken, rfl⟩ := Prod.mk.inj (Except.ok.inj hparts)
        rw [htoken] at hne
        exact ⟨mt String.toList_eq_nil_iff.mpr hne, htoken,
          index.position_digits_eq_ok_iff.mp hposition⟩
      · rintro ⟨-, htoken, hindex⟩
        exact ⟨index.digits, by rw [htoken], index.position_digits_eq_ok_iff.mpr hindex⟩

/-- A dependent is the last comma segment before the hyphen of an index that can be read. -/
theorem scanDependent_eq_ok_iff {rest : List Char} {dependent : EnumeratedToken} :
    scanDependent rest = .ok dependent ↔
      dependent.token ≠ "" ∧ ',' ∉ dependent.token.toList ∧
        ∃ (front : List Char) (index : WrittenIndex), (front = [] ∨ [','] <:+ front) ∧
          index.Short ∧ index.value = dependent.position ∧
            rest = front ++ (dependent.token.toList ++ '-' :: (index.chars ++ [')'])) := by
  rw [scanDependent_eq_ok_iff_parts]
  constructor
  · rintro ⟨digits, hparts, hposition⟩
    obtain ⟨hne, hfree, front, index, hends, rfl, hrest⟩ := dependentParts_eq_ok_iff.mp hparts
    obtain ⟨hshort, hvalue⟩ := index.position_digits_eq_ok_iff.mp hposition
    exact ⟨mt String.toList_eq_nil_iff.mpr hne, hfree, front, index, hends, hshort, hvalue, hrest⟩
  · rintro ⟨hne, hfree, front, index, hends, hshort, hvalue, hrest⟩
    exact ⟨index.digits,
      dependentParts_eq_ok_iff.mpr
        ⟨mt String.toList_eq_nil_iff.mp hne, hfree, front, index, hends, rfl, hrest⟩,
      index.position_digits_eq_ok_iff.mpr ⟨hshort, hvalue⟩⟩

/-- Decoding is the three scans, each on what the one before it left. -/
theorem decode_eq_ok_iff_scans {encoding : String} {e : Edge} :
    decode encoding = .ok e ↔
      ∃ remainder rest, splitRelation encoding.toList = .ok (e.relation.toList, remainder) ∧
        scanGovernor remainder = .ok (e.governor, rest) ∧
          scanDependent rest = .ok e.dependent := by
  constructor
  · intro h
    rw [decode] at h
    split at h
    · contradiction
    · next relation remainder hsplit =>
        split at h
        · contradiction
        · next governor rest hgovernor =>
            split at h
            · contradiction
            · next dependent hdependent =>
                simp only [Except.ok.injEq] at h
                subst h
                exact ⟨remainder, rest, by simpa using hsplit, hgovernor, hdependent⟩
  · intro h
    obtain ⟨remainder, rest, hsplit, hgovernor, hdependent⟩ := h
    simp [decode, hsplit, hgovernor, hdependent]

theorem ofJson_eq_ok_iff {entry : Json} {e : Edge} :
    ofJson entry = .ok e ↔ ∃ text, entry = .string text ∧ decode text = .ok e := by
  cases entry <;> simp [ofJson]

/-- What the scans find in a text that spells an edge, before any index is read. -/
theorem Spellable.scans {e : Edge} (h : Spellable e) (s : Spelling) :
    ∃ remainder rest, splitRelation (s.chars e) = .ok (e.relation.toList, remainder) ∧
      firstAnchor? remainder = some ⟨e.governor.token.toList, s.governorIndex.digits, rest⟩ ∧
        dependentParts rest = .ok (e.dependent.token.toList, s.dependentIndex.digits) := by
  let rest := s.passedOver ++ (e.dependent.token.toList ++ '-' ::
    (s.dependentIndex.chars ++ [')']))
  let remainder := e.governor.token.toList ++ (s.governorIndex.anchor ++ rest)
  refine ⟨remainder, rest, ?_, firstAnchor?_append h.governor_anchorless s.governorIndex rest, ?_⟩
  · refine splitRelation_eq_ok_iff.mpr
      ⟨mt String.toList_eq_nil_iff.mp h.relation_ne_empty, h.paren_not_mem_relation, ?_⟩
    simp [remainder, rest, Spelling.chars, WrittenIndex.anchor, WrittenIndex.closed]
  · exact dependentParts_eq_ok_iff.mpr ⟨mt String.toList_eq_nil_iff.mp h.dependent_ne_empty,
      h.comma_not_mem_dependent, s.passedOver, s.dependentIndex, s.passedOver_ends, rfl, rfl⟩

/-- A text spells one edge at most. -/
theorem Spells.unique {text : List Char} {e e' : Edge} (h : Spells text e) (h' : Spells text e') :
    e = e' := by
  obtain ⟨hspellable, s, hgovernor, hdependent, rfl⟩ := h
  obtain ⟨hspellable', s', hgovernor', hdependent', htext⟩ := h'
  obtain ⟨remainder, rest, hsplit, hanchor, hparts⟩ := hspellable.scans s
  obtain ⟨remainder', rest', hsplit', hanchor', hparts'⟩ := hspellable'.scans s'
  rw [htext, hsplit'] at hsplit
  obtain ⟨hrelation, rfl⟩ := Prod.mk.inj (Except.ok.inj hsplit)
  obtain ⟨htoken, hdigits, rfl⟩ := Anchored.mk.inj (Option.some.inj (hanchor'.symm.trans hanchor))
  obtain ⟨hlast, hlastDigits⟩ := Prod.mk.inj (Except.ok.inj (hparts'.symm.trans hparts))
  obtain ⟨relation, ⟨token, i⟩, ⟨last, j⟩⟩ := e
  obtain ⟨relation', ⟨token', i'⟩, ⟨last', j'⟩⟩ := e'
  simp only [WrittenIndex.value] at hgovernor hdependent hgovernor' hdependent'
  simp only [String.toList_inj] at hrelation htoken hlast
  rw [hdigits, hgovernor] at hgovernor'
  rw [hlastDigits, hdependent] at hdependent'
  rw [hrelation, htoken, hlast, hgovernor', hdependent']

theorem legible_of_decode {encoding : String} {e : Edge} (h : decode encoding = .ok e) :
    Legible encoding.toList e := by
  obtain ⟨remainder, rest, hsplit, hgovernor, hdependent⟩ := decode_eq_ok_iff_scans.mp h
  obtain ⟨hrelation, hparen, hencoding⟩ := splitRelation_eq_ok_iff.mp hsplit
  obtain ⟨hgovernorNe, hanchorless, index, hshort, hindex, hremainder⟩ :=
    scanGovernor_eq_ok_iff.mp hgovernor
  obtain ⟨hdependentNe, hcomma, front, last, hends, hlastShort, hlast, hrest⟩ :=
    scanDependent_eq_ok_iff.mp hdependent
  refine ⟨?_, ⟨index, front, last, hends⟩, ⟨hshort, hlastShort⟩, hindex, hlast, ?_⟩
  · exact
      { relation_ne_empty := by simpa using hrelation
        paren_not_mem_relation := hparen
        governor_ne_empty := hgovernorNe
        governor_anchorless := hanchorless
        dependent_ne_empty := hdependentNe
        comma_not_mem_dependent := hcomma }
  · rw [hencoding, hremainder, hrest]
    simp [Spelling.chars, WrittenIndex.anchor, WrittenIndex.closed]

theorem spells_of_decode {encoding : String} {e : Edge} (h : decode encoding = .ok e) :
    Spells encoding.toList e :=
  (legible_of_decode h).spells

theorem decode_of_legible {encoding : String} {e : Edge} (h : Legible encoding.toList e) :
    decode encoding = .ok e := by
  obtain ⟨hspellable, s, ⟨hgovernorShort, hdependentShort⟩, hgovernor, hdependent, hencoding⟩ := h
  obtain ⟨remainder, rest, hsplit, hanchor, hparts⟩ := hspellable.scans s
  refine decode_eq_ok_iff_scans.mpr ⟨remainder, rest, hencoding ▸ hsplit, ?_, ?_⟩
  · obtain ⟨-, index, hdigits, hremainder⟩ := firstAnchor?_eq_some_iff.mp hanchor
    have hsame : index.Short ∧ index.value = e.governor.position := by
      simp only [WrittenIndex.Short, WrittenIndex.value, hdigits] at hgovernorShort hgovernor ⊢
      exact ⟨hgovernorShort, hgovernor⟩
    exact scanGovernor_eq_ok_iff.mpr ⟨hspellable.governor_ne_empty,
      hspellable.governor_anchorless, index, hsame.1, hsame.2, hremainder⟩
  · exact scanDependent_eq_ok_iff_parts.mpr ⟨_, hparts,
      s.dependentIndex.position_digits_eq_ok_iff.mpr ⟨hdependentShort, hdependent⟩⟩

/-- A text that decodes to an edge spells this edge and no other one. -/
theorem spells_iff_eq_of_decode {encoding : String} {e e' : Edge} (h : decode encoding = .ok e) :
    Spells encoding.toList e' ↔ e' = e := by
  constructor
  · exact fun h' => h'.unique (spells_of_decode h)
  · rintro rfl
    exact spells_of_decode h

/-- An index of the governor that is too long breaks decoding off, whatever follows. -/
theorem Spellable.decode_eq_long_governor {e : Edge} (h : Spellable e) {s : Spelling}
    (hlong : ¬ s.governorIndex.Short) {encoding : String}
    (hencoding : encoding.toList = s.chars e) :
    decode encoding = .error (.longIndex s.governorIndex.digits.length) := by
  obtain ⟨remainder, rest, hsplit, hanchor, -⟩ := h.scans s
  rw [← hencoding] at hsplit
  have hposition := s.governorIndex.position_digits_eq_error_iff.mpr ⟨hlong, rfl⟩
  simp [decode, hsplit, scanGovernor, hanchor, hposition]

theorem Spellable.decode_eq_long_dependent {e : Edge} (h : Spellable e) {s : Spelling}
    (hshort : s.governorIndex.Short) (hlong : ¬ s.dependentIndex.Short) {encoding : String}
    (hencoding : encoding.toList = s.chars e) :
    decode encoding = .error (.longIndex s.dependentIndex.digits.length) := by
  obtain ⟨remainder, rest, hsplit, hanchor, hparts⟩ := h.scans s
  rw [← hencoding] at hsplit
  have hgovernor := s.governorIndex.position_digits_eq_ok_iff.mpr ⟨hshort, rfl⟩
  have hdependent := s.dependentIndex.position_digits_eq_error_iff.mpr ⟨hlong, rfl⟩
  have htoken : e.governor.token.toList ≠ [] := mt String.toList_eq_nil_iff.mp h.governor_ne_empty
  simp [decode, hsplit, scanGovernor, hanchor, hgovernor, htoken, scanDependent, hparts, hdependent]

/-- Decoding accepts exactly the texts that spell an edge with indexes that can be read, and
returns the edge they spell.  A text that spells an edge with a longer index breaks it off, at the
first such index. -/
theorem decode_eq_ok_iff_spells (encoding : String) (e : Edge) :
    (decode encoding = .ok e ↔ Spellable e ∧ ∃ s : Spelling,
      s.governorIndex.digits.length ≤ Text.digitLimit ∧
        s.dependentIndex.digits.length ≤ Text.digitLimit ∧
        s.governorIndex.value = e.governor.position ∧
        s.dependentIndex.value = e.dependent.position ∧ encoding.toList = s.chars e) ∧
    (Spellable e → ∀ s : Spelling, encoding.toList = s.chars e →
      (Text.digitLimit < s.governorIndex.digits.length →
        decode encoding = .error (.longIndex s.governorIndex.digits.length)) ∧
      (s.governorIndex.digits.length ≤ Text.digitLimit →
        Text.digitLimit < s.dependentIndex.digits.length →
          decode encoding = .error (.longIndex s.dependentIndex.digits.length))) := by
  constructor
  · constructor
    · intro h
      obtain ⟨hspellable, s, ⟨hgovernor, hdependent⟩, hspelling⟩ := legible_of_decode h
      exact ⟨hspellable, s, hgovernor, hdependent, hspelling⟩
    · rintro ⟨hspellable, s, hgovernor, hdependent, hspelling⟩
      exact decode_of_legible ⟨hspellable, s, ⟨hgovernor, hdependent⟩, hspelling⟩
  · intro hspellable s hencoding
    exact ⟨fun hlong => hspellable.decode_eq_long_governor (Nat.not_le.mpr hlong) hencoding,
      fun hshort hlong =>
        hspellable.decode_eq_long_dependent hshort (Nat.not_le.mpr hlong) hencoding⟩

/-- Apostrophes, a leading zero and a comma segment are read and not kept. -/
example : decode "num(dollars-3',1,000-02'')" =
    .ok ⟨"num", ⟨"dollars", 3⟩, ⟨"000", 2⟩⟩ := by rfl

/-- The plain spelling of an edge, with zeros in front of its first position. -/
def Spelling.padded (zeros : Nat) : Spelling :=
  { plain ⟨"nn", ⟨"a", 1⟩, ⟨"b", 2⟩⟩ with
    governorIndex := (WrittenIndex.ofNat 1).respelled zeros 0 }

def padded (zeros : Nat) : String :=
  String.ofList ((Spelling.padded zeros).chars ⟨"nn", ⟨"a", 1⟩, ⟨"b", 2⟩⟩)

example : padded 3 = "nn(a-0001,b-2)" := by rfl

theorem spells_padded (zeros : Nat) :
    Spells (padded zeros).toList ⟨"nn", ⟨"a", 1⟩, ⟨"b", 2⟩⟩ where
  spellable :=
    { relation_ne_empty := by simp
      paren_not_mem_relation := by simp
      governor_ne_empty := by simp
      governor_anchorless := anchorless_of_hyphen_not_mem (by simp)
      dependent_ne_empty := by simp
      comma_not_mem_dependent := by simp }
  exists_spelling := by
    refine ⟨.padded zeros, ?_, WrittenIndex.value_ofNat 2, String.toList_ofList⟩
    rw [Spelling.padded, WrittenIndex.value_respelled, WrittenIndex.value_ofNat]

/-- As many zeros as digits can be read are one digit too many. -/
theorem decode_padded {zeros : Nat} (h : Text.digitLimit ≤ zeros) :
    decode (padded zeros) = .error (.longIndex (zeros + 1)) := by
  have hone : (Text.decimal 1).length = 1 := by rfl
  have hlength : (Spelling.padded zeros).governorIndex.digits.length = zeros + 1 := by
    simp [Spelling.padded, WrittenIndex.respelled, WrittenIndex.ofNat, hone]
  have hlong : ¬ (Spelling.padded zeros).governorIndex.Short := by
    rw [WrittenIndex.Short, hlength]
    omega
  have hspellable := (spells_padded zeros).spellable
  rw [padded, hspellable.decode_eq_long_governor hlong String.toList_ofList, hlength]

/-- A text that spells an edge and is not decoded. -/
theorem exists_spells_not_decoded :
    ∃ (encoding : String) (e : Edge), Spells encoding.toList e ∧
      decode encoding = .error (.longIndex (Text.digitLimit + 1)) :=
  ⟨_, _, spells_padded Text.digitLimit, decode_padded (Nat.le_refl _)⟩

end GrammarSieve.Edge
