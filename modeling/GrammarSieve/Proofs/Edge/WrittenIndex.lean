/-
Written indexes.  A position stands in an edge as decimal digits, with an apostrophe for every copy
of the node.  Zeros in front do not change the position, but they count for the digits that can be
read.
-/
import GrammarSieve.Edge.Decode
import GrammarSieve.Proofs.Text.Decimal

namespace GrammarSieve

namespace Edge

open Text (isDigit decimalValue decimalValue_replicate_append)

/-- A position as it is written in an edge: decimal digits, at least one, and the apostrophes
of a copied node. -/
structure WrittenIndex where
  digits : List Char
  marks : List Char
  digits_ne_nil : digits ≠ []
  isDigit_of_mem : ∀ c ∈ digits, isDigit c = true
  eq_of_mem_marks : ∀ c ∈ marks, c = '\''

namespace WrittenIndex

def chars (index : WrittenIndex) : List Char :=
  index.digits ++ index.marks

/-- The position that is written; apostrophes do not count. -/
def value (index : WrittenIndex) : Nat :=
  decimalValue index.digits

/-- The digits are not too many to be read.  Zeros that lead count. -/
def Short (index : WrittenIndex) : Prop :=
  index.digits.length ≤ Text.digitLimit

/-- A position is read exactly from an index that is short enough. -/
theorem position_digits_eq_ok_iff (index : WrittenIndex) {n : Nat} :
    position index.digits = .ok n ↔ index.Short ∧ index.value = n := by
  rw [position]
  cases hnumber : Text.number? index.digits with
  | none =>
      have hlong := Text.number?_eq_none_iff.mp hnumber
      simp [Short, Nat.not_le.mpr hlong]
  | some m =>
      obtain ⟨hshort, hvalue⟩ := Text.number?_eq_some_iff.mp hnumber
      simp [Short, hshort, value, hvalue]

theorem position_digits_eq_error_iff (index : WrittenIndex) {cause : DecodeError} :
    position index.digits = .error cause ↔
      ¬ index.Short ∧ cause = .longIndex index.digits.length := by
  rw [position]
  cases hnumber : Text.number? index.digits with
  | none =>
      have hlong := Text.number?_eq_none_iff.mp hnumber
      simp [Short, Nat.not_le.mpr hlong, eq_comm]
  | some m => simp [Short, (Text.number?_eq_some_iff.mp hnumber).1]

theorem isCopyMark_of_mem_marks (index : WrittenIndex) {c : Char} (hc : c ∈ index.marks) :
    isCopyMark c = true := by
  simp [isCopyMark, index.eq_of_mem_marks c hc]

theorem isDigit_or_eq_of_mem_chars (index : WrittenIndex) {c : Char} (hc : c ∈ index.chars) :
    isDigit c = true ∨ c = '\'' := by
  rcases List.mem_append.mp hc with hdigit | hmark
  · exact Or.inl (index.isDigit_of_mem c hdigit)
  · exact Or.inr (index.eq_of_mem_marks c hmark)

theorem not_mem_chars (index : WrittenIndex) {c : Char} (hdigit : isDigit c = false)
    (hmark : c ≠ '\'') : c ∉ index.chars := by
  intro hmem
  rcases index.isDigit_or_eq_of_mem_chars hmem with h | h
  · rw [hdigit] at h
    contradiction
  · exact hmark h

theorem hyphen_not_mem_chars (index : WrittenIndex) : '-' ∉ index.chars :=
  index.not_mem_chars (by decide) (by decide)

theorem comma_not_mem_chars (index : WrittenIndex) : ',' ∉ index.chars :=
  index.not_mem_chars (by decide) (by decide)

theorem Short.value_lt {index : WrittenIndex} (h : index.Short) :
    index.value < 10 ^ Text.digitLimit :=
  Nat.lt_of_lt_of_le (Text.decimalValue_lt index.isDigit_of_mem)
    (Nat.pow_le_pow_right (by decide) h)

/-- The index with zeros in front of its digits, and with this many apostrophes instead of its
own. -/
def respelled (index : WrittenIndex) (zeros marks : Nat) : WrittenIndex where
  digits := List.replicate zeros '0' ++ index.digits
  marks := List.replicate marks '\''
  digits_ne_nil := by simp [index.digits_ne_nil]
  isDigit_of_mem := by
    intro c hc
    rcases List.mem_append.mp hc with hzero | hdigit
    · rw [List.eq_of_mem_replicate hzero]
      decide
    · exact index.isDigit_of_mem c hdigit
  eq_of_mem_marks := fun _ hc => List.eq_of_mem_replicate hc

/-- The position stays the same. -/
theorem value_respelled (index : WrittenIndex) (zeros marks : Nat) :
    (index.respelled zeros marks).value = index.value :=
  decimalValue_replicate_append zeros index.digits

theorem short_respelled_iff {index : WrittenIndex} {zeros marks : Nat} :
    (index.respelled zeros marks).Short ↔ zeros + index.digits.length ≤ Text.digitLimit := by
  simp [Short, respelled]

/-- A position in decimal, without apostrophes. -/
def ofNat (position : Nat) : WrittenIndex where
  digits := Text.decimal position
  marks := []
  digits_ne_nil := Text.decimal_ne_nil position
  isDigit_of_mem := fun _ hc => Text.isDigit_of_mem_decimal hc
  eq_of_mem_marks := by simp

theorem value_ofNat (position : Nat) : (ofNat position).value = position :=
  Text.decimalValue_decimal position

/-- A position can be read again exactly if it is small enough. -/
theorem short_ofNat_iff {position : Nat} :
    (ofNat position).Short ↔ position < 10 ^ Text.digitLimit :=
  Text.length_decimal_le_iff

end WrittenIndex

end Edge

end GrammarSieve
