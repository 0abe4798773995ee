/-
Decimal digits and the size of a number.  A number is below the power of ten that its digits count,
zeros in front included, and it is written with as few digits as that allows.  So the numbers that
can be written are those below a power of ten, and every number that can be read is one of them.
-/
import GrammarSieve.Text.Decimal
import Mathlib.Algebra.Group.Nat.Defs

namespace GrammarSieve.Text

theorem decimal_injective {m n : Nat} (h : decimal m = decimal n) : m = n := by
  rw [← decimalValue_decimal m, h, decimalValue_decimal]

theorem hyphen_not_mem_decimal (n : Nat) : '-' ∉ decimal n :=
  fun hmem => absurd (isDigit_of_mem_decimal hmem) (by decide)

theorem decimalValue_replicate_append (zeros : Nat) (digits : List Char) :
    decimalValue (List.replicate zeros '0' ++ digits) = decimalValue digits := by
  rw [decimalValue, Nat.ofDigitChars_append, Nat.ofDigitChars_replicate_zero, Nat.mul_zero]
  rfl

/-- A number is smaller than the first one with more digits. -/
theorem decimalValue_lt {digits : List Char} (h : ∀ c ∈ digits, isDigit c = true) :
    decimalValue digits < 10 ^ digits.length := by
  induction digits with
  | nil => decide
  | cons c rest ih =>
      obtain ⟨hc, hrest⟩ := List.forall_mem_cons.mp h
      have hdigit : c.toNat - '0'.toNat ≤ 9 := by
        simp only [isDigit, Char.le_def, Bool.and_eq_true, decide_eq_true_eq,
          UInt32.le_iff_toNat_le] at hc
        have hle : c.toNat ≤ '9'.toNat := hc.2
        have hnine : '9'.toNat = '0'.toNat + 9 := by decide
        omega
      have hsplit : decimalValue (c :: rest) =
          10 ^ rest.length * (c.toNat - '0'.toNat) + decimalValue rest := by
        rw [decimalValue, Nat.ofDigitChars_cons, Nat.ofDigitChars_eq_ofDigitChars_zero]
        simp [decimalValue]
      have hscaled := Nat.mul_le_mul_left (10 ^ rest.length) hdigit
      rw [hsplit, List.length_cons, Nat.pow_succ]
      have := ih hrest
      omega

theorem length_decimal_le_iff {n : Nat} :
    (decimal n).length ≤ digitLimit ↔ n < 10 ^ digitLimit :=
  Nat.length_toDigits_le_iff (by decide) (by decide)

/-- A number has digits to be written with exactly if it is small enough. -/
theorem digits?_eq_some_iff {n : Nat} {digits : List Char} :
    digits? n = some digits ↔ n < 10 ^ digitLimit ∧ digits = decimal n := by
  simp [digits?, length_decimal_le_iff, eq_comm]

theorem digits?_eq_none_iff {n : Nat} : digits? n = none ↔ 10 ^ digitLimit ≤ n := by
  simp [digits?, length_decimal_le_iff]

end GrammarSieve.Text
