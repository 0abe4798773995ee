/-
Stored texts in the strict dialect.  Strings are stored without raw controls and integers without
leading zeros, so the strict dialect reads what has been stored just as the lenient one does, and it
sets no bound on what is nested.
-/
import GrammarSieve.Json.Strict
import GrammarSieve.Proofs.Json.RoundTrip

namespace GrammarSieve.Json

open Text (isDigit decimal decimalValue)

theorem exists_decimal_eq_cons (n : Nat) :
    ∃ digit digits, decimal n = digit :: digits ∧ isDigit digit = true := by
  obtain ⟨digit, digits, hdigits⟩ := List.exists_cons_of_ne_nil (Text.decimal_ne_nil n)
  exact ⟨digit, digits, hdigits, Text.isDigit_of_mem_decimal (hdigits ▸ List.mem_cons_self)⟩

/-- Only the digits of zero begin with a zero. -/
theorem head?_decimal_ne_zero {n : Nat} (h : n ≠ 0) : (decimal n).head? ≠ some '0' := by
  induction n using Nat.strongRecOn with
  | ind n ih =>
      by_cases hsmall : n < 10
      · have hall : ∀ n < 10, n ≠ 0 → Nat.digitChar n ≠ '0' := by decide
        rw [decimal, Nat.toDigits_of_lt_base hsmall]
        simpa using hall n hsmall h
      · obtain ⟨digit, digits, hdigits, -⟩ := exists_decimal_eq_cons (n / 10)
        have hfront := ih (n / 10) (by omega) (by omega)
        rw [hdigits] at hfront
        rw [decimal, Nat.toDigits_of_base_le (by decide) (by omega), ← decimal, hdigits]
        exact hfront

/-- Where a stored value is closed, a whole number has no fraction and no exponent. -/
theorem finishNumber_of_closes (negative : Bool) {whole : List Char} {n : Nat}
    (hwhole : Text.number? whole = some n) {rest : List Char} (hrest : Closes rest) :
    finishNumber negative whole rest = some (.integer (signedInteger negative n), rest) := by
  have hfraction : spanFraction rest = ([], rest) := by
    rw [spanFraction]
    rintro fraction rfl
    exact absurd (hrest '.' rfl) (by decide)
  have hexponent : spanExponent rest = (none, rest) := by
    rw [spanExponent]
    · rintro mark rfl
      exact absurd (hrest 'e' rfl) (by decide)
    · rintro mark rfl
      exact absurd (hrest 'E' rfl) (by decide)
  simp [finishNumber, hfraction, hexponent, hwhole]

theorem strictMagnitude_decimal (negative : Bool) {n : Nat}
    (hn : Text.number? (decimal n) = some n) {rest : List Char} (hrest : Closes rest) :
    strictMagnitude negative (decimal n ++ rest) =
      some (.integer (signedInteger negative n), rest) := by
  by_cases hzero : n = 0
  · subst hzero
    have hdecimal : decimal 0 = ['0'] := rfl
    rw [hdecimal, List.singleton_append, strictMagnitude]
    exact finishNumber_of_closes negative hn hrest
  · obtain ⟨digit, digits, hdigits, hdigit⟩ := exists_decimal_eq_cons n
    have hspan := spanDigits_decimal n hrest
    have hfirst := head?_decimal_ne_zero hzero
    rw [hdigits] at hspan hfirst ⊢
    rw [List.cons_append, strictMagnitude]
    · rw [← List.cons_append, hspan]
      simp only [← hdigits]
      exact finishNumber_of_closes negative hn hrest
    · rintro _ heq
      obtain rfl := (List.cons.inj heq).1
      exact absurd hdigit (by decide)
    · rintro _ heq
      obtain rfl := (List.cons.inj heq).1
      exact hfirst rfl

/-- The digits of an integer of 64 bits are few enough to be read. -/
theorem number?_decimal_natAbs {value : Int} (hword : isWord value = true) :
    Text.number? (decimal value.natAbs) = some value.natAbs := by
  rw [Text.number?_eq_some_iff]
  refine ⟨?_, Text.decimalValue_decimal _⟩
  have hsmall : value.natAbs < 10 ^ 20 := by
    have hbounds : -9223372036854775808 ≤ value ∧ value < 18446744073709551616 :=
      (isWord_iff value).mp hword
    omega
  have htwenty : (decimal value.natAbs).length ≤ 20 :=
    (Nat.length_toDigits_le_iff (by decide) (by decide)).mpr hsmall
  exact Nat.le_trans htwenty (by decide)

theorem strictNumber_storedInteger {value : Int} (hword : isWord value = true) {rest : List Char}
    (hrest : Closes rest) :
    strictNumber (storedInteger value ++ rest) = some (.integer value, rest) := by
  have hdigits := number?_decimal_natAbs hword
  rw [storedInteger]
  split
  · next hnegative =>
      have hsigned : signedInteger true value.natAbs = value := by
        simp only [signedInteger, ↓reduceIte]
        omega
      rw [List.cons_append, strictNumber, strictMagnitude_decimal true hdigits hrest, hsigned]
  · next hnegative =>
      have hsigned : signedInteger false value.natAbs = value := by
        simp only [signedInteger, Bool.false_eq_true, ↓reduceIte]
        omega
      have hread := strictMagnitude_decimal false hdigits hrest
      rw [hsigned] at hread
      -- the first digit is neither a minus sign nor the beginning of a word
      obtain ⟨digit, digits, hcons, hdigit⟩ := exists_decimal_eq_cons value.natAbs
      rw [hcons, List.cons_append] at hread ⊢
      rw [strictNumber, hread]
      · rintro _ heq
        obtain rfl := (List.cons.inj heq).1
        exact absurd hdigit (by decide)
      · rintro _ heq
        obtain rfl := (List.cons.inj heq).1
        exact absurd hdigit (by decide)

theorem readsStored_strict : strict.ReadsStored where
  takesPrinted := by
    intro c hc
    simpa [strict] using hc.1
  number_storedInteger := fun _ _ hword hrest => strictNumber_storedInteger hword hrest

/-- The stored text of an exact value is read as the value, however much is nested in it. -/
theorem readStrict?_compact {value : Json} (h : Exact value) :
    readStrict? (String.ofList value.compact) = some value := by
  rw [readStrict?, String.toList_ofList]
  apply readText?_compact readsStored_strict h
  simp [strict]

end GrammarSieve.Json
