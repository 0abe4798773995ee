/-
What the stored texts of strings and integers are made of, and how they are read.  A stored
character is read as one code or, where it lies beyond 16 bits, as the two units of a pair, and
pairing the codes of a string gives its characters back.  A stored integer is summed up digit by
digit, and as long as it has 64 bits no sum on the way is too big.
-/
import GrammarSieve.Json.Compact
import GrammarSieve.Json.Lenient
import GrammarSieve.Text.Split

namespace GrammarSieve.Json

open Text (isDigit decimal decimalValue)

/-- Characters that are printed as they are: those of ASCII that are no controls.  (The last of
them deletes, but does not count as a control here.) -/
def IsPrinted (c : Char) : Prop :=
  0x20 ≤ c.toNat ∧ c.toNat < 0x80

section Strings

theorem hexValue?_digitChar {n : Nat} (h : n < 16) : hexValue? (Nat.digitChar n) = some n := by
  have hall : ∀ n < 16, hexValue? (Nat.digitChar n) = some n := by decide
  exact hall n h

theorem isPrinted_digitChar {n : Nat} (h : n < 16) : IsPrinted (Nat.digitChar n) := by
  have hall : ∀ n < 16, 0x20 ≤ (Nat.digitChar n).toNat ∧ (Nat.digitChar n).toNat < 0x80 := by
    decide
  exact hall n h

/-- The four digits of an escape. -/
theorem hexDigits_four (n : Nat) :
    Text.hexDigits 4 n = [Nat.digitChar (n / 4096 % 16), Nat.digitChar (n / 256 % 16),
      Nat.digitChar (n / 16 % 16), Nat.digitChar (n % 16)] := by
  simp [Text.hexDigits, Nat.div_div_eq_div_mul]

theorem unit?_digitChars {n : Nat} (h : n < 0x10000) :
    unit? (Nat.digitChar (n / 4096 % 16)) (Nat.digitChar (n / 256 % 16))
      (Nat.digitChar (n / 16 % 16)) (Nat.digitChar (n % 16)) = some n := by
  have hlt (m : Nat) : m % 16 < 16 := Nat.mod_lt m (by decide)
  simp only [unit?, hexValue?_digitChar (hlt _), Option.some.injEq]
  omega

theorem readCodes_escapeUnit (raw : Char → Bool) {n : Nat} (h : n < 0x10000)
    (text : List Char) :
    readCodes raw (escapeUnit n ++ text) = prepend n (readCodes raw text) := by
  rw [escapeUnit, hexDigits_four]
  simp only [List.cons_append, List.nil_append, readCodes, unit?_digitChars h]

/-- No character is half of a pair. -/
theorem toNat_valid (c : Char) :
    c.toNat < 0xD800 ∨ (0xDFFF < c.toNat ∧ c.toNat < 0x110000) :=
  c.valid

/-- The codes as which the stored form of a character is read. -/
def charCodes (c : Char) : List Nat :=
  if c.toNat < 0x10000 then [c.toNat]
  else [0xD800 + (c.toNat - 0x10000) / 0x400, 0xDC00 + (c.toNat - 0x10000) % 0x400]

/-- What a dialect has to take as it is so that stored strings can be read. -/
def TakesPrinted (raw : Char → Bool) : Prop :=
  ∀ c, IsPrinted c → raw c = true

/-- The marks of short escapes, and the characters that they spell, are characters of ASCII. -/
theorem of_escaped? {mark c : Char} (h : escaped? mark = some c) :
    mark ≠ 'u' ∧ IsPrinted mark ∧ c.toNat < 0x10000 := by
  unfold escaped? at h
  split at h
  all_goals cases h
  all_goals simp [IsPrinted]

/-- The ways in which a character is stored: with a short escape, as it is, with the escape of
its code or with those of the two units of a pair. -/
inductive StoredForm (c : Char) : List Char → Prop where
  | short {mark : Char} (hmark : escaped? mark = some c) : StoredForm c ['\\', mark]
  | printed (hprinted : IsPrinted c) (hquote : c ≠ '"') (hslash : c ≠ '\\') : StoredForm c [c]
  | unit (hsmall : c.toNat < 0x10000) : StoredForm c (escapeUnit c.toNat)
  | pair (hlarge : ¬ c.toNat < 0x10000) :
      StoredForm c (escapeUnit (0xD800 + (c.toNat - 0x10000) / 0x400) ++
        escapeUnit (0xDC00 + (c.toNat - 0x10000) % 0x400))

theorem storedForm_storedChar (c : Char) : StoredForm c (storedChar c) := by
  simp only [storedChar]
  split
  · next hc =>
      rcases (by simpa using hc : c = '"' ∨ c = '\\') with rfl | rfl
      · exact .short rfl
      · exact .short rfl
  next hplain =>
  simp only [Bool.or_eq_true, decide_eq_true_eq, not_or] at hplain
  split
  · next hc => exact .short (hc ▸ rfl)
  split
  · next hc => exact .short (hc ▸ rfl)
  split
  · next hc => exact .short (hc ▸ rfl)
  split
  · next hc => exact .short (hc ▸ rfl)
  split
  · next hc => exact .short (hc ▸ rfl)
  split
  · next hc => exact .printed (by simpa [IsPrinted] using hc) hplain.1 hplain.2
  split
  · next hsmall => exact .unit hsmall
  · next hlarge => exact .pair hlarge

theorem readCodes_short (raw : Char → Bool) {mark c : Char} (hmark : escaped? mark = some c)
    (text : List Char) :
    readCodes raw ('\\' :: mark :: text) = prepend c.toNat (readCodes raw text) := by
  rw [readCodes]
  · rw [hmark]
  · intro _ _ _ _ _ heq _
    exact (of_escaped? hmark).1 heq

theorem readCodes_raw {raw : Char → Bool} {c : Char} (hraw : raw c = true) (hquote : c ≠ '"')
    (hslash : c ≠ '\\') (text : List Char) :
    readCodes raw (c :: text) = prepend c.toNat (readCodes raw text) := by
  rw [readCodes]
  · simp [hraw, hslash]
  · exact hquote
  · intro _ _ _ _ _ heq
    exact absurd heq hslash
  · intro _ _ heq
    exact absurd heq hslash

theorem readCodes_printed {raw : Char → Bool} (hraw : TakesPrinted raw) {c : Char}
    (hprinted : IsPrinted c) (hquote : c ≠ '"') (hslash : c ≠ '\\') (text : List Char) :
    readCodes raw (c :: text) = prepend c.toNat (readCodes raw text) :=
  readCodes_raw (hraw c hprinted) hquote hslash text

/-- Behind the code or the codes of a stored character the reading goes on. -/
theorem readCodes_storedChar {raw : Char → Bool} (hraw : TakesPrinted raw) (c : Char)
    {text rest : List Char} {codes : List Nat} (h : readCodes raw text = some (codes, rest)) :
    readCodes raw (storedChar c ++ text) = some (charCodes c ++ codes, rest) := by
  have hform := storedForm_storedChar c
  generalize storedChar c = stored at hform
  cases hform with
  | short hmark =>
      rw [charCodes, if_pos (of_escaped? hmark).2.2]
      exact (readCodes_short raw hmark text).trans (h ▸ rfl)
  | printed hprinted hquote hslash =>
      have hsmall : c.toNat < 0x10000 := Nat.lt_trans hprinted.2 (by decide)
      rw [charCodes, if_pos hsmall]
      exact (readCodes_printed hraw hprinted hquote hslash text).trans (h ▸ rfl)
  | unit hsmall =>
      rw [charCodes, if_pos hsmall, readCodes_escapeUnit raw hsmall, h]
      rfl
  | pair hlarge =>
      have hvalid := toNat_valid c
      rw [charCodes, if_neg hlarge, List.append_assoc, readCodes_escapeUnit raw (by omega),
        readCodes_escapeUnit raw (by omega), h]
      rfl

/-- A code that does not open a pair stands for a character of its own. -/
theorem codeChars_cons {n : Nat} (h : isHighUnit n = false) (codes : List Nat) :
    codeChars (n :: codes) = codeChar n :: codeChars codes := by
  cases codes with
  | nil => rfl
  | cons m rest => simp [codeChars, h]

theorem codeChars_charCodes (c : Char) (codes : List Nat) :
    codeChars (charCodes c ++ codes) = c :: codeChars codes := by
  have hvalid := toNat_valid c
  by_cases hsmall : c.toNat < 0x10000
  · have hhigh : isHighUnit c.toNat = false := by
      simp [isHighUnit]
      omega
    have hlow : isLowUnit c.toNat = false := by
      simp [isLowUnit]
      omega
    rw [charCodes, if_pos hsmall, List.singleton_append, codeChars_cons hhigh]
    simp [codeChar, hhigh, hlow, Char.ofNat_toNat]
  · -- the two units of a pair
    rw [charCodes, if_neg hsmall]
    generalize hhigh : 0xD800 + (c.toNat - 0x10000) / 0x400 = high
    generalize hlow : 0xDC00 + (c.toNat - 0x10000) % 0x400 = low
    have hpair : isHighUnit high = true ∧ isLowUnit low = true := by
      simp [isHighUnit, isLowUnit]
      omega
    have hcode : 0x10000 + (high - 0xD800) * 0x400 + (low - 0xDC00) = c.toNat := by
      omega
    simp [codeChars, hpair, pairedChar, hcode, Char.ofNat_toNat]

theorem readCodes_storedChars {raw : Char → Bool} (hraw : TakesPrinted raw)
    (chars rest : List Char) :
    readCodes raw (chars.flatMap storedChar ++ '"' :: rest) =
      some (chars.flatMap charCodes, rest) := by
  induction chars with
  | nil => simp [readCodes]
  | cons c chars ih =>
      rw [List.flatMap_cons, List.append_assoc, readCodes_storedChar hraw c ih,
        List.flatMap_cons]

theorem codeChars_flatMap_charCodes (chars : List Char) :
    codeChars (chars.flatMap charCodes) = chars := by
  induction chars with
  | nil => rfl
  | cons c chars ih => rw [List.flatMap_cons, codeChars_charCodes, ih]

/-- A stored string is read back, whatever follows it. -/
theorem readString_stored {raw : Char → Bool} (hraw : TakesPrinted raw) (text : String)
    (rest : List Char) :
    readString raw (text.toList.flatMap storedChar ++ '"' :: rest) = some (text, rest) := by
  rw [readString, readCodes_storedChars hraw]
  simp only [codeChars_flatMap_charCodes, String.ofList_toList]

theorem isPrinted_of_mem_escapeUnit {n : Nat} {c : Char} (hc : c ∈ escapeUnit n) :
    IsPrinted c := by
  have hlt (m : Nat) : m % 16 < 16 := Nat.mod_lt m (by decide)
  rw [escapeUnit, hexDigits_four] at hc
  simp only [List.mem_cons, List.not_mem_nil, or_false] at hc
  rcases hc with rfl | rfl | rfl | rfl | rfl | rfl
  · simp [IsPrinted]
  · simp [IsPrinted]
  all_goals exact isPrinted_digitChar (hlt _)

theorem isPrinted_of_mem_storedChar {c d : Char} (hd : d ∈ storedChar c) : IsPrinted d := by
  have hform := storedForm_storedChar c
  generalize storedChar c = stored at hform hd
  cases hform with
  | short hmark =>
      rcases (by simpa using hd : d = '\\' ∨ d = _) with rfl | rfl
      · simp [IsPrinted]
      · exact (of_escaped? hmark).2.1
  | printed hprinted hquote hslash => exact List.mem_singleton.mp hd ▸ hprinted
  | unit hsmall => exact isPrinted_of_mem_escapeUnit hd
  | pair hlarge =>
      rcases List.mem_append.mp hd with hd | hd
      · exact isPrinted_of_mem_escapeUnit hd
      · exact isPrinted_of_mem_escapeUnit hd

end Strings

section Integers

theorem le_ofDigitChars (sum : Nat) (digits : List Char) :
    sum ≤ Nat.ofDigitChars 10 digits sum := by
  induction digits generalizing sum with
  | nil => simp
  | cons digit rest ih =>
      rw [Nat.ofDigitChars_cons]
      have hrest := ih (10 * sum + (digit.toNat - '0'.toNat))
      omega

/-- As long as the whole sum has 64 bits, no digit makes it fall. -/
theorem sumUnsigned?_eq_some {sum : Nat} {digits : List Char}
    (h : Nat.ofDigitChars 10 digits sum < Nat.pow 2 64) :
    sumUnsigned? sum digits = some (Nat.ofDigitChars 10 digits sum) := by
  induction digits generalizing sum with
  | nil => simp [sumUnsigned?]
  | cons digit rest ih =>
      rw [Nat.ofDigitChars_cons, Nat.mul_comm 10 sum] at h ⊢
      have hle := le_ofDigitChars (sum * 10 + (digit.toNat - '0'.toNat)) rest
      have hnext := Nat.mod_eq_of_lt (Nat.lt_of_le_of_lt hle h)
      have hrises : ¬ sum * 10 + (digit.toNat - '0'.toNat) < sum := by omega
      simp only [sumUnsigned?, hnext, hrises, ↓reduceIte]
      exact ih h

theorem sumNegative?_eq_some {sum : Nat} {digits : List Char}
    (h : Nat.ofDigitChars 10 digits sum ≤ Nat.pow 2 63) :
    sumNegative? sum digits = some (Nat.ofDigitChars 10 digits sum) := by
  induction digits generalizing sum with
  | nil => simp [sumNegative?]
  | cons digit rest ih =>
      rw [Nat.ofDigitChars_cons, Nat.mul_comm 10 sum] at h ⊢
      have hle := Nat.le_trans (le_ofDigitChars (sum * 10 + (digit.toNat - '0'.toNat)) rest) h
      have hsmall : Nat.pow 2 63 < Nat.pow 2 64 := by decide
      have hnext := Nat.mod_eq_of_lt (Nat.lt_of_le_of_lt hle hsmall)
      simp only [sumNegative?, hnext, Nat.not_lt.mpr hle, ↓reduceIte]
      exact ih h

/-- What may follow a value in a stored text: the next entry, an end, or nothing more. -/
def Closes (rest : List Char) : Prop :=
  ∀ c ∈ rest.head?, c = ',' ∨ c = ']' ∨ c = '\x7d'

theorem spanDigits_decimal (n : Nat) {rest : List Char} (hrest : Closes rest) :
    spanDigits (decimal n ++ rest) = (decimal n, rest) := by
  have hdigits : ∀ c ∈ decimal n, isDigit c = true := fun _ hc => Text.isDigit_of_mem_decimal hc
  have hstop : ∀ c ∈ rest.head?, isDigit c = false := by
    intro c hc
    rcases hrest c hc with rfl | rfl | rfl <;> decide
  rw [spanDigits, Text.takeWhile_append_of_stop hdigits hstop,
    Text.dropWhile_append_of_stop hdigits hstop]

/-- A stored magnitude is read as an integer if its digits can be summed up. -/
theorem lenientMagnitude_decimal (negative : Bool) (n : Nat) {rest : List Char}
    (hrest : Closes rest)
    (hsum : (if negative then sumNegative? 0 (decimal n) else sumUnsigned? 0 (decimal n)) =
      some n) :
    lenientMagnitude negative (decimal n ++ rest) =
      some (.integer (signedInteger negative n), rest) := by
  rw [lenientMagnitude, spanDigits_decimal n hrest]
  simp only [hsum]
  split
  · next heq => exact absurd (hrest '.' rfl) (by decide)
  · next heq => exact absurd (hrest 'e' rfl) (by decide)
  · next heq => exact absurd (hrest 'E' rfl) (by decide)
  · rfl

theorem isWord_iff (value : Int) :
    isWord value = true ↔ -(Nat.pow 2 63 : Int) ≤ value ∧ value < (Nat.pow 2 64 : Int) := by
  rw [isWord, Bool.and_eq_true, decide_eq_true_eq, decide_eq_true_eq]
  exact Iff.rfl

theorem toNat_of_isDigit {c : Char} (h : isDigit c = true) : 0x30 ≤ c.toNat ∧ c.toNat ≤ 0x39 := by
  simpa [isDigit, Char.le_def, UInt32.le_iff_toNat_le] using h

theorem isPrinted_of_isDigit {c : Char} (h : isDigit c = true) : IsPrinted c := by
  have hbounds := toNat_of_isDigit h
  exact ⟨by omega, by omega⟩

/-- A stored integer begins with a minus sign or a digit. -/
theorem exists_storedInteger_eq_cons (value : Int) :
    ∃ c rest, storedInteger value = c :: rest ∧ 0x2D ≤ c.toNat ∧ c.toNat ≤ 0x39 := by
  rw [storedInteger]
  split
  · exact ⟨'-', _, rfl, by decide, by decide⟩
  · obtain ⟨digit, digits, hdigits⟩ := List.exists_cons_of_ne_nil
      (Text.decimal_ne_nil value.natAbs)
    have hmem : digit ∈ decimal value.natAbs := hdigits ▸ List.mem_cons_self
    have hbounds := toNat_of_isDigit (Text.isDigit_of_mem_decimal hmem)
    exact ⟨digit, digits, hdigits, by omega, hbounds.2⟩

theorem isPrinted_of_mem_storedInteger {value : Int} {c : Char} (hc : c ∈ storedInteger value) :
    IsPrinted c := by
  rw [storedInteger] at hc
  split at hc
  · rcases List.mem_cons.mp hc with rfl | hdigit
    · simp [IsPrinted]
    · exact isPrinted_of_isDigit (Text.isDigit_of_mem_decimal hdigit)
  · exact isPrinted_of_isDigit (Text.isDigit_of_mem_decimal hc)

/-- A stored integer of 64 bits is read back in the lenient dialect. -/
theorem lenientNumber_storedInteger {value : Int} (hword : isWord value = true)
    {rest : List Char} (hrest : Closes rest) :
    lenientNumber (storedInteger value ++ rest) = some (.integer value, rest) := by
  obtain ⟨hlow, hhigh⟩ := (isWord_iff value).mp hword
  rw [storedInteger]
  split
  · next hnegative =>
      have hsum : sumNegative? 0 (decimal value.natAbs) = some value.natAbs := by
        have hvalue := Text.decimalValue_decimal value.natAbs
        rw [decimalValue] at hvalue
        rw [sumNegative?_eq_some (by omega), hvalue]
      have hsigned : signedInteger true value.natAbs = value := by
        simp only [signedInteger, ↓reduceIte]
        omega
      rw [List.cons_append, lenientNumber, lenientMagnitude_decimal true _ hrest hsum, hsigned]
  · next hnegative =>
      have hsum : sumUnsigned? 0 (decimal value.natAbs) = some value.natAbs := by
        have hvalue := Text.decimalValue_decimal value.natAbs
        rw [decimalValue] at hvalue
        rw [sumUnsigned?_eq_some (by omega), hvalue]
      have hsigned : signedInteger false value.natAbs = value := by
        simp only [signedInteger, Bool.false_eq_true, ↓reduceIte]
        omega
      have hread := lenientMagnitude_decimal false _ hrest hsum
      rw [hsigned] at hread
      -- the first digit tells that this is a number without a sign
      obtain ⟨digit, digits, hdigits⟩ := List.exists_cons_of_ne_nil
        (Text.decimal_ne_nil value.natAbs)
      have hdigit : isDigit digit = true :=
        Text.isDigit_of_mem_decimal (hdigits ▸ List.mem_cons_self)
      have hminus : digit ≠ '-' := by
        rintro rfl
        exact absurd hdigit (by decide)
      rw [hdigits, List.cons_append] at hread ⊢
      rw [lenientNumber]
      · rw [hdigit]
        exact hread
      · exact hminus

end Integers

end GrammarSieve.Json
