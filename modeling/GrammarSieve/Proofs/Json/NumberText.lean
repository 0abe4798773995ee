/-
The texts of numbers.  Reading a number takes digits, signs, points and marks of an exponent for as
long as they fit, and it looks one character ahead at most.  What it takes is therefore taken
again, and for the same number, wherever no such character stands behind it.
-/
import GrammarSieve.Json.Lenient
import GrammarSieve.Text.Split
import Mathlib.Data.List.TakeWhile

namespace GrammarSieve.Json

open Text (isDigit decimalValue)

/-- The character can stand in a number. -/
def isNumberPart (c : Char) : Bool :=
  isDigit c || c = '.' || c = 'e' || c = 'E' || c = '+' || c = '-'

/-- A number ends before this text. -/
def EndsNumber (rest : List Char) : Prop :=
  ∀ c ∈ rest.head?, isNumberPart c = false

theorem isNumberPart_of_isDigit {c : Char} (h : isDigit c = true) : isNumberPart c = true := by
  simp [isNumberPart, h]

theorem EndsNumber.head_ne {rest : List Char} (h : EndsNumber rest) {c : Char}
    (hc : isNumberPart c = true) : ∀ d ∈ rest.head?, d ≠ c := by
  rintro d hd rfl
  rw [h d hd] at hc
  contradiction

theorem EndsNumber.not_isDigit {rest : List Char} (h : EndsNumber rest) :
    ∀ c ∈ rest.head?, isDigit c = false := by
  intro c hc
  rw [← Bool.not_eq_true]
  intro hdigit
  have hpart := isNumberPart_of_isDigit hdigit
  rw [h c hc] at hpart
  contradiction

/-- Reading takes these characters from the front of the text, and it takes them for the same
result wherever they stand before such a text. -/
structure Takes {α : Type} (ends : List Char → Prop) (read : List Char → α × List Char)
    (text taken : List Char) : Prop where
  text_eq : text = taken ++ (read text).2
  isNumberPart_of_mem : ∀ c ∈ taken, isNumberPart c = true
  read_append : ∀ rest, ends rest → read (taken ++ rest) = ((read text).1, rest)

theorem takes_spanDigits (text : List Char) :
    Takes (fun rest => ∀ c ∈ rest.head?, isDigit c = false) spanDigits text
      (text.takeWhile isDigit) where
  text_eq := List.takeWhile_append_dropWhile.symm
  isNumberPart_of_mem _ hc := isNumberPart_of_isDigit (List.mem_takeWhile_imp hc)
  read_append rest hrest := by
    have hdigits : ∀ c ∈ text.takeWhile isDigit, isDigit c = true :=
      fun c hc => List.mem_takeWhile_imp hc
    rw [spanDigits, Text.takeWhile_append_of_stop hdigits hrest,
      Text.dropWhile_append_of_stop hdigits hrest]
    rfl

theorem spanSign_of_head_ne {text : List Char} (h : ∀ c ∈ text.head?, c ≠ '-' ∧ c ≠ '+') :
    spanSign text = (false, text) := by
  rw [spanSign]
  · rintro rest rfl
    exact (h '-' rfl).1 rfl
  · rintro rest rfl
    exact (h '+' rfl).2 rfl

theorem exists_takes_spanSign (text : List Char) :
    ∃ sign, Takes (fun rest => ∀ c ∈ rest.head?, c ≠ '-' ∧ c ≠ '+') spanSign text sign := by
  fun_cases spanSign text with
  | case1 rest => exact ⟨['-'], rfl, by simp [isNumberPart], fun _ _ => rfl⟩
  | case2 rest => exact ⟨['+'], rfl, by simp [isNumberPart], fun _ _ => rfl⟩
  | case3 text hminus hplus =>
      have hhead : ∀ c ∈ text.head?, c ≠ '-' ∧ c ≠ '+' := by
        intro c hc
        rcases List.head?_eq_some_iff.mp hc with ⟨rest, rfl⟩
        constructor
        · rintro rfl
          exact hminus rest rfl
        · rintro rfl
          exact hplus rest rfl
      refine ⟨[], ?_, by simp, ?_⟩
      · rw [spanSign_of_head_ne hhead, List.nil_append]
      · intro rest hrest
        rw [List.nil_append, spanSign_of_head_ne hhead, spanSign_of_head_ne hrest]

/-- Digits do not look like a sign. -/
theorem head_ne_sign {digits rest : List Char} (hdigits : ∀ c ∈ digits, isDigit c = true)
    (hrest : EndsNumber rest) : ∀ c ∈ (digits ++ rest).head?, c ≠ '-' ∧ c ≠ '+' := by
  cases digits with
  | nil =>
      intro c hc
      exact ⟨hrest.head_ne (by decide) c hc, hrest.head_ne (by decide) c hc⟩
  | cons digit digits =>
      rintro c ⟨⟩
      have hdigit := hdigits digit List.mem_cons_self
      constructor
      · rintro rfl
        exact absurd hdigit (by decide)
      · rintro rfl
        exact absurd hdigit (by decide)

theorem exists_takes_lenientExponent (text : List Char) :
    ∃ taken, Takes EndsNumber lenientExponent text taken := by
  rcases exists_takes_spanSign text with ⟨sign, hsign⟩
  have hdigits := takes_spanDigits (spanSign text).2
  refine ⟨sign ++ (spanSign text).2.takeWhile isDigit, ?_, ?_, ?_⟩
  · rw [List.append_assoc]
    exact hsign.text_eq.trans (congrArg (sign ++ ·) hdigits.text_eq)
  · intro c hc
    rcases List.mem_append.mp hc with hc | hc
    · exact hsign.isNumberPart_of_mem c hc
    · exact hdigits.isNumberPart_of_mem c hc
  · intro rest hrest
    have hhead := head_ne_sign
      (fun c (hc : c ∈ (spanSign text).2.takeWhile isDigit) => List.mem_takeWhile_imp hc) hrest
    rw [List.append_assoc, lenientExponent, hsign.read_append _ hhead]
    simp only [hdigits.read_append rest hrest.not_isDigit]
    rfl

section

variable (negative : Bool) (whole : Nat) (fraction : List Char)

/-- The number that is put together from its whole part and its fraction. -/
def realBase : Binary64 :=
  let counted := fraction.take fractionLimit
  let size := Binary64.ofPlaces whole (decimalValue counted) counted.length
  if negative then size.neg else size

/-- Behind a mark of the exponent, reading a real number is reading the exponent. -/
theorem lenientReal_mark {mark : Char} (hmark : mark = 'e' ∨ mark = 'E') (afterMark : List Char) :
    lenientReal negative whole fraction (mark :: afterMark) =
      (.real ((realBase negative whole fraction).mul
        (Binary64.powerOfTen (lenientExponent afterMark).1)), (lenientExponent afterMark).2) := by
  rcases hmark with rfl | rfl
  · rfl
  · rfl

/-- Without such a mark, the number ends with its fraction. -/
theorem lenientReal_of_head_ne {text : List Char} (h : ∀ c ∈ text.head?, c ≠ 'e' ∧ c ≠ 'E') :
    lenientReal negative whole fraction text = (.real (realBase negative whole fraction), text) := by
  rw [lenientReal]
  · rfl
  · rintro rest rfl
    exact (h 'e' rfl).1 rfl
  · rintro rest rfl
    exact (h 'E' rfl).2 rfl

theorem takes_lenientReal_mark {mark : Char} (hmark : mark = 'e' ∨ mark = 'E')
    {afterMark taken : List Char} (h : Takes EndsNumber lenientExponent afterMark taken) :
    Takes EndsNumber (lenientReal negative whole fraction) (mark :: afterMark) (mark :: taken) where
  text_eq := by
    rw [lenientReal_mark _ _ _ hmark, List.cons_append]
    exact congrArg (mark :: ·) h.text_eq
  isNumberPart_of_mem := by
    rw [List.forall_mem_cons]
    refine ⟨?_, h.isNumberPart_of_mem⟩
    rcases hmark with rfl | rfl
    · decide
    · decide
  read_append rest hrest := by
    rw [List.cons_append, lenientReal_mark _ _ _ hmark, lenientReal_mark _ _ _ hmark,
      h.read_append rest hrest]

/-- Either there is a mark in front or there is none. -/
theorem mark_or_head_ne (text : List Char) :
    (∃ mark afterMark, text = mark :: afterMark ∧ (mark = 'e' ∨ mark = 'E')) ∨
      ∀ c ∈ text.head?, c ≠ 'e' ∧ c ≠ 'E' := by
  cases text with
  | nil => exact .inr (by simp)
  | cons c rest =>
      by_cases hc : c = 'e' ∨ c = 'E'
      · exact .inl ⟨c, rest, rfl, hc⟩
      · exact .inr (by simpa using hc)

theorem exists_takes_lenientReal (text : List Char) :
    ∃ taken, Takes EndsNumber (lenientReal negative whole fraction) text taken ∧
      ∀ c ∈ taken.head?, isDigit c = false := by
  rcases mark_or_head_ne text with ⟨mark, afterMark, rfl, hmark⟩ | hhead
  · rcases exists_takes_lenientExponent afterMark with ⟨taken, htaken⟩
    refine ⟨mark :: taken, takes_lenientReal_mark _ _ _ hmark htaken, ?_⟩
    rcases hmark with rfl | rfl
    · simp [isDigit]
    · simp [isDigit]
  · refine ⟨[], ⟨?_, by simp, ?_⟩, by simp⟩
    · rw [lenientReal_of_head_ne _ _ _ hhead, List.nil_append]
    · intro rest hrest
      have hends : ∀ c ∈ rest.head?, c ≠ 'e' ∧ c ≠ 'E' := fun c hc =>
        ⟨hrest.head_ne (by decide) c hc, hrest.head_ne (by decide) c hc⟩
      rw [List.nil_append, lenientReal_of_head_ne _ _ _ hhead, lenientReal_of_head_ne _ _ _ hends]

end

/-- The rest of a number whose whole part has been summed up. -/
def afterWhole (negative : Bool) (whole : Nat) : List Char → Json × List Char
  | '.' :: afterPoint =>
      lenientReal negative whole (spanDigits afterPoint).1 (spanDigits afterPoint).2
  | 'e' :: rest => lenientReal negative whole [] ('e' :: rest)
  | 'E' :: rest => lenientReal negative whole [] ('E' :: rest)
  | rest => (.integer (signedInteger negative whole), rest)

theorem lenientMagnitude_eq (negative : Bool) (text : List Char) :
    lenientMagnitude negative text =
      (if negative then sumNegative? 0 (spanDigits text).1
        else sumUnsigned? 0 (spanDigits text).1).map
          fun whole => afterWhole negative whole (spanDigits text).2 := by
  rw [lenientMagnitude]
  dsimp only
  split
  · next hnone => rw [hnone, Option.map_none]
  · next whole hsum =>
      rw [hsum, Option.map_some]
      split
      · next hpoint => rw [hpoint, afterWhole]
      · next hmark => rw [hmark, afterWhole]
      · next hmark => rw [hmark, afterWhole]
      · next hpoint hlow hhigh =>
          rw [afterWhole]
          · exact hpoint
          · exact hlow
          · exact hhigh

theorem afterWhole_mark (negative : Bool) (whole : Nat) {mark : Char}
    (hmark : mark = 'e' ∨ mark = 'E') (rest : List Char) :
    afterWhole negative whole (mark :: rest) = lenientReal negative whole [] (mark :: rest) := by
  rcases hmark with rfl | rfl
  · rfl
  · rfl

theorem afterWhole_of_head_ne (negative : Bool) (whole : Nat) {text : List Char}
    (hpoint : ∀ c ∈ text.head?, c ≠ '.') (hmark : ∀ c ∈ text.head?, c ≠ 'e' ∧ c ≠ 'E') :
    afterWhole negative whole text = (.integer (signedInteger negative whole), text) := by
  rw [afterWhole]
  · rintro rest rfl
    exact hpoint '.' rfl rfl
  · rintro rest rfl
    exact (hmark 'e' rfl).1 rfl
  · rintro rest rfl
    exact (hmark 'E' rfl).2 rfl

/-- Behind a point, the fraction and the exponent are taken. -/
theorem takes_afterWhole_point (negative : Bool) (whole : Nat) {afterPoint taken : List Char}
    (h : Takes EndsNumber (lenientReal negative whole (spanDigits afterPoint).1)
      (spanDigits afterPoint).2 taken) (hhead : ∀ c ∈ taken.head?, isDigit c = false) :
    Takes EndsNumber (afterWhole negative whole) ('.' :: afterPoint)
      ('.' :: ((spanDigits afterPoint).1 ++ taken)) where
  text_eq := by
    rw [List.cons_append, List.append_assoc]
    exact congrArg ('.' :: ·) ((takes_spanDigits afterPoint).text_eq.trans
      (congrArg ((spanDigits afterPoint).1 ++ ·) h.text_eq))
  isNumberPart_of_mem := by
    rw [List.forall_mem_cons]
    refine ⟨by decide, ?_⟩
    intro c hc
    rcases List.mem_append.mp hc with hc | hc
    · exact (takes_spanDigits afterPoint).isNumberPart_of_mem c hc
    · exact h.isNumberPart_of_mem c hc
  read_append rest hrest := by
    have hends : ∀ c ∈ (taken ++ rest).head?, isDigit c = false := by
      cases taken with
      | nil => exact hrest.not_isDigit
      | cons c taken => exact hhead
    have hspan : spanDigits ((spanDigits afterPoint).1 ++ (taken ++ rest)) =
        ((spanDigits afterPoint).1, taken ++ rest) :=
      (takes_spanDigits afterPoint).read_append _ hends
    rw [List.cons_append, List.append_assoc, afterWhole, hspan]
    exact h.read_append rest hrest

theorem exists_takes_afterWhole (negative : Bool) (whole : Nat) (text : List Char) :
    ∃ taken, Takes EndsNumber (afterWhole negative whole) text taken ∧
      ∀ c ∈ taken.head?, isDigit c = false := by
  rcases mark_or_head_ne text with ⟨mark, afterMark, rfl, hmark⟩ | hhead
  · rcases exists_takes_lenientExponent afterMark with ⟨taken, htaken⟩
    have hreal := takes_lenientReal_mark negative whole [] hmark htaken
    refine ⟨mark :: taken, ⟨?_, hreal.isNumberPart_of_mem, ?_⟩, ?_⟩
    · rw [afterWhole_mark negative whole hmark]
      exact hreal.text_eq
    · intro rest hrest
      rw [List.cons_append, afterWhole_mark negative whole hmark,
        afterWhole_mark negative whole hmark]
      exact hreal.read_append rest hrest
    · rcases hmark with rfl | rfl
      · simp [isDigit]
      · simp [isDigit]
  · by_cases hpoint : text.head? = some '.'
    · rcases List.head?_eq_some_iff.mp hpoint with ⟨afterPoint, rfl⟩
      rcases exists_takes_lenientReal negative whole (spanDigits afterPoint).1
        (spanDigits afterPoint).2 with ⟨taken, htaken, hmark⟩
      exact ⟨_, takes_afterWhole_point negative whole htaken hmark, by simp [isDigit]⟩
    · have hother : ∀ c ∈ text.head?, c ≠ '.' := by
        rintro c hc rfl
        exact hpoint hc
      refine ⟨[], ⟨?_, by simp, ?_⟩, by simp⟩
      · rw [afterWhole_of_head_ne negative whole hother hhead, List.nil_append]
      · intro rest hrest
        have hends : ∀ c ∈ rest.head?, c ≠ 'e' ∧ c ≠ 'E' := fun c hc =>
          ⟨hrest.head_ne (by decide) c hc, hrest.head_ne (by decide) c hc⟩
        rw [List.nil_append, afterWhole_of_head_ne negative whole hother hhead,
          afterWhole_of_head_ne negative whole (hrest.head_ne (by decide)) hends]

/-- Reading a number takes these characters, and takes them for the same number wherever a number
may end behind them. -/
structure TakesNumber (read : List Char → Option (Json × List Char)) (text taken : List Char)
    (value : Json) (rest : List Char) : Prop where
  text_eq : text = taken ++ rest
  isNumberPart_of_mem : ∀ c ∈ taken, isNumberPart c = true
  read_append : ∀ other, EndsNumber other → read (taken ++ other) = some (value, other)

theorem exists_takesNumber_lenientMagnitude {negative : Bool} {text rest : List Char}
    {value : Json} (h : lenientMagnitude negative text = some (value, rest)) :
    ∃ more, TakesNumber (lenientMagnitude negative) text ((spanDigits text).1 ++ more) value
      rest := by
  have hdigits := takes_spanDigits text
  rw [lenientMagnitude_eq, Option.map_eq_some_iff] at h
  rcases h with ⟨whole, hsum, hrest⟩
  rcases exists_takes_afterWhole negative whole (spanDigits text).2 with ⟨taken, htaken, hhead⟩
  obtain rfl : value = (afterWhole negative whole (spanDigits text).2).1 := by rw [hrest]
  obtain rfl : rest = (afterWhole negative whole (spanDigits text).2).2 := by rw [hrest]
  refine ⟨taken, ?_, ?_, ?_⟩
  · rw [List.append_assoc, ← htaken.text_eq]
    exact hdigits.text_eq
  · intro c hc
    rcases List.mem_append.mp hc with hc | hc
    · exact hdigits.isNumberPart_of_mem c hc
    · exact htaken.isNumberPart_of_mem c hc
  · intro other hother
    have hends : ∀ c ∈ (taken ++ other).head?, isDigit c = false := by
      cases taken with
      | nil => exact hother.not_isDigit
      | cons c taken => exact hhead
    have hspan : spanDigits ((spanDigits text).1 ++ (taken ++ other)) =
        ((spanDigits text).1, taken ++ other) := hdigits.read_append _ hends
    rw [List.append_assoc, lenientMagnitude_eq, hspan, hsum, Option.map_some,
      htaken.read_append other hother]

theorem lenientNumber_of_isDigit {c : Char} (h : isDigit c = true) (rest : List Char) :
    lenientNumber (c :: rest) = lenientMagnitude false (c :: rest) := by
  rw [lenientNumber, if_pos h]
  rintro rfl
  exact absurd h (by decide)

/-- A lenient number begins with a minus sign or a digit. -/
theorem exists_takesNumber_lenientNumber {text rest : List Char} {value : Json}
    (h : lenientNumber text = some (value, rest)) :
    ∃ first more, (first = '-' ∨ isDigit first = true) ∧
      TakesNumber lenientNumber text (first :: more) value rest := by
  fun_cases lenientNumber text with
  | case1 => contradiction
  | case2 afterSign =>
      rcases exists_takesNumber_lenientMagnitude h with ⟨more, hmore⟩
      refine ⟨'-', _, .inl rfl, ?_, ?_, hmore.read_append⟩
      · rw [List.cons_append]
        exact congrArg ('-' :: ·) hmore.text_eq
      · rw [List.forall_mem_cons]
        exact ⟨by decide, hmore.isNumberPart_of_mem⟩
  | case3 first others _ hdigit =>
      rw [lenientNumber_of_isDigit hdigit] at h
      rcases exists_takesNumber_lenientMagnitude h with ⟨more, hmore⟩
      have hspan : (spanDigits (first :: others)).1 = first :: (spanDigits others).1 :=
        List.takeWhile_cons_of_pos hdigit
      rw [hspan, List.cons_append] at hmore
      refine ⟨first, _, .inr hdigit, hmore.text_eq, hmore.isNumberPart_of_mem, ?_⟩
      intro other hother
      rw [List.cons_append, lenientNumber_of_isDigit hdigit, ← List.cons_append]
      exact hmore.read_append other hother
  | case4 first others hsign hdigit =>
      rw [lenientNumber, if_neg hdigit] at h
      · contradiction
      · exact hsign

end GrammarSieve.Json
