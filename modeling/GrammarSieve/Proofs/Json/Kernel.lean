/-
The kernels of values.  A kernel is what is left of a text of a value without the gaps around it: it
begins and ends with characters that are not blank, and it is read as the value with anything behind
it before which a value may end.  Kernels make up the texts of arrays and objects, which are kernels
themselves.  How much fuel and room there is does not matter, as long as there is enough: the length
of the kernel always is.
-/
import GrammarSieve.Proofs.Json.NumberText
import GrammarSieve.Proofs.Json.RoundTrip
import GrammarSieve.Text.Blank

namespace GrammarSieve.Json

open Text (isDigit isBlank)

/-- A value may end before this text. -/
def EndsValue (rest : List Char) : Prop :=
  ∀ c ∈ rest.head?, isGap c = true ∨ c = ',' ∨ c = ']' ∨ c = '\x7d'

theorem EndsValue.endsNumber {rest : List Char} (h : EndsValue rest) : EndsNumber rest := by
  intro c hc
  rcases h c hc with hgap | rfl | rfl | rfl
  · simp only [isGap, Bool.or_eq_true, decide_eq_true_eq] at hgap
    rcases hgap with ((rfl | rfl) | rfl) | rfl <;> decide
  · decide
  · decide
  · decide

section Gaps

variable {gaps : List Char}

theorem skipGaps_append (h : ∀ c ∈ gaps, isGap c = true) (rest : List Char) :
    skipGaps (gaps ++ rest) = skipGaps rest :=
  List.dropWhile_append_of_pos h

theorem exists_gaps (text : List Char) :
    ∃ gaps, (∀ c ∈ gaps, isGap c = true) ∧ text = gaps ++ skipGaps text :=
  ⟨text.takeWhile isGap, fun _ hc => List.mem_takeWhile_imp hc,
    List.takeWhile_append_dropWhile.symm⟩

theorem isGap_eq_false_of_mem_head? {text : List Char} :
    ∀ c ∈ (skipGaps text).head?, isGap c = false :=
  Text.eq_false_of_mem_head?_dropWhile

/-- Before a mark that closes or separates, a value may end with gaps behind it. -/
theorem endsValue_gaps (h : ∀ c ∈ gaps, isGap c = true) {mark : Char}
    (hmark : mark = ',' ∨ mark = ']' ∨ mark = '\x7d') (rest : List Char) :
    EndsValue (gaps ++ mark :: rest) := by
  cases gaps with
  | nil =>
      rintro c ⟨⟩
      exact .inr hmark
  | cons gap gaps =>
      rintro c ⟨⟩
      exact .inl (h gap List.mem_cons_self)

theorem endsValue_of_gaps (h : ∀ c ∈ gaps, isGap c = true) : EndsValue gaps :=
  fun _ hc => .inl (h _ (List.mem_of_mem_head? hc))

theorem isBlank_of_isGap {c : Char} (h : isGap c = true) : isBlank c = true := by
  simp only [isGap, Bool.or_eq_true, decide_eq_true_eq] at h
  rcases h with ((rfl | rfl) | rfl) | rfl <;> decide

theorem isGap_eq_false_of_isBlank {c : Char} (h : isBlank c = false) : isGap c = false := by
  rw [← Bool.not_eq_true]
  intro hgap
  rw [isBlank_of_isGap hgap] at h
  contradiction

variable {dialect : Dialect}

theorem readValue_gaps (h : ∀ c ∈ gaps, isGap c = true) (fuel room : Nat) (text : List Char) :
    readValue dialect fuel room (gaps ++ text) = readValue dialect fuel room text := by
  cases fuel with
  | zero => rfl
  | succ fuel => rw [readValue, readValue, skipGaps_append h]

end Gaps

/-- The text of a value without the gaps around it. -/
structure IsKernel (kernel : List Char) : Prop where
  first : ∃ c rest, kernel = c :: rest ∧ isBlank c = false ∧ c ≠ ']' ∧ c ≠ '\x7d'
  last : ∀ c ∈ kernel.getLast?, isBlank c = false

section Reading

variable (dialect : Dialect)

/-- The kernel is read as the value, with so much room or more. -/
structure ReadsKernel (room : Nat) (kernel : List Char) (value : Json) : Prop where
  isKernel : IsKernel kernel
  readValue_append : ∀ levels fuel larger rest, kernel.length ≤ fuel → room ≤ larger →
    EndsValue rest →
      readValue { dialect with levels } fuel larger (kernel ++ rest) = some (value, rest)

/-- The items of an array and its closing mark. -/
structure ReadsItems (room : Nat) (taken : List Char) (items : List Json) : Prop where
  getLast?_eq : taken.getLast? = some ']'
  readItems_append : ∀ levels fuel larger rest, taken.length ≤ fuel → room ≤ larger →
    readItems { dialect with levels } fuel larger (taken ++ rest) = some (items, rest)

/-- The members of an object and its closing mark. -/
structure ReadsMembers (room : Nat) (taken : List Char) (entries : List (String × Json)) :
    Prop where
  getLast?_eq : taken.getLast? = some '\x7d'
  readMembers_append : ∀ levels fuel larger rest, taken.length ≤ fuel → room ≤ larger →
    readMembers { dialect with levels } fuel larger (taken ++ rest) = some (entries, rest)

/-- What is asked of the numbers of a dialect: they begin as numbers do, and they are read
whatever stands behind them. -/
def Dialect.TakesNumbers : Prop :=
  ∀ text value rest, dialect.number text = some (value, rest) →
    ∃ first more, (first = '-' ∨ isDigit first = true) ∧
      TakesNumber dialect.number text (first :: more) value rest

end Reading

theorem takesNumbers_lenient : lenient.TakesNumbers :=
  fun _ _ _ => exists_takesNumber_lenientNumber

section Building

variable {dialect : Dialect} {fuel room : Nat} {text rest : List Char}

/-- The last item stands before the closing mark. -/
theorem readsItems_last {before kernel after : List Char} {item : Json}
    (hbefore : ∀ c ∈ before, isGap c = true) (hafter : ∀ c ∈ after, isGap c = true)
    (h : ReadsKernel dialect room kernel item) :
    ReadsItems dialect room (before ++ (kernel ++ (after ++ [']']))) [item] where
  getLast?_eq := by simp
  readItems_append levels fuel larger rest hfuel hroom := by
    simp only [List.length_append, List.length_singleton] at hfuel
    rcases fuel with _ | fuel
    · omega
    · have hitem := h.readValue_append levels fuel larger (after ++ ']' :: rest) (by omega) hroom
        (endsValue_gaps hafter (by simp) rest)
      simp only [List.append_assoc, List.singleton_append]
      rw [readItems, readValue_gaps hbefore, hitem]
      simp only [skipGaps_append hafter, skipGaps_cons (c := ']') (by decide)]

/-- An item stands before a comma and the other items. -/
theorem readsItems_cons {before kernel after taken : List Char} {item : Json} {others : List Json}
    (hbefore : ∀ c ∈ before, isGap c = true) (hafter : ∀ c ∈ after, isGap c = true)
    (h : ReadsKernel dialect room kernel item) (hothers : ReadsItems dialect room taken others) :
    ReadsItems dialect room (before ++ (kernel ++ (after ++ ',' :: taken))) (item :: others) where
  getLast?_eq := by simp [List.getLast?_append, List.getLast?_cons, hothers.getLast?_eq]
  readItems_append levels fuel larger rest hfuel hroom := by
    simp only [List.length_append, List.length_cons] at hfuel
    rcases fuel with _ | fuel
    · omega
    · have hitem := h.readValue_append levels fuel larger (after ++ ',' :: (taken ++ rest))
        (by omega) hroom (endsValue_gaps hafter (by simp) _)
      have htaken := hothers.readItems_append levels fuel larger rest (by omega) hroom
      simp only [List.append_assoc, List.cons_append]
      rw [readItems, readValue_gaps hbefore, hitem]
      simp only [skipGaps_append hafter, skipGaps_cons (c := ',') (by decide), htaken]

/-- What stands before the value of a member: its key between quotes, a colon, and gaps. -/
structure IsKeyText (raw : Char → Bool) (front : List Char) (key : String) : Prop where
  exists_parts : ∃ before inside between behind,
    front = before ++ '"' :: (inside ++ '"' :: (between ++ ':' :: behind)) ∧
      (∀ c ∈ before, isGap c = true) ∧ (∀ c ∈ between, isGap c = true) ∧
      (∀ c ∈ behind, isGap c = true) ∧
      ∀ other, readString raw (inside ++ '"' :: other) = some (key, other)

/-- Behind its key, the value of a member is read, and then the others or the end. -/
theorem readMembers_key (dialect : Dialect) {front : List Char} {key : String}
    (h : IsKeyText dialect.rawCharacter front key) (fuel room : Nat) (text : List Char) :
    readMembers dialect (fuel + 1) room (front ++ text) =
      match readValue dialect fuel room text with
      | none => none
      | some (value, rest) =>
          match skipGaps rest with
          | '\x7d' :: rest => some ([(key, value)], rest)
          | ',' :: rest =>
              match readMembers dialect fuel room rest with
              | none => none
              | some (entries, rest) => some ((key, value) :: entries, rest)
          | _ => none := by
  rcases h.exists_parts with
    ⟨before, inside, between, behind, rfl, hbefore, hbetween, hbehind, hinside⟩
  have hread := readMembers.eq_2 dialect room
    (before ++ '"' :: (inside ++ '"' :: (between ++ ':' :: (behind ++ text)))) fuel
  rw [skipGaps_append hbefore, skipGaps_cons (by decide)] at hread
  simp only [hinside, skipGaps_append hbetween, skipGaps_cons (c := ':') (by decide),
    readValue_gaps hbehind] at hread
  simp only [List.append_assoc, List.cons_append]
  exact hread

/-- The last member stands before the closing mark. -/
theorem readsMembers_last {front kernel after : List Char} {key : String} {value : Json}
    (hfront : IsKeyText dialect.rawCharacter front key) (hafter : ∀ c ∈ after, isGap c = true)
    (h : ReadsKernel dialect room kernel value) :
    ReadsMembers dialect room (front ++ (kernel ++ (after ++ ['\x7d']))) [(key, value)] where
  getLast?_eq := by simp
  readMembers_append levels fuel larger rest hfuel hroom := by
    simp only [List.length_append, List.length_singleton] at hfuel
    rcases fuel with _ | fuel
    · omega
    · have hvalue := h.readValue_append levels fuel larger (after ++ '\x7d' :: rest) (by omega)
        hroom (endsValue_gaps hafter (by simp) rest)
      simp only [List.append_assoc, List.singleton_append]
      rw [readMembers_key { dialect with levels } hfront, hvalue]
      simp only [skipGaps_append hafter, skipGaps_cons (c := '\x7d') (by decide)]

/-- A member stands before a comma and the other members. -/
theorem readsMembers_cons {front kernel after taken : List Char} {key : String} {value : Json}
    {others : List (String × Json)} (hfront : IsKeyText dialect.rawCharacter front key)
    (hafter : ∀ c ∈ after, isGap c = true) (h : ReadsKernel dialect room kernel value)
    (hothers : ReadsMembers dialect room taken others) :
    ReadsMembers dialect room (front ++ (kernel ++ (after ++ ',' :: taken)))
      ((key, value) :: others) where
  getLast?_eq := by simp [List.getLast?_append, List.getLast?_cons, hothers.getLast?_eq]
  readMembers_append levels fuel larger rest hfuel hroom := by
    simp only [List.length_append, List.length_cons] at hfuel
    rcases fuel with _ | fuel
    · omega
    · have hvalue := h.readValue_append levels fuel larger (after ++ ',' :: (taken ++ rest))
        (by omega) hroom (endsValue_gaps hafter (by simp) _)
      have htaken := hothers.readMembers_append levels fuel larger rest (by omega) hroom
      simp only [List.append_assoc, List.cons_append]
      rw [readMembers_key { dialect with levels } hfront, hvalue]
      simp only [skipGaps_append hafter, skipGaps_cons (c := ',') (by decide), htaken]

/-- Behind the opening mark, the items of an array are read if it does not close at once. -/
theorem readValue_array (dialect : Dialect) {text : List Char}
    (h : ∀ c ∈ (skipGaps text).head?, c ≠ ']') (fuel room : Nat) :
    readValue dialect (fuel + 1) (room + 1) ('[' :: text) =
      (readItems dialect fuel room (skipGaps text)).map fun found => (.array found.1, found.2) := by
  rw [readValue, skipGaps_cons (by decide)]
  simp only
  split
  · next rest hclosing => exact absurd rfl (h ']' (by rw [hclosing]; rfl))
  · cases readItems dialect fuel room (skipGaps text) with
    | none => rfl
    | some found => rfl

/-- The same for the members of an object. -/
theorem readValue_object (dialect : Dialect) {text : List Char}
    (h : ∀ c ∈ (skipGaps text).head?, c ≠ '\x7d') (fuel room : Nat) :
    readValue dialect (fuel + 1) (room + 1) ('\x7b' :: text) =
      (readMembers dialect fuel room (skipGaps text)).map
        fun found => (.object (Members.ofList found.1), found.2) := by
  rw [readValue, skipGaps_cons (by decide)]
  simp only
  split
  · next rest hclosing => exact absurd rfl (h '\x7d' (by rw [hclosing]; rfl))
  · cases readMembers dialect fuel room (skipGaps text) with
    | none => rfl
    | some found => rfl

theorem isKernel_of_getLast? {c : Char} {rest : List Char} (last : Char)
    (hfirst : isBlank c = false ∧ c ≠ ']' ∧ c ≠ '\x7d')
    (hrest : (c :: rest).getLast? = some last) (hlast : isBlank last = false) :
    IsKernel (c :: rest) where
  first := ⟨c, rest, rfl, hfirst⟩
  last := by
    rintro d hd
    rw [hrest] at hd
    rcases hd with ⟨⟩
    exact hlast

/-- An array without items has nothing but gaps between its marks. -/
theorem readsKernel_array_nil {gaps : List Char} (hgaps : ∀ c ∈ gaps, isGap c = true) :
    ReadsKernel dialect 1 ('[' :: (gaps ++ [']'])) (.array []) where
  isKernel := isKernel_of_getLast? ']' (by decide) (by simp [List.getLast?_cons]) (by decide)
  readValue_append levels fuel larger rest hfuel hroom hrest := by
    rcases fuel with _ | fuel
    · simp at hfuel
    · rcases larger with _ | larger
      · omega
      · simp only [List.cons_append, List.append_assoc, List.nil_append]
        rw [readValue, skipGaps_cons (by decide)]
        simp only [skipGaps_append hgaps, skipGaps_cons (c := ']') (by decide)]

theorem readsKernel_object_nil {gaps : List Char} (hgaps : ∀ c ∈ gaps, isGap c = true) :
    ReadsKernel dialect 1 ('\x7b' :: (gaps ++ ['\x7d'])) (.object []) where
  isKernel := isKernel_of_getLast? '\x7d' (by decide) (by simp [List.getLast?_cons]) (by decide)
  readValue_append levels fuel larger rest hfuel hroom hrest := by
    rcases fuel with _ | fuel
    · simp at hfuel
    · rcases larger with _ | larger
      · omega
      · simp only [List.cons_append, List.append_assoc, List.nil_append]
        rw [readValue, skipGaps_cons (by decide)]
        simp only [skipGaps_append hgaps, skipGaps_cons (c := '\x7d') (by decide)]

theorem skipGaps_eq_self {text : List Char} (h : ∀ c ∈ text.head?, isGap c = false) :
    skipGaps text = text := by
  cases text with
  | nil => rfl
  | cons c rest => exact skipGaps_cons (h c rfl) rest

theorem head?_append_of_getLast? {taken : List Char} {last : Char}
    (h : taken.getLast? = some last) (rest : List Char) : (taken ++ rest).head? = taken.head? := by
  cases taken with
  | nil => simp at h
  | cons c taken => rfl

/-- The items of an array stand behind its opening mark. -/
theorem readsKernel_array {gaps taken : List Char} {items : List Json}
    (hgaps : ∀ c ∈ gaps, isGap c = true)
    (hfirst : ∀ c ∈ taken.head?, isGap c = false ∧ c ≠ ']')
    (h : ReadsItems dialect room taken items) :
    ReadsKernel dialect (room + 1) ('[' :: (gaps ++ taken)) (.array items) where
  isKernel := isKernel_of_getLast? ']' (by decide)
    (by simp [List.getLast?_cons, List.getLast?_append, h.getLast?_eq]) (by decide)
  readValue_append levels fuel larger rest hfuel hroom hrest := by
    simp only [List.length_append, List.length_cons] at hfuel
    rcases fuel with _ | fuel
    · omega
    · rcases larger with _ | larger
      · omega
      · have hitems := h.readItems_append levels fuel larger rest (by omega) (by omega)
        rw [← head?_append_of_getLast? h.getLast?_eq rest] at hfirst
        have hskip : skipGaps (gaps ++ (taken ++ rest)) = taken ++ rest := by
          rw [skipGaps_append hgaps, skipGaps_eq_self fun c hc => (hfirst c hc).1]
        rw [List.cons_append, List.append_assoc, readValue_array, hskip, hitems]
        · rfl
        · rw [hskip]
          exact fun c hc => (hfirst c hc).2

/-- The members of an object stand behind its opening mark. -/
theorem readsKernel_object {gaps taken : List Char} {entries : List (String × Json)}
    (hgaps : ∀ c ∈ gaps, isGap c = true)
    (hfirst : ∀ c ∈ taken.head?, isGap c = false ∧ c ≠ '\x7d')
    (h : ReadsMembers dialect room taken entries) :
    ReadsKernel dialect (room + 1) ('\x7b' :: (gaps ++ taken))
      (.object (Members.ofList entries)) where
  isKernel := isKernel_of_getLast? '\x7d' (by decide)
    (by simp [List.getLast?_cons, List.getLast?_append, h.getLast?_eq]) (by decide)
  readValue_append levels fuel larger rest hfuel hroom hrest := by
    simp only [List.length_append, List.length_cons] at hfuel
    rcases fuel with _ | fuel
    · omega
    · rcases larger with _ | larger
      · omega
      · have hmembers := h.readMembers_append levels fuel larger rest (by omega) (by omega)
        rw [← head?_append_of_getLast? h.getLast?_eq rest] at hfirst
        have hskip : skipGaps (gaps ++ (taken ++ rest)) = taken ++ rest := by
          rw [skipGaps_append hgaps, skipGaps_eq_self fun c hc => (hfirst c hc).1]
        rw [List.cons_append, List.append_assoc, readValue_object, hskip, hmembers]
        · rfl
        · rw [hskip]
          exact fun c hc => (hfirst c hc).2

theorem readsKernel_string {inside : List Char} {value : String}
    (h : ∀ other, readString dialect.rawCharacter (inside ++ '"' :: other) = some (value, other)) :
    ReadsKernel dialect 0 ('"' :: (inside ++ ['"'])) (.string value) where
  isKernel := isKernel_of_getLast? '"' (by decide) (by simp [List.getLast?_cons]) (by decide)
  readValue_append levels fuel larger rest hfuel hroom hrest := by
    rcases fuel with _ | fuel
    · simp at hfuel
    · simp only [List.cons_append, List.append_assoc, List.nil_append]
      rw [readValue, skipGaps_cons (by decide)]
      simp only [h]

theorem readsKernel_null : ReadsKernel dialect 0 ['n', 'u', 'l', 'l'] .null where
  isKernel := isKernel_of_getLast? 'l' (by decide) rfl (by decide)
  readValue_append levels fuel larger rest hfuel hroom hrest := by
    rcases fuel with _ | fuel
    · simp at hfuel
    · simp [readValue, skipGaps, isGap]

theorem readsKernel_true : ReadsKernel dialect 0 ['t', 'r', 'u', 'e'] (.bool true) where
  isKernel := isKernel_of_getLast? 'e' (by decide) rfl (by decide)
  readValue_append levels fuel larger rest hfuel hroom hrest := by
    rcases fuel with _ | fuel
    · simp at hfuel
    · simp [readValue, skipGaps, isGap]

theorem readsKernel_false : ReadsKernel dialect 0 ['f', 'a', 'l', 's', 'e'] (.bool false) where
  isKernel := isKernel_of_getLast? 'e' (by decide) rfl (by decide)
  readValue_append levels fuel larger rest hfuel hroom hrest := by
    rcases fuel with _ | fuel
    · simp at hfuel
    · simp [readValue, skipGaps, isGap]

theorem isBlank_eq_false_of_isNumberPart {c : Char} (h : isNumberPart c = true) :
    isBlank c = false := by
  simp only [isNumberPart, Bool.or_eq_true, decide_eq_true_eq] at h
  rcases h with ((((hdigit | rfl) | rfl) | rfl) | rfl) | rfl
  · have hbounds := toNat_of_isDigit hdigit
    simp [isBlank]
    omega
  · decide
  · decide
  · decide
  · decide
  · decide

theorem toNat_of_opens {first : Char} (h : first = '-' ∨ isDigit first = true) :
    0x2D ≤ first.toNat ∧ first.toNat ≤ 0x39 := by
  rcases h with rfl | hdigit
  · decide
  · have hbounds := toNat_of_isDigit hdigit
    omega

theorem readsKernel_number {first : Char} {more : List Char} {value : Json}
    (hfirst : first = '-' ∨ isDigit first = true)
    (h : TakesNumber dialect.number text (first :: more) value rest) :
    ReadsKernel dialect 0 (first :: more) value := by
  have hbounds := toNat_of_opens hfirst
  have hblank : ∀ c ∈ first :: more, isBlank c = false :=
    fun c hc => isBlank_eq_false_of_isNumberPart (h.isNumberPart_of_mem c hc)
  have hopening := isOpening_of_toNat hbounds.1 hbounds.2
  refine ⟨⟨⟨first, more, rfl, hblank first List.mem_cons_self, hopening.2⟩, ?_⟩, ?_⟩
  · intro c hc
    exact hblank c (List.mem_of_getLast? hc)
  · intro levels fuel larger rest hfuel _ hrest
    rcases fuel with _ | fuel
    · simp at hfuel
    · rw [List.cons_append, readValue_number hbounds.1 hbounds.2, ← List.cons_append]
      exact h.read_append rest hrest.endsNumber

theorem ReadsKernel.mono {kernel : List Char} {value : Json} {larger : Nat}
    (h : ReadsKernel dialect room kernel value) (hle : room ≤ larger) :
    ReadsKernel dialect larger kernel value where
  isKernel := h.isKernel
  readValue_append levels fuel more rest hfuel hroom hrest :=
    h.readValue_append levels fuel more rest hfuel (hle.trans hroom) hrest

theorem ReadsItems.mono {taken : List Char} {items : List Json} {larger : Nat}
    (h : ReadsItems dialect room taken items) (hle : room ≤ larger) :
    ReadsItems dialect larger taken items where
  getLast?_eq := h.getLast?_eq
  readItems_append levels fuel more rest hfuel hroom :=
    h.readItems_append levels fuel more rest hfuel (hle.trans hroom)

theorem ReadsMembers.mono {taken : List Char} {entries : List (String × Json)} {larger : Nat}
    (h : ReadsMembers dialect room taken entries) (hle : room ≤ larger) :
    ReadsMembers dialect larger taken entries where
  getLast?_eq := h.getLast?_eq
  readMembers_append levels fuel more rest hfuel hroom :=
    h.readMembers_append levels fuel more rest hfuel (hle.trans hroom)

end Building

end GrammarSieve.Json
