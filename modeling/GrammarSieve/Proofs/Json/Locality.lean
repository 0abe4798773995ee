/-
Where a value stands in a text.  Reading a value takes its kernel, behind the gaps in front of it,
whatever else the text holds.  So a value can be cut out of its text, or put between the marks of an
array, and is still the same value.
-/
import GrammarSieve.Proofs.Json.Kernel

namespace GrammarSieve.Json

section Strings

variable {raw : Char → Bool}

theorem prepend_eq_some_iff {code : Nat} {found : Option (List Nat × List Char)}
    {codes : List Nat} {rest : List Char} :
    prepend code found = some (codes, rest) ↔
      ∃ others, codes = code :: others ∧ found = some (others, rest) := by
  cases found with
  | none => simp [prepend]
  | some pair =>
      rcases pair with ⟨others, after⟩
      simp only [prepend, Option.some.injEq, Prod.mk.injEq]
      constructor
      · rintro ⟨rfl, rfl⟩
        exact ⟨others, rfl, rfl, rfl⟩
      · rintro ⟨others, rfl, rfl, rfl⟩
        exact ⟨rfl, rfl⟩

/-- A string is taken up to its closing quote, whatever stands behind that. -/
theorem exists_readCodes_append {text rest : List Char} {codes : List Nat}
    (h : readCodes raw text = some (codes, rest)) :
    ∃ inside, text = inside ++ '"' :: rest ∧
      ∀ other, readCodes raw (inside ++ '"' :: other) = some (codes, other) := by
  fun_induction readCodes raw text generalizing codes with
  | case1 => contradiction
  | case2 rest' =>
      rcases Option.some.inj h with ⟨rfl, rfl⟩
      exact ⟨[], rfl, fun _ => by rw [List.nil_append, readCodes]⟩
  | case3 => contradiction
  | case4 a b c d rest' unit hunit ih =>
      rcases prepend_eq_some_iff.mp h with ⟨others, rfl, hothers⟩
      rcases ih hothers with ⟨inside, rfl, hinside⟩
      refine ⟨'\\' :: 'u' :: a :: b :: c :: d :: inside, rfl, ?_⟩
      intro other
      simp only [List.cons_append, readCodes, hunit, hinside other, prepend]
  | case5 => contradiction
  | case6 mark rest' _ spelled hspelled ih =>
      rcases prepend_eq_some_iff.mp h with ⟨others, rfl, hothers⟩
      rcases ih hothers with ⟨inside, rfl, hinside⟩
      refine ⟨'\\' :: mark :: inside, rfl, ?_⟩
      intro other
      rw [List.cons_append, List.cons_append, readCodes_short raw hspelled, hinside other, prepend]
  | case7 c rest' hquote _ _ hraw ih =>
      rcases prepend_eq_some_iff.mp h with ⟨others, rfl, hothers⟩
      rcases ih hothers with ⟨inside, rfl, hinside⟩
      rw [Bool.and_eq_true, decide_eq_true_eq] at hraw
      refine ⟨c :: inside, rfl, ?_⟩
      intro other
      rw [List.cons_append, readCodes_raw hraw.1 hquote hraw.2, hinside other, prepend]
  | case8 => contradiction

theorem exists_readString_append {text rest : List Char} {value : String}
    (h : readString raw text = some (value, rest)) :
    ∃ inside, text = inside ++ '"' :: rest ∧
      ∀ other, readString raw (inside ++ '"' :: other) = some (value, other) := by
  rw [readString] at h
  split at h
  · contradiction
  · next codes after hcodes =>
      rcases Option.some.inj h with ⟨rfl, rfl⟩
      rcases exists_readCodes_append hcodes with ⟨inside, rfl, hinside⟩
      refine ⟨inside, rfl, ?_⟩
      intro other
      rw [readString, hinside other]

end Strings

section Steps

variable {dialect : Dialect} {fuel room : Nat} {text rest : List Char}

/-- Reading with this fuel takes kernels, items and members. -/
structure Localizes (dialect : Dialect) (fuel : Nat) : Prop where
  value : ∀ {room text value rest}, readValue dialect fuel room text = some (value, rest) →
    ∃ kernel, skipGaps text = kernel ++ rest ∧
      ReadsKernel dialect (min room kernel.length) kernel value
  items : ∀ {room text items rest}, readItems dialect fuel room text = some (items, rest) →
    ∃ taken, text = taken ++ rest ∧ ReadsItems dialect (min room taken.length) taken items
  members : ∀ {room text entries rest},
    readMembers dialect fuel room text = some (entries, rest) →
      ∃ taken, text = taken ++ rest ∧ ReadsMembers dialect (min room taken.length) taken entries

theorem Localizes.items_succ (h : Localizes dialect fuel) {items : List Json}
    (hread : readItems dialect (fuel + 1) room text = some (items, rest)) :
    ∃ taken, text = taken ++ rest ∧ ReadsItems dialect (min room taken.length) taken items := by
  rcases exists_gaps text with ⟨before, hbefore, htext⟩
  rw [readItems] at hread
  split at hread
  · contradiction
  · next item rest' hvalue =>
      rcases h.value hvalue with ⟨kernel, hkernel, hitem⟩
      rcases exists_gaps rest' with ⟨after, hafter, hrest'⟩
      split at hread
      · next rest hclosing =>
          rcases Option.some.inj hread with ⟨rfl, rfl⟩
          refine ⟨before ++ (kernel ++ (after ++ [']'])), ?_, ?_⟩
          · rw [htext, hkernel, hrest', hclosing]
            simp
          · apply readsItems_last hbefore hafter (hitem.mono _)
            simp only [List.length_append]
            omega
      · next rest'' hcomma =>
          split at hread
          · contradiction
          · next others rest hothers =>
              rcases Option.some.inj hread with ⟨rfl, rfl⟩
              rcases h.items hothers with ⟨taken, rfl, htaken⟩
              refine ⟨before ++ (kernel ++ (after ++ ',' :: taken)), ?_, ?_⟩
              · rw [htext, hkernel, hrest', hcomma]
                simp
              · apply readsItems_cons hbefore hafter (hitem.mono _) (htaken.mono _)
                · simp only [List.length_append]
                  omega
                · simp only [List.length_append, List.length_cons]
                  omega
      · contradiction

/-- A key is taken up to the value behind it. -/
theorem exists_isKeyText {raw : Char → Bool} {afterQuote afterKey afterColon : List Char}
    {key : String} (hquote : skipGaps text = '"' :: afterQuote)
    (hkey : readString raw afterQuote = some (key, afterKey))
    (hcolon : skipGaps afterKey = ':' :: afterColon) :
    ∃ front, text = front ++ skipGaps afterColon ∧ IsKeyText raw front key := by
  rcases exists_gaps text with ⟨before, hbefore, htext⟩
  rcases exists_gaps afterKey with ⟨between, hbetween, hafterKey⟩
  rcases exists_gaps afterColon with ⟨behind, hbehind, hafterColon⟩
  rcases exists_readString_append hkey with ⟨inside, rfl, hinside⟩
  refine ⟨before ++ '"' :: (inside ++ '"' :: (between ++ ':' :: behind)), ?_,
    ⟨before, inside, between, behind, rfl, hbefore, hbetween, hbehind, hinside⟩⟩
  rw [htext, hquote, hafterKey, hcolon]
  simp [← hafterColon]

theorem Localizes.members_succ (h : Localizes dialect fuel) {entries : List (String × Json)}
    (hread : readMembers dialect (fuel + 1) room text = some (entries, rest)) :
    ∃ taken, text = taken ++ rest ∧
      ReadsMembers dialect (min room taken.length) taken entries := by
  rw [readMembers] at hread
  split at hread
  · next afterQuote hquote =>
      split at hread
      · contradiction
      · next key afterKey hkey =>
          split at hread
          · next afterColon hcolon =>
              rcases exists_isKeyText hquote hkey hcolon with ⟨front, htext, hfront⟩
              split at hread
              · contradiction
              · next value rest' hvalue =>
                  rcases h.value hvalue with ⟨kernel, hkernel, hvalue⟩
                  rcases exists_gaps rest' with ⟨after, hafter, hrest'⟩
                  split at hread
                  · next rest hclosing =>
                      rcases Option.some.inj hread with ⟨rfl, rfl⟩
                      refine ⟨front ++ (kernel ++ (after ++ ['\x7d'])), ?_, ?_⟩
                      · rw [htext, hkernel, hrest', hclosing]
                        simp
                      · apply readsMembers_last hfront hafter (hvalue.mono _)
                        simp only [List.length_append]
                        omega
                  · next rest'' hcomma =>
                      split at hread
                      · contradiction
                      · next others rest hothers =>
                          rcases Option.some.inj hread with ⟨rfl, rfl⟩
                          rcases h.members hothers with ⟨taken, rfl, htaken⟩
                          refine ⟨front ++ (kernel ++ (after ++ ',' :: taken)), ?_, ?_⟩
                          · rw [htext, hkernel, hrest', hcomma]
                            simp
                          · apply readsMembers_cons hfront hafter (hvalue.mono _) (htaken.mono _)
                            · simp only [List.length_append]
                              omega
                            · simp only [List.length_append, List.length_cons]
                              omega
                  · contradiction
          · contradiction
  · contradiction

/-- What is taken behind an opening mark and its gaps begins with no gap, and does not close. -/
theorem head?_of_skipGaps_eq {taken : List Char} {last closing : Char}
    (h : skipGaps text = taken ++ rest) (hlast : taken.getLast? = some last)
    (hopen : ∀ after, skipGaps text = closing :: after → False) :
    ∀ c ∈ taken.head?, isGap c = false ∧ c ≠ closing := by
  rw [← head?_append_of_getLast? hlast rest, ← h]
  intro c hc
  refine ⟨isGap_eq_false_of_mem_head? c hc, ?_⟩
  rintro rfl
  rcases List.head?_eq_some_iff.mp hc with ⟨after, hafter⟩
  exact hopen after hafter

/-- A kernel is an opening mark, the gaps behind it and what is taken behind these, whatever gaps
they are. -/
theorem exists_kernel_of_opening {opening : Char} {afterMark taken : List Char} {value : Json}
    (hmark : skipGaps text = opening :: afterMark) (htaken : skipGaps afterMark = taken ++ rest)
    (hreads : ∀ gaps, (∀ c ∈ gaps, isGap c = true) →
      ReadsKernel dialect (min room taken.length + 1) (opening :: (gaps ++ taken)) value) :
    ∃ kernel, skipGaps text = kernel ++ rest ∧
      ReadsKernel dialect (min (room + 1) kernel.length) kernel value := by
  rcases exists_gaps afterMark with ⟨gaps, hgaps, hafterMark⟩
  refine ⟨opening :: (gaps ++ taken), ?_, ?_⟩
  · rw [hmark, hafterMark, htaken]
    simp
  · apply (hreads gaps hgaps).mono
    simp only [List.length_cons, List.length_append]
    omega

/-- A value stands behind the gaps in front of it. -/
theorem Localizes.value_succ (hnumbers : dialect.TakesNumbers) (h : Localizes dialect fuel)
    {value : Json} (hread : readValue dialect (fuel + 1) room text = some (value, rest)) :
    ∃ kernel, skipGaps text = kernel ++ rest ∧
      ReadsKernel dialect (min room kernel.length) kernel value := by
  rw [readValue] at hread
  split at hread
  · next afterQuote hquote =>
      split at hread
      · contradiction
      · next inside' after hstring =>
          rcases Option.some.inj hread with ⟨rfl, rfl⟩
          rcases exists_readString_append hstring with ⟨inside, rfl, hinside⟩
          refine ⟨'"' :: (inside ++ ['"']), by simp [hquote], ?_⟩
          exact (readsKernel_string hinside).mono (Nat.zero_le _)
  · next afterMark hmark =>
      split at hread
      · contradiction
      · split at hread
        · next after hclosing =>
            rcases Option.some.inj hread with ⟨rfl, rfl⟩
            have hempty : skipGaps afterMark = [']'] ++ rest := hclosing
            exact exists_kernel_of_opening hmark hempty fun _ hgaps =>
              (readsKernel_array_nil hgaps).mono (Nat.le_add_left 1 _)
        · next hopen =>
            split at hread
            · contradiction
            · next items after hitems =>
                rcases Option.some.inj hread with ⟨rfl, rfl⟩
                rcases h.items hitems with ⟨taken, htaken, hreads⟩
                have hfirst := head?_of_skipGaps_eq htaken hreads.getLast?_eq hopen
                exact exists_kernel_of_opening hmark htaken fun _ hgaps =>
                  readsKernel_array hgaps hfirst hreads
  · next afterMark hmark =>
      split at hread
      · contradiction
      · split at hread
        · next after hclosing =>
            rcases Option.some.inj hread with ⟨rfl, rfl⟩
            have hempty : skipGaps afterMark = ['\x7d'] ++ rest := hclosing
            exact exists_kernel_of_opening hmark hempty fun _ hgaps =>
              (readsKernel_object_nil hgaps).mono (Nat.le_add_left 1 _)
        · next hopen =>
            split at hread
            · contradiction
            · next members after hmembers =>
                rcases Option.some.inj hread with ⟨rfl, rfl⟩
                rcases h.members hmembers with ⟨taken, htaken, hreads⟩
                have hfirst := head?_of_skipGaps_eq htaken hreads.getLast?_eq hopen
                exact exists_kernel_of_opening hmark htaken fun _ hgaps =>
                  readsKernel_object hgaps hfirst hreads
  · next after hword =>
      rcases Option.some.inj hread with ⟨rfl, rfl⟩
      exact ⟨_, hword, readsKernel_null.mono (Nat.zero_le _)⟩
  · next after hword =>
      rcases Option.some.inj hread with ⟨rfl, rfl⟩
      exact ⟨_, hword, readsKernel_true.mono (Nat.zero_le _)⟩
  · next after hword =>
      rcases Option.some.inj hread with ⟨rfl, rfl⟩
      exact ⟨_, hword, readsKernel_false.mono (Nat.zero_le _)⟩
  · rcases hnumbers _ _ _ hread with ⟨first, more, hfirst, hnumber⟩
    exact ⟨_, hnumber.text_eq, (readsKernel_number hfirst hnumber).mono (Nat.zero_le _)⟩

theorem localizes (hnumbers : dialect.TakesNumbers) (fuel : Nat) : Localizes dialect fuel := by
  induction fuel with
  | zero =>
      constructor
      · intro room text value rest h
        contradiction
      · intro room text items rest h
        contradiction
      · intro room text entries rest h
        contradiction
  | succ fuel ih =>
      exact ⟨ih.value_succ hnumbers, ih.items_succ, ih.members_succ⟩

end Steps

end GrammarSieve.Json
