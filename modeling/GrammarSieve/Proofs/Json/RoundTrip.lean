/-
Reading what has been stored.  The stored text of an exact value is one line of printed
characters, and the lenient dialect reads it back as the same value, whatever stands behind it,
as long as there is room for the arrays and objects that are nested in it.
-/
import GrammarSieve.Proofs.Json.Parts
import GrammarSieve.Proofs.Json.StoredText

namespace GrammarSieve.Json

/-- The first character of a stored value: no gap, and no end of an array or an object. -/
def IsOpening (c : Char) : Prop :=
  isGap c = false ∧ c ≠ ']' ∧ c ≠ '\x7d'

/-- A character that can begin a number is none that has another meaning there. -/
theorem ne_of_toNat {c : Char} (hlow : 0x2D ≤ c.toNat) (hhigh : c.toNat ≤ 0x39) {d : Char}
    (hd : d.toNat < 0x2D ∨ 0x39 < d.toNat) : c ≠ d := by
  rintro rfl
  omega

theorem isOpening_of_toNat {c : Char} (hlow : 0x2D ≤ c.toNat) (hhigh : c.toNat ≤ 0x39) :
    IsOpening c := by
  have hne (d : Char) : d.toNat < 0x2D ∨ 0x39 < d.toNat → c ≠ d := ne_of_toNat hlow hhigh
  refine ⟨?_, hne _ (by decide), hne _ (by decide)⟩
  simp only [isGap, Bool.or_eq_false_iff, decide_eq_false_iff_not]
  exact ⟨⟨⟨hne _ (by decide), hne _ (by decide)⟩, hne _ (by decide)⟩, hne _ (by decide)⟩

theorem exists_compact_eq_cons {value : Json} (h : Exact value) :
    ∃ c rest, value.compact = c :: rest ∧ IsOpening c := by
  cases value with
  | null => exact ⟨'n', _, rfl, by simp [IsOpening, isGap]⟩
  | bool value =>
      cases value with
      | true => exact ⟨'t', _, rfl, by simp [IsOpening, isGap]⟩
      | false => exact ⟨'f', _, rfl, by simp [IsOpening, isGap]⟩
  | integer value =>
      obtain ⟨c, rest, hstored, hlow, hhigh⟩ := exists_storedInteger_eq_cons value
      exact ⟨c, rest, by rw [compact, hstored], isOpening_of_toNat hlow hhigh⟩
  | real value => exact (h (.real value) .self).elim
  | string value => exact ⟨'"', _, by rw [compact, storedString]; rfl, by simp [IsOpening, isGap]⟩
  | array items =>
      cases items with
      | nil => exact ⟨'[', _, by rw [compact], by simp [IsOpening, isGap]⟩
      | cons item rest => exact ⟨'[', _, by rw [compact]; rfl, by simp [IsOpening, isGap]⟩
  | object members =>
      cases members with
      | nil => exact ⟨'\x7b', _, by rw [compact], by simp [IsOpening, isGap]⟩
      | cons entry rest =>
          exact ⟨'\x7b', _, by rw [compact]; rfl, by simp [IsOpening, isGap]⟩

/-- With so much room, the stored text of the value is read as the value and nothing else is
taken.  The length of the text is fuel enough. -/
def ReadsBack (dialect : Dialect) (room : Nat) (value : Json) : Prop :=
  ∀ fuel rest, value.compact.length ≤ fuel → Closes rest →
    readValue dialect fuel room (value.compact ++ rest) = some (value, rest)

/-- What is asked of a dialect so that it can read stored strings and integers. -/
structure Dialect.ReadsStored (dialect : Dialect) : Prop where
  takesPrinted : TakesPrinted dialect.rawCharacter
  number_storedInteger : ∀ value rest, isWord value = true → Closes rest →
    dialect.number (storedInteger value ++ rest) = some (.integer value, rest)

variable {dialect : Dialect}

theorem skipGaps_cons {c : Char} (h : isGap c = false) (rest : List Char) :
    skipGaps (c :: rest) = c :: rest := by
  simp [skipGaps, h]

/-- A value is never read without fuel, and a stored text is never empty. -/
theorem ReadsBack.of_succ {room : Nat} {value : Json} (hexact : Exact value)
    (h : ∀ fuel rest, value.compact.length ≤ fuel + 1 → Closes rest →
      readValue dialect (fuel + 1) room (value.compact ++ rest) = some (value, rest)) :
    ReadsBack dialect room value := by
  intro fuel rest hfuel hrest
  cases fuel with
  | zero =>
      obtain ⟨c, text, hcompact, -⟩ := exists_compact_eq_cons hexact
      simp [hcompact] at hfuel
  | succ fuel => exact h fuel rest hfuel hrest

theorem readsBack_null (room : Nat) (h : Exact .null) : ReadsBack dialect room .null := by
  apply ReadsBack.of_succ h
  intro fuel rest hfuel hrest
  simp [compact, readValue, skipGaps, isGap]

theorem readsBack_bool (room : Nat) {value : Bool} (h : Exact (.bool value)) :
    ReadsBack dialect room (.bool value) := by
  apply ReadsBack.of_succ h
  intro fuel rest hfuel hrest
  cases value <;> simp [compact, readValue, skipGaps, isGap]

theorem readsBack_string (hdialect : dialect.ReadsStored) (room : Nat) {text : String}
    (h : Exact (.string text)) : ReadsBack dialect room (.string text) := by
  apply ReadsBack.of_succ h
  intro fuel rest hfuel hrest
  have hstored : (Json.string text).compact ++ rest =
      '"' :: (text.toList.flatMap storedChar ++ '"' :: rest) := by
    simp [compact, storedString]
  rw [hstored, readValue, skipGaps_cons (by decide)]
  simp only [readString_stored hdialect.takesPrinted]

theorem readValue_number {c : Char} (hlow : 0x2D ≤ c.toNat) (hhigh : c.toNat ≤ 0x39)
    (fuel room : Nat) (rest : List Char) :
    readValue dialect (fuel + 1) room (c :: rest) = dialect.number (c :: rest) := by
  have hne (d : Char) : d.toNat < 0x2D ∨ 0x39 < d.toNat → c ≠ d := ne_of_toNat hlow hhigh
  rw [readValue, skipGaps_cons (isOpening_of_toNat hlow hhigh).1]
  split
  · next heq => exact absurd (List.cons.inj heq).1 (hne _ (by decide))
  · next heq => exact absurd (List.cons.inj heq).1 (hne _ (by decide))
  · next heq => exact absurd (List.cons.inj heq).1 (hne _ (by decide))
  · next heq => exact absurd (List.cons.inj heq).1 (hne _ (by decide))
  · next heq => exact absurd (List.cons.inj heq).1 (hne _ (by decide))
  · next heq => exact absurd (List.cons.inj heq).1 (hne _ (by decide))
  · rfl

theorem readsBack_integer (hdialect : dialect.ReadsStored) (room : Nat) {value : Int}
    (h : Exact (.integer value)) : ReadsBack dialect room (.integer value) := by
  apply ReadsBack.of_succ h
  intro fuel rest hfuel hrest
  have hnumber := hdialect.number_storedInteger value rest h.isWord hrest
  obtain ⟨c, text, hstored, hlow, hhigh⟩ := exists_storedInteger_eq_cons value
  rw [hstored, List.cons_append] at hnumber
  rw [compact, hstored, List.cons_append, readValue_number hlow hhigh, hnumber]

theorem closes_cons {c : Char} (h : c = ',' ∨ c = ']' ∨ c = '\x7d') (rest : List Char) :
    Closes (c :: rest) := by
  intro d hd
  obtain rfl := Option.some.inj hd
  exact h

/-- Items that are read back one by one are read back in a row. -/
theorem readItems_compact {room : Nat} {item : Json} {rest : List Json}
    (hitem : ReadsBack dialect room item) (hrest : ∀ other ∈ rest, ReadsBack dialect room other)
    (fuel : Nat) (hfuel : item.compact.length + (compactItems rest).length ≤ fuel)
    (tail : List Char) :
    readItems dialect fuel room (item.compact ++ (compactItems rest ++ tail)) =
      some (item :: rest, tail) := by
  -- each item costs one unit of fuel, and the mark behind it is one character of the text
  induction rest generalizing item fuel with
  | nil =>
      simp only [compactItems, List.length_singleton] at hfuel
      obtain ⟨less, rfl⟩ : ∃ less, fuel = less + 1 := ⟨fuel - 1, by omega⟩
      have hread := hitem less (']' :: tail) (by omega) (closes_cons (by simp) tail)
      rw [compactItems, List.singleton_append, readItems, hread]
      simp [skipGaps_cons (c := ']') (by decide)]
  | cons next rest ih =>
      obtain ⟨hnext, hothers⟩ := List.forall_mem_cons.mp hrest
      simp only [compactItems, List.cons_append, List.length_cons, List.length_append] at hfuel
      obtain ⟨less, rfl⟩ : ∃ less, fuel = less + 1 := ⟨fuel - 1, by omega⟩
      have hread := hitem less (',' :: (next.compact ++ (compactItems rest ++ tail))) (by omega)
        (closes_cons (by simp) _)
      have hlater := ih hnext hothers less (by omega)
      simp only [compactItems, List.cons_append, List.append_assoc]
      rw [readItems, hread]
      simp [skipGaps_cons (c := ',') (by decide), hlater]

theorem readsBack_array {room : Nat} {items : List Json}
    (hitems : ∀ item ∈ items, ReadsBack dialect room item) (h : Exact (.array items)) :
    ReadsBack dialect (room + 1) (.array items) := by
  apply ReadsBack.of_succ h
  intro fuel rest hfuel hrest
  cases items with
  | nil => simp [compact, readValue, skipGaps, isGap]
  | cons item others =>
      obtain ⟨hitem, hothers⟩ := List.forall_mem_cons.mp hitems
      simp only [compact, List.cons_append, List.length_cons, List.length_append] at hfuel
      have hread := readItems_compact hitem hothers fuel (by omega) rest
      -- the first item does not look like the end of an empty array
      obtain ⟨c, text, hcompact, hgap, hclosing, -⟩ :=
        exists_compact_eq_cons (h.item List.mem_cons_self)
      rw [hcompact, List.cons_append] at hread
      simp only [compact, hcompact, List.cons_append, List.append_assoc]
      rw [readValue, skipGaps_cons (by decide)]
      simp only [skipGaps_cons hgap]
      split
      · next heq => exact absurd (List.cons.inj heq).1 hclosing
      · simp [hread]

theorem storedString_append (key : String) (rest : List Char) :
    storedString key ++ rest = '"' :: (key.toList.flatMap storedChar ++ '"' :: rest) := by
  simp [storedString]

/-- Members whose values are read back one by one are read back in a row. -/
theorem readMembers_compact (hdialect : dialect.ReadsStored) {room : Nat} (key : String)
    {value : Json} {rest : Members} (hvalue : ReadsBack dialect room value)
    (hrest : ∀ entry ∈ rest, ReadsBack dialect room entry.2) (fuel : Nat)
    (hfuel : value.compact.length + (compactMembers rest).length ≤ fuel) (tail : List Char) :
    readMembers dialect fuel room
        (storedString key ++ ':' :: (value.compact ++ (compactMembers rest ++ tail))) =
      some ((key, value) :: rest, tail) := by
  induction rest generalizing key value fuel with
  | nil =>
      simp only [compactMembers, List.length_singleton] at hfuel
      obtain ⟨less, rfl⟩ : ∃ less, fuel = less + 1 := ⟨fuel - 1, by omega⟩
      have hread := hvalue less ('\x7d' :: tail) (by omega) (closes_cons (by simp) tail)
      rw [storedString_append, readMembers, skipGaps_cons (by decide)]
      simp only [readString_stored hdialect.takesPrinted]
      rw [skipGaps_cons (by decide)]
      simp [compactMembers, hread, skipGaps_cons (c := '\x7d') (by decide)]
  | cons next rest ih =>
      obtain ⟨hnext, hothers⟩ := List.forall_mem_cons.mp hrest
      simp only [compactMembers, List.cons_append, List.length_cons, List.length_append] at hfuel
      obtain ⟨less, rfl⟩ : ∃ less, fuel = less + 1 := ⟨fuel - 1, by omega⟩
      have hread := hvalue less
        (',' :: (storedString next.1 ++ ':' :: (next.2.compact ++ (compactMembers rest ++ tail))))
        (by omega) (closes_cons (by simp) _)
      have hlater := ih next.1 hnext hothers less (by omega)
      rw [storedString_append, readMembers, skipGaps_cons (by decide)]
      simp only [readString_stored hdialect.takesPrinted]
      rw [skipGaps_cons (by decide)]
      simp [compactMembers, hread, skipGaps_cons (c := ',') (by decide), hlater]

theorem readsBack_object (hdialect : dialect.ReadsStored) {room : Nat} {members : Members}
    (hmembers : ∀ entry ∈ members, ReadsBack dialect room entry.2) (h : Exact (.object members)) :
    ReadsBack dialect (room + 1) (.object members) := by
  apply ReadsBack.of_succ h
  intro fuel rest hfuel hrest
  cases members with
  | nil => simp [compact, readValue, skipGaps, isGap]
  | cons entry others =>
      obtain ⟨key, value⟩ := entry
      obtain ⟨hvalue : ReadsBack dialect room value, hothers⟩ := List.forall_mem_cons.mp hmembers
      simp only [compact, List.cons_append, List.length_cons, List.length_append] at hfuel
      have hread := readMembers_compact hdialect key hvalue hothers fuel (by omega) rest
      rw [storedString_append] at hread
      simp only [compact, List.cons_append, List.append_assoc, storedString_append]
      rw [readValue, skipGaps_cons (by decide)]
      simp [skipGaps_cons (c := '"') (by decide), hread, Members.ofList_eq_self h.nodup_keys]

/-- Where there is room for what is nested in it, an exact value is read back. -/
theorem readsBack_of_fits (hdialect : dialect.ReadsStored) {value : Json} (h : Exact value)
    {room : Nat} (hfits : Fits room value) : ReadsBack dialect room value := by
  induction value using Json.induction generalizing room with
  | null => exact readsBack_null room h
  | bool value => exact readsBack_bool room h
  | integer value => exact readsBack_integer hdialect room h
  | real value => exact (h (.real value) .self).elim
  | string value => exact readsBack_string hdialect room h
  | array items ih =>
      cases room with
      | zero => exact hfits.elim
      | succ room =>
          exact readsBack_array (fun item hitem => ih item hitem (h.item hitem) (hfits item hitem)) h
  | object members ih =>
      cases room with
      | zero => exact hfits.elim
      | succ room =>
          exact readsBack_object hdialect
            (fun entry hentry => ih entry hentry (h.member hentry) (hfits entry hentry)) h

/-- Each item's text is shorter than that of the items. -/
theorem length_compact_lt_compactItems {items : List Json} {item : Json} (hitem : item ∈ items) :
    item.compact.length < (compactItems items).length := by
  induction items with
  | nil => exact absurd hitem List.not_mem_nil
  | cons first rest ih =>
      simp only [compactItems, List.cons_append, List.length_cons, List.length_append]
      rcases List.mem_cons.mp hitem with rfl | hrest
      · omega
      · have hlt := ih hrest
        omega

theorem length_compact_lt_compactMembers {members : Members} {entry : String × Json}
    (hentry : entry ∈ members) : entry.2.compact.length < (compactMembers members).length := by
  induction members with
  | nil => exact absurd hentry List.not_mem_nil
  | cons first rest ih =>
      simp only [compactMembers, List.cons_append, List.length_cons, List.length_append]
      rcases List.mem_cons.mp hentry with rfl | hrest
      · omega
      · have hlt := ih hrest
        omega

theorem length_compact_lt_array {items : List Json} {item : Json} (hitem : item ∈ items) :
    item.compact.length < (Json.array items).compact.length := by
  cases items with
  | nil => exact absurd hitem List.not_mem_nil
  | cons first rest =>
      have hlt := length_compact_lt_compactItems hitem
      simp only [compactItems, List.cons_append, List.length_cons, List.length_append] at hlt
      simp only [compact, List.cons_append, List.length_cons, List.length_append]
      omega

theorem length_compact_lt_object {members : Members} {entry : String × Json}
    (hentry : entry ∈ members) : entry.2.compact.length < (Json.object members).compact.length := by
  cases members with
  | nil => exact absurd hentry List.not_mem_nil
  | cons first rest =>
      have hlt := length_compact_lt_compactMembers hentry
      simp only [compactMembers, List.cons_append, List.length_cons, List.length_append] at hlt
      simp only [compact, List.cons_append, List.length_cons, List.length_append]
      omega

/-- A text has room for all that is nested in the value it stores. -/
theorem fits_length_compact (value : Json) : Fits value.compact.length value := by
  induction value using Json.induction with
  | array items ih =>
      cases hlength : (Json.array items).compact.length with
      | zero => cases items <;> simp [compact] at hlength
      | succ room =>
          intro item hitem
          have hlt := length_compact_lt_array hitem
          exact (ih item hitem).mono (by omega)
  | object members ih =>
      cases hlength : (Json.object members).compact.length with
      | zero => cases members <;> simp [compact] at hlength
      | succ room =>
          intro entry hentry
          have hlt := length_compact_lt_object hentry
          exact (ih entry hentry).mono (by omega)
  | _ => simp [Fits]

/-- The stored text of an exact value is read as the value, unless more is nested in it than
the dialect allows. -/
theorem readText?_compact (hdialect : dialect.ReadsStored) {value : Json} (h : Exact value)
    (hfits : ∀ levels ∈ dialect.levels, Fits levels value) :
    readText? dialect value.compact = some value := by
  have hroom : Fits (dialect.levels.getD value.compact.length) value := by
    cases hlevels : dialect.levels with
    | none => exact fits_length_compact value
    | some levels => exact hfits levels hlevels
  have hread := readsBack_of_fits hdialect h hroom (2 * value.compact.length + 2) [] (by omega)
    (by simp [Closes])
  rw [List.append_nil] at hread
  simp [readText?, hread, skipGaps]

/-- The lenient dialect reads stored strings and integers, however much may be nested. -/
theorem readsStored_lenient (levels : Option Nat) :
    Dialect.ReadsStored { lenient with levels } where
  takesPrinted := by
    intro c hc
    have hne : c ≠ '\x00' := by
      rintro rfl
      exact absurd hc.1 (by decide)
    simpa [lenient] using hne
  number_storedInteger := fun _ _ hword hrest => lenientNumber_storedInteger hword hrest

section Line

theorem isPrinted_of_mem_storedString {text : String} {c : Char} (hc : c ∈ storedString text) :
    IsPrinted c := by
  simp only [storedString, List.cons_append, List.mem_cons, List.mem_append, List.mem_flatMap,
    List.not_mem_nil, or_false] at hc
  rcases hc with rfl | ⟨d, -, hd⟩ | rfl
  · simp [IsPrinted]
  · exact isPrinted_of_mem_storedChar hd
  · simp [IsPrinted]

theorem isPrinted_of_mem_compactItems {items : List Json}
    (hitems : ∀ item ∈ items, ∀ c ∈ item.compact, IsPrinted c) :
    ∀ c ∈ compactItems items, IsPrinted c := by
  induction items with
  | nil => simp [compactItems, IsPrinted]
  | cons item rest ih =>
      obtain ⟨hitem, hrest⟩ := List.forall_mem_cons.mp hitems
      intro c hc
      simp only [compactItems, List.cons_append, List.mem_cons, List.mem_append] at hc
      rcases hc with rfl | hc | hc
      · simp [IsPrinted]
      · exact hitem c hc
      · exact ih hrest c hc

theorem isPrinted_of_mem_compactMembers {members : Members}
    (hmembers : ∀ entry ∈ members, ∀ c ∈ entry.2.compact, IsPrinted c) :
    ∀ c ∈ compactMembers members, IsPrinted c := by
  induction members with
  | nil => simp [compactMembers, IsPrinted]
  | cons entry rest ih =>
      obtain ⟨hentry, hrest⟩ := List.forall_mem_cons.mp hmembers
      intro c hc
      simp only [compactMembers, List.cons_append, List.mem_cons, List.mem_append] at hc
      rcases hc with rfl | (hc | rfl | hc) | hc
      · simp [IsPrinted]
      · exact isPrinted_of_mem_storedString hc
      · simp [IsPrinted]
      · exact hentry c hc
      · exact ih hrest c hc

/-- The stored text of an exact value is one line. -/
theorem isPrinted_of_mem_compact {value : Json} (h : Exact value) :
    ∀ c ∈ value.compact, IsPrinted c := by
  induction value using Json.induction with
  | null => simp [compact, IsPrinted]
  | bool value => cases value <;> simp [compact, IsPrinted]
  | integer value => exact fun c hc => isPrinted_of_mem_storedInteger (by rwa [compact] at hc)
  | real value => exact (h (.real value) .self).elim
  | string text => exact fun c hc => isPrinted_of_mem_storedString (by rwa [compact] at hc)
  | array items ih =>
      have hitems := isPrinted_of_mem_compactItems fun item hitem => ih item hitem (h.item hitem)
      cases items with
      | nil => simp [compact, IsPrinted]
      | cons item rest =>
          intro c hc
          simp only [compact, List.cons_append, List.mem_cons] at hc
          rcases hc with rfl | hc
          · simp [IsPrinted]
          · exact hitems c (by simp [compactItems, hc])
  | object members ih =>
      have hmembers := isPrinted_of_mem_compactMembers fun entry hentry =>
        ih entry hentry (h.member hentry)
      cases members with
      | nil => simp [compact, IsPrinted]
      | cons entry rest =>
          intro c hc
          simp only [compact, List.cons_append, List.mem_cons] at hc
          rcases hc with rfl | hc
          · simp [IsPrinted]
          · simp only [List.mem_append] at hc
            exact hmembers c (by simpa [compactMembers, or_assoc] using Or.inr hc)

theorem exists_compactMembers_eq_append (members : Members) :
    ∃ front, compactMembers members = front ++ ['\x7d'] := by
  induction members with
  | nil => exact ⟨[], by simp [compactMembers]⟩
  | cons entry rest ih =>
      obtain ⟨front, hfront⟩ := ih
      exact ⟨_, by rw [compactMembers, hfront, ← List.append_assoc]⟩

/-- The text of an object stands between braces. -/
theorem exists_compact_object_eq (members : Members) :
    ∃ inside, (Json.object members).compact = '\x7b' :: (inside ++ ['\x7d']) := by
  cases members with
  | nil => exact ⟨[], by simp [compact]⟩
  | cons entry rest =>
      obtain ⟨front, hfront⟩ := exists_compactMembers_eq_append rest
      refine ⟨storedString entry.1 ++ ':' :: entry.2.compact ++ front, ?_⟩
      simp [compact, hfront]

/-- The stored text of an exact object can be entered. -/
theorem readEntry?_compact {members : Members} (h : Exact (.object members))
    (hfits : Fits 1024 (.object members)) :
    readEntry? (Json.object members).compact = some (.object members) := by
  obtain ⟨inside, hinside⟩ := exists_compact_object_eq members
  rw [ readEntry?, if_neg (by simp [hinside])]
  apply readText?_compact (readsStored_lenient (some 1024)) h
  simpa using hfits

end Line

end GrammarSieve.Json
