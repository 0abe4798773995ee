/-
What a JSON value holds.  The parts of a value are the value itself and the parts of all that
stands in it.  A value is exact if its stored text can give it back in full, and how deep the
arrays and objects in it are nested decides whether a reader has room for it.
-/
import GrammarSieve.Json.Compact

namespace GrammarSieve.Json

/-- A property holds of every value if it passes from the items of an array, and from the values
in an object, to the array or the object. -/
theorem induction {motive : Json → Prop} (null : motive .null)
    (bool : ∀ value, motive (.bool value)) (integer : ∀ value, motive (.integer value))
    (real : ∀ value, motive (.real value)) (string : ∀ value, motive (.string value))
    (array : ∀ items, (∀ item ∈ items, motive item) → motive (.array items))
    (object : ∀ members : Members, (∀ entry ∈ members, motive entry.2) →
      motive (.object members)) : ∀ value, motive value
  | .null => null
  | .bool value => bool value
  | .integer value => integer value
  | .real value => real value
  | .string value => string value
  | .array items =>
      array items fun item _ => induction null bool integer real string array object item
  | .object members =>
      object members fun entry hentry =>
        have : sizeOf entry.2 < sizeOf entry := by
          cases entry
          simp only [Prod.mk.sizeOf_spec]
          omega
        have := List.sizeOf_lt_of_mem hentry
        induction null bool integer real string array object entry.2

/-- A value stands somewhere in another one. -/
inductive Within (part : Json) : Json → Prop where
  | self : Within part part
  | item {items : List Json} {item : Json} (hitem : item ∈ items) (h : Within part item) :
      Within part (.array items)
  | member {members : Members} {entry : String × Json} (hentry : entry ∈ members)
      (h : Within part entry.2) : Within part (.object members)

/-- Nothing stands in the way of storing the value itself: it is no number with a fraction, an
integer has 64 bits, and the keys of an object do not repeat. -/
def ExactPart : Json → Prop
  | .real _ => False
  | .integer value => isWord value = true
  | .object members => (Members.keys members).Nodup
  | _ => True

/-- All that stands in the value can be stored as it is. -/
def Exact (value : Json) : Prop :=
  ∀ part, Within part value → ExactPart part

theorem Exact.item {items : List Json} (h : Exact (.array items)) {item : Json}
    (hitem : item ∈ items) : Exact item :=
  fun part hpart => h part (.item hitem hpart)

theorem Exact.member {members : Members} (h : Exact (.object members)) {entry : String × Json}
    (hentry : entry ∈ members) : Exact entry.2 :=
  fun part hpart => h part (.member hentry hpart)

theorem Exact.nodup_keys {members : Members} (h : Exact (.object members)) :
    (Members.keys members).Nodup :=
  h (.object members) .self

/-- The keys of an object do not repeat, wherever it stands in the value. -/
def DistinctKeys (value : Json) : Prop :=
  ∀ members : Members, Within (.object members) value → (Members.keys members).Nodup

theorem Exact.distinctKeys {value : Json} (h : Exact value) : DistinctKeys value :=
  fun members hmembers => h (.object members) hmembers

theorem Exact.isWord {value : Int} (h : Exact (.integer value)) : isWord value = true :=
  h (.integer value) .self

theorem exact_null : Exact .null := by
  intro part hpart
  cases hpart
  trivial

theorem exact_integer {value : Int} (h : Json.isWord value = true) : Exact (.integer value) := by
  intro part hpart
  cases hpart
  exact h

theorem exact_string (text : String) : Exact (.string text) := by
  intro part hpart
  cases hpart
  trivial

theorem exact_array {items : List Json} (h : ∀ item ∈ items, Exact item) :
    Exact (.array items) := by
  intro part hpart
  cases hpart with
  | self => trivial
  | item hitem hpart => exact h _ hitem part hpart

theorem exact_object {members : Members} (hkeys : (Members.keys members).Nodup)
    (h : ∀ entry ∈ members, Exact entry.2) : Exact (.object members) := by
  intro part hpart
  cases hpart with
  | self => exact hkeys
  | member hentry hpart => exact h _ hentry part hpart

theorem areStorable_iff (items : List Json) :
    areStorable items = true ↔ ∀ item ∈ items, item.isStorable = true := by
  induction items with
  | nil => simp [areStorable]
  | cons item rest ih => simp [areStorable, ih]

theorem membersStorable_iff (members : Members) :
    membersStorable members = true ↔ ∀ entry ∈ members, entry.2.isStorable = true := by
  induction members with
  | nil => simp [membersStorable]
  | cons entry rest ih => simp [membersStorable, ih]

theorem Exact.isStorable {value : Json} (h : Exact value) : value.isStorable = true := by
  induction value using Json.induction with
  | null => rfl
  | bool value => rfl
  | string value => rfl
  | integer value => rw [Json.isStorable, h.isWord]
  | real value => exact (h (.real value) .self).elim
  | array items ih =>
      rw [Json.isStorable, areStorable_iff]
      exact fun item hitem => ih item hitem (h.item hitem)
  | object members ih =>
      rw [Json.isStorable, membersStorable_iff]
      exact fun entry hentry => ih entry hentry (h.member hentry)

theorem Exact.store?_eq {value : Json} (h : Exact value) : value.store? = some value.compact := by
  rw [store?, h.isStorable]
  rfl

/-- No more than so many arrays and objects are open at the same time. -/
def Fits : Nat → Json → Prop
  | 0, .array _ => False
  | 0, .object _ => False
  | room + 1, .array items => ∀ item ∈ items, Fits room item
  | room + 1, .object members => ∀ entry ∈ members, Fits room entry.2
  | _, _ => True

theorem Fits.mono {room larger : Nat} {value : Json} (h : Fits room value)
    (hle : room ≤ larger) : Fits larger value := by
  induction room generalizing larger value with
  | zero => cases value <;> simp_all [Fits]
  | succ room ih =>
      obtain ⟨more, rfl⟩ : ∃ more, larger = more + 1 := ⟨larger - 1, by omega⟩
      have hmore : room ≤ more := Nat.le_of_succ_le_succ hle
      cases value with
      | array items => exact fun item hitem => ih (h item hitem) hmore
      | object members => exact fun entry hentry => ih (h entry hentry) hmore
      | _ => simp [Fits]

end GrammarSieve.Json
