/-
JSON values.  Whole numbers are unbounded, other numbers are binary floating point, and an
object is the list of its members in the order in which their keys were first written.
-/
import GrammarSieve.Binary64.Basic

namespace GrammarSieve

inductive Json where
  | null
  | bool (value : Bool)
  | integer (value : Int)
  | real (value : Binary64)
  | string (value : String)
  | array (items : List Json)
  | object (members : List (String × Json))
deriving Repr, Inhabited

abbrev Members := List (String × Json)

/-- The kinds of JSON value, as far as a reader of fields tells them apart. -/
inductive Json.Kind where
  | null
  | bool
  | integer
  | real
  | string
  | array
  | object
deriving DecidableEq, Repr

def Json.kind : Json → Json.Kind
  | .null => .null
  | .bool _ => .bool
  | .integer _ => .integer
  | .real _ => .real
  | .string _ => .string
  | .array _ => .array
  | .object _ => .object

/-- The word for a kind of value in messages. -/
def Json.Kind.name : Json.Kind → String
  | .null => "NoneType"
  | .bool => "bool"
  | .integer => "int"
  | .real => "float"
  | .string => "str"
  | .array => "list"
  | .object => "dict"

namespace Members

def get? (key : String) : Members → Option Json
  | [] => none
  | (name, value) :: rest => if name = key then some value else get? key rest

/-- Gives the key this value: in its old place if it has one, else at the end. -/
def put (key : String) (value : Json) : Members → Members
  | [] => [(key, value)]
  | (name, old) :: rest =>
      if name = key then (name, value) :: rest else (name, old) :: put key value rest

/-- The members that remain of a list in which keys may repeat: a repeated key keeps its
first place and its last value. -/
def ofList (entries : List (String × Json)) : Members :=
  entries.foldl (fun members entry => put entry.1 entry.2 members) []

theorem get?_put_self (key : String) (value : Json) (members : Members) :
    get? key (put key value members) = some value := by
  induction members with
  | nil => simp [put, get?]
  | cons entry rest ih =>
      by_cases h : entry.1 = key <;> simp [put, get?, h, ih]

theorem get?_put_of_ne {key other : String} (h : other ≠ key) (value : Json)
    (members : Members) : get? other (put key value members) = get? other members := by
  induction members with
  | nil => simp [put, get?, h.symm]
  | cons entry rest ih =>
      by_cases hkey : entry.1 = key
      · simp [put, get?, hkey, h.symm]
      · by_cases hother : entry.1 = other
        · simp [put, get?, hother, h]
        · simp [put, get?, hkey, hother, ih]

theorem mem_of_get? {key : String} {value : Json} {members : Members}
    (h : get? key members = some value) : (key, value) ∈ members := by
  induction members with
  | nil => simp [get?] at h
  | cons entry rest ih =>
      rw [get?] at h
      split at h
      · next hkey =>
          obtain rfl := Option.some.inj h
          exact hkey ▸ List.mem_cons_self
      · exact List.mem_cons_of_mem entry (ih h)

def keys (members : Members) : List String :=
  members.map (·.1)

theorem mem_put {key : String} {value : Json} {members : Members} {entry : String × Json}
    (h : entry ∈ put key value members) : entry = (key, value) ∨ entry ∈ members := by
  induction members with
  | nil => simpa [put] using h
  | cons first rest ih =>
      by_cases hfirst : first.1 = key
      · simp only [put, hfirst, ↓reduceIte, List.mem_cons] at h
        rcases h with rfl | hrest
        · exact Or.inl rfl
        · exact Or.inr (List.mem_cons_of_mem first hrest)
      · simp only [put, hfirst, ↓reduceIte, List.mem_cons] at h
        rcases h with rfl | hrest
        · exact Or.inr List.mem_cons_self
        · exact (ih hrest).imp_right (List.mem_cons_of_mem first)

/-- A key that is there already keeps its place. -/
theorem keys_put_of_mem {key : String} {members : Members} (h : key ∈ keys members)
    (value : Json) : keys (put key value members) = keys members := by
  induction members with
  | nil => simp [keys] at h
  | cons entry rest ih =>
      by_cases hkey : entry.1 = key
      · simp [put, keys, hkey]
      · have hrest : key ∈ keys rest := by simpa [keys, Ne.symm hkey] using h
        simpa [put, keys, hkey] using ih hrest

/-- A new key takes the last place. -/
theorem put_eq_append {key : String} {members : Members} (h : key ∉ keys members)
    (value : Json) : put key value members = members ++ [(key, value)] := by
  induction members with
  | nil => rfl
  | cons entry rest ih =>
      simp only [keys, List.map_cons, List.mem_cons, not_or] at h
      simp [put, Ne.symm h.1, ih h.2]

theorem mem_keys_put_self (key : String) (value : Json) (members : Members) :
    key ∈ keys (put key value members) := by
  by_cases h : key ∈ keys members
  · rw [keys_put_of_mem h]
    exact h
  · simp [put_eq_append h, keys]

theorem nodup_keys_put {members : Members} (h : (keys members).Nodup) (key : String)
    (value : Json) : (keys (put key value members)).Nodup := by
  by_cases hmem : key ∈ keys members
  · rw [keys_put_of_mem hmem]
    exact h
  · rw [put_eq_append hmem, keys, List.map_append]
    refine List.nodup_append.mpr ⟨h, by simp, ?_⟩
    intro name hname other hother
    obtain rfl : other = key := by simpa using hother
    exact fun heq => hmem (heq ▸ hname)

/-- Putting new keys one after the other adds them at the end. -/
theorem foldl_put_eq_append {members entries : Members} (h : (keys (members ++ entries)).Nodup) :
    entries.foldl (fun members entry => put entry.1 entry.2 members) members =
      members ++ entries := by
  induction entries generalizing members with
  | nil => simp
  | cons entry rest ih =>
      have hfresh : entry.1 ∉ keys members := by
        intro hmem
        rw [keys, List.map_append, List.nodup_append] at h
        exact h.2.2 _ hmem entry.1 (by simp) rfl
      have hsplit : members ++ entry :: rest = (members ++ [entry]) ++ rest := by simp
      rw [hsplit] at h ⊢
      rw [List.foldl_cons, put_eq_append hfresh, ih h]

/-- Entries whose keys do not repeat remain as they are. -/
theorem ofList_eq_self {entries : Members} (h : (keys entries).Nodup) :
    ofList entries = entries :=
  @foldl_put_eq_append [] entries h

end Members

/-- The items of an array that are strings, if all of them are. -/
def Json.strings? : List Json → Option (List String)
  | [] => some []
  | .string text :: rest => (Json.strings? rest).map (text :: ·)
  | _ :: _ => none

def Json.hasString (text : String) : List Json → Bool
  | [] => false
  | .string item :: rest => item = text || Json.hasString text rest
  | _ :: rest => Json.hasString text rest

end GrammarSieve
