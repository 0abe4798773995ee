/-
Decoding with its conversions written out.  The digits of an index are text until an integer is
read from them, and a token is refused if its position is negative.  Both checks can fail, but not
on what stands in an anchor, so that decoding fails for a flaw of its text or not at all.  The flaw
is reported as an error, unless it is an index that is too long or an entry that cannot be shown.
-/
import GrammarSieve.Proofs.Edge.FirstFlaw

namespace GrammarSieve

open Text (isDigit decimalValue)

namespace Text

/-- The natural number that a text spells with decimal digits, at least one. -/
def natural? (text : List Char) : Option Nat :=
  if text ≠ [] ∧ text.all isDigit then some (decimalValue text) else none

/-- The integer that a text spells, with or without a sign. -/
def integer? : List Char → Option Int
  | '-' :: digits => (natural? digits).map fun n => -(n : Int)
  | '+' :: digits => (natural? digits).map Int.ofNat
  | digits => (natural? digits).map Int.ofNat

theorem natural?_digits {digits : List Char} (hne : digits ≠ [])
    (hdigits : ∀ c ∈ digits, isDigit c = true) : natural? digits = some (decimalValue digits) := by
  rw [natural?, if_pos ⟨hne, List.all_eq_true.mpr hdigits⟩]

/-- Digits have no sign, and spell a natural number. -/
theorem integer?_digits {digits : List Char} (hne : digits ≠ [])
    (hdigits : ∀ c ∈ digits, isDigit c = true) :
    integer? digits = some (decimalValue digits : Int) := by
  rw [integer?.eq_def]
  split
  · next rest => exact absurd (hdigits '-' List.mem_cons_self) (by decide)
  · next rest => exact absurd (hdigits '+' List.mem_cons_self) (by decide)
  · rw [natural?_digits hne hdigits]
    rfl

end Text

namespace Edge

/-- The ways in which decoding could fail if its conversions did. -/
inductive CheckedError where
  | decode (cause : DecodeError)
  | notInteger (text : List Char)
  | negativePosition (position : Int)
deriving Repr

def convertIndex (digits : List Char) : Except CheckedError Int :=
  if Text.digitLimit < digits.length then .error (.decode (.longIndex digits.length))
  else
    match Text.integer? digits with
    | some position => .ok position
    | none => .error (.notInteger digits)

def convertToken (token : List Char) (position : Int) : Except CheckedError EnumeratedToken :=
  match EnumeratedToken.ofInt? (String.ofList token) position with
  | some converted => .ok converted
  | none => .error (.negativePosition position)

def splitRelationChecked (encoding : List Char) : Except CheckedError (List Char × List Char) :=
  (splitRelation encoding).mapError .decode

def scanGovernorChecked (remainder : List Char) :
    Except CheckedError (EnumeratedToken × List Char) :=
  match firstAnchor? remainder with
  | none => .error (.decode (.noGovernorIndex (String.ofList remainder)))
  | some ⟨before, digits, after⟩ =>
      convertIndex digits >>= fun position =>
        if before = [] then .error (.decode (.emptyGovernor (String.ofList remainder)))
        else (convertToken before position).map fun governor => (governor, after)

def scanDependentChecked (rest : List Char) : Except CheckedError EnumeratedToken :=
  (dependentParts rest).mapError .decode >>= fun (token, digits) =>
    convertIndex digits >>= convertToken token

def decodeChecked (encoding : String) : Except CheckedError Edge :=
  splitRelationChecked encoding.toList >>= fun (relation, remainder) =>
    scanGovernorChecked remainder >>= fun (governor, rest) =>
      scanDependentChecked rest >>= fun dependent =>
        .ok ⟨String.ofList relation, governor, dependent⟩

def ofJsonChecked : Json → Except CheckedError Edge
  | .string encoding => decodeChecked encoding
  | entry => .error (.decode (.edgeNotText entry))

/-- The digits of an index are read as its position, or are too many. -/
theorem convertIndex_digits (index : WrittenIndex) :
    convertIndex index.digits = ((position index.digits).mapError .decode).map Int.ofNat := by
  rw [convertIndex]
  cases hposition : position index.digits with
  | error cause =>
      obtain ⟨hlong, rfl⟩ := index.position_digits_eq_error_iff.mp hposition
      rw [if_pos (Nat.not_le.mp hlong)]
      rfl
  | ok found =>
      obtain ⟨hshort, rfl⟩ := index.position_digits_eq_ok_iff.mp hposition
      rw [if_neg (Nat.not_lt.mpr hshort),
        Text.integer?_digits index.digits_ne_nil index.isDigit_of_mem]
      rfl

/-- A position that was counted is never refused. -/
theorem convertToken_ofNat (token : List Char) (position : Nat) :
    convertToken token (Int.ofNat position) = .ok ⟨String.ofList token, position⟩ := by
  rfl

theorem scanGovernorChecked_eq (remainder : List Char) :
    scanGovernorChecked remainder = (scanGovernor remainder).mapError .decode := by
  rw [scanGovernorChecked, scanGovernor]
  cases hfound : firstAnchor? remainder with
  | none => rfl
  | some found =>
      obtain ⟨before, digits, after⟩ := found
      obtain ⟨-, index, rfl, -⟩ := exists_of_firstAnchor? hfound
      simp only [convertIndex_digits]
      cases position index.digits with
      | error cause => rfl
      | ok found =>
          change (if before = [] then _ else (convertToken before (Int.ofNat found)).map _) = _
          rw [convertToken_ofNat]
          by_cases hempty : before = [] <;> simp [hempty, Except.mapError, Except.map]

theorem scanDependentChecked_eq (rest : List Char) :
    scanDependentChecked rest = (scanDependent rest).mapError .decode := by
  rw [scanDependentChecked, scanDependent_eq_bind]
  cases hparts : dependentParts rest with
  | error cause => rfl
  | ok parts =>
      obtain ⟨token, digits⟩ := parts
      obtain ⟨before, index, rfl, -⟩ := exists_index_of_dependentParts hparts
      change convertIndex index.digits >>= convertToken token = _
      rw [convertIndex_digits]
      change _ = (position index.digits >>= _).mapError _
      cases position index.digits with
      | error cause => rfl
      | ok found => exact convertToken_ofNat token found

/-- The conversions change nothing: decoding with them is decoding. -/
theorem decodeChecked_eq (encoding : String) :
    decodeChecked encoding = (decode encoding).mapError .decode := by
  rw [decodeChecked, decode_eq_bind, splitRelationChecked]
  cases splitRelation encoding.toList with
  | error cause => rfl
  | ok split =>
      rcases split with ⟨relation, remainder⟩
      change scanGovernorChecked remainder >>= _ = (scanGovernor remainder >>= _).mapError _
      rw [scanGovernorChecked_eq]
      cases scanGovernor remainder with
      | error cause => rfl
      | ok governed =>
          rcases governed with ⟨governor, rest⟩
          change scanDependentChecked rest >>= _ = (scanDependent rest >>= _).mapError _
          rw [scanDependentChecked_eq]
          cases scanDependent rest with
          | error cause => rfl
          | ok dependent => rfl

theorem ofJsonChecked_eq (entry : Json) :
    ofJsonChecked entry = (ofJson entry).mapError .decode := by
  cases entry with
  | string encoding => exact decodeChecked_eq encoding
  | _ => rfl

section

variable {ε ε' α : Type} {step : Except ε α} {change : ε → ε'}

theorem mapError_eq_ok_iff {value : α} : step.mapError change = .ok value ↔ step = .ok value := by
  cases step <;> simp [Except.mapError]

theorem mapError_eq_error_iff {failure : ε'} :
    step.mapError change = .error failure ↔
      ∃ cause, change cause = failure ∧ step = .error cause := by
  cases step with
  | ok value => simp [Except.mapError]
  | error cause => simp [Except.mapError, and_comm]

end

/-- Decoding fails for the first flaw that the entry has, and has a result where there is none. -/
theorem ofJson_eq_error_iff {entry : Json} {cause : DecodeError} :
    ofJson entry = .error cause ↔ FirstFound (Flawed entry) Flaw.all cause :=
  (performs_ofJson entry).eq_error_iff fun _ _ _ => Flawed.cause_unique

theorem exists_ofJson_eq_ok_iff {entry : Json} :
    (∃ e, ofJson entry = .ok e) ↔ ∀ flaw, Clear (Flawed entry) flaw := by
  simp only [(performs_ofJson entry).exists_eq_ok_iff, Flaw.mem_all, true_implies]

/-- Where values can be shown up to a depth, decoding an entry fails exactly for the first flaw
that it has, it has a result exactly if there is none, and no conversion on the way ever fails for
another reason.  The flaw is reported as an error, unless it is an index with too many digits to be
read or an entry that is no text and nested too deep; these break the decoding off. -/
theorem parse_fails_for_first_flaw (room : Nat) (entry : Json) :
    (∀ failure, ofJsonChecked entry = .error failure ↔
      ∃ cause, .decode cause = failure ∧ FirstFound (Flawed entry) Flaw.all cause) ∧
    ((∃ e, parse room entry = .ok e) ↔ ∀ flaw, Clear (Flawed entry) flaw) ∧
    (∀ failure, parse room entry = .error failure ↔
      ∃ cause, cause.failure room = failure ∧ FirstFound (Flawed entry) Flaw.all cause) ∧
    ∀ flaw cause, Flawed entry flaw cause →
      (cause.failure room = .reported cause ↔
        flaw ≠ .longGovernorIndex ∧ flaw ≠ .longDependentIndex ∧
          (flaw = .notText → entry.breakdown? room = none)) := by
  refine ⟨fun failure => ?_, ?_, fun failure => ?_, fun flaw cause hflaw => ?_⟩
  · simp only [ofJsonChecked_eq, mapError_eq_error_iff, ofJson_eq_error_iff]
  · simp only [parse, mapError_eq_ok_iff, exists_ofJson_eq_ok_iff]
  · simp only [parse, mapError_eq_error_iff, ofJson_eq_error_iff]
  · rw [← hflaw.breakdown?_eq_none_iff room, DecodeError.failure]
    cases cause.breakdown? room <;> simp

/-- A list within lists, this many around it. -/
def nestedList : Nat → Json
  | 0 => .array []
  | depth + 1 => .array [nestedList depth]

theorem breakdown?_nestedList {room depth : Nat} (h : room ≤ depth) :
    (nestedList depth).breakdown? room = some .deepValue := by
  induction depth generalizing room with
  | zero =>
      obtain rfl := Nat.le_zero.mp h
      rfl
  | succ depth ih =>
      cases room with
      | zero => rfl
      | succ room =>
          have hinner := ih (Nat.le_of_succ_le_succ h)
          simp only [nestedList, Json.breakdown?, Json.itemsBreakdown?, hinner, Option.some_or]

/-- A thousand lists around a list are no text, and this is not reported. -/
theorem parse_nestedList :
    let entry := nestedList 1000
    Flawed entry .notText (.edgeNotText entry) ∧
      parse 1000 entry = .error (.brokenOff .deepValue) := by
  intro entry
  have hlist : ∀ depth encoding, nestedList depth ≠ .string encoding := by
    intro depth encoding
    cases depth <;> simp [nestedList]
  have hflaw : Flawed entry .notText (.edgeNotText entry) := .notText (hlist 1000)
  have hparse : parse 1000 entry = .error (DecodeError.failure 1000 (.edgeNotText entry)) := rfl
  have hdeep : (DecodeError.edgeNotText entry).breakdown? 1000 = some .deepValue :=
    breakdown?_nestedList (Nat.le_refl 1000)
  rw [DecodeError.failure, hdeep] at hparse
  exact ⟨hflaw, hparse⟩

/-- An empty governor is reported although an anchor follows that has one. -/
example : ofJson (.string "nn(-1,prices-0,oil-1)") =
    .error (.emptyGovernor "-1,prices-0,oil-1)") := by rfl

end Edge

end GrammarSieve
