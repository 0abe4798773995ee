/-
Decimal texts of floating point numbers.  The shown text has the fewest digits that read back
as the same number, and of those the nearest; powers of ten from -4 to 15 are written without
an exponent.  The stored text has ten places at most.
-/
import GrammarSieve.Binary64.Arithmetic

namespace GrammarSieve.Binary64

/-- Takes the zeros off the end of a digit string, counting them into the power. -/
def trimZeros : Nat → Nat → Int → Nat × Int
  | 0, digits, power => (digits, power)
  | fuel + 1, digits, power =>
      if digits % 10 = 0 && digits ≠ 0 then trimZeros fuel (digits / 10) (power + 1)
      else (digits, power)

/-- A decimal lies among the reals that round to the number.  The two ends of that interval
round to it exactly if its mantissa is even. -/
def roundsTo (mantissa : Nat) (exponent : Int) (candidate : Ratio) : Bool :=
  let low :=
    if mantissa = Nat.pow 2 52 && leastExponent < exponent then
      magnitude (4 * mantissa - 1) (exponent - 2)
    else magnitude (2 * mantissa - 1) (exponent - 1)
  let high := magnitude (2 * mantissa + 1) (exponent - 1)
  if mantissa % 2 = 0 then low.le candidate && candidate.le high
  else low.lt candidate && candidate.lt high

/-- The decimal with `count` digits that reads back as the number, if there is one: its
neighbours on the grid of such decimals are tried, and the nearer one wins. -/
def decimalOfCount? (mantissa : Nat) (exponent : Int) (count : Nat) : Option (Nat × Int) :=
  let value := magnitude mantissa exponent
  let power := value.floorLog10 - count + 1
  let scaled := value.scale 10 (-power)
  let below := scaled.floor
  let reads (digits : Nat) : Bool :=
    roundsTo mantissa exponent (Ratio.scale ⟨digits, 1⟩ 10 power)
  match reads below, reads (below + 1) with
  | true, true => some (scaled.round, power)
  | true, false => some (below, power)
  | false, true => some (below + 1, power)
  | false, false => none

/-- The shortest decimal that reads back as a positive number.  Seventeen digits always
suffice. -/
def shortest (mantissa : Nat) (exponent : Int) : Nat × Int :=
  match (List.range 17).findSome? (fun n => decimalOfCount? mantissa exponent (n + 1)) with
  | some (digits, power) => trimZeros 20 digits power
  | none => (mantissa, 0)

def zeros (count : Int) : List Char :=
  List.replicate count.toNat '0'

/-- Digits with the decimal point after the first `place` of them; zeros fill the gap when
the point lies outside. -/
def placePoint (digits : List Char) (place : Int) : List Char :=
  if place ≤ 0 then '0' :: '.' :: zeros (-place) ++ digits
  else if (digits.length : Int) ≤ place then
    digits ++ zeros (place - digits.length) ++ ['.', '0']
  else digits.take place.toNat ++ '.' :: digits.drop place.toNat

/-- An exponent has a sign and at least two digits. -/
def exponentText (power : Int) : List Char :=
  let digits := Nat.toDigits 10 power.natAbs
  (if power < 0 then '-' else '+') :: zeros (2 - (digits.length : Int)) ++ digits

def scientific (digits : List Char) (power : Int) : List Char :=
  digits.take 1 ++ (if digits.length ≤ 1 then [] else '.' :: digits.drop 1) ++
    'e' :: exponentText power

def signed (negative : Bool) (text : List Char) : List Char :=
  if negative then '-' :: text else text

/-- The text that messages show. -/
def shown : Binary64 → List Char
  | .notANumber => ['n', 'a', 'n']
  | .infinite negative => signed negative ['i', 'n', 'f']
  | .finite negative mantissa exponent =>
      if mantissa = 0 then signed negative ['0', '.', '0']
      else
        let (digits, power) := shortest mantissa exponent
        let text := Nat.toDigits 10 digits
        let place : Int := text.length + power
        signed negative <|
          if -4 < place && place ≤ 16 then placePoint text place
          else scientific text (place - 1)

/-- A positive fraction with one digit before the point, fifteen after it, and an exponent. -/
def sixteenDigits (value : Ratio) : List Char :=
  let power := value.floorLog10
  let digits := (value.scale 10 (15 - power)).round
  let (digits, power) :=
    if digits = Nat.pow 10 16 then (Nat.pow 10 15, power + 1) else (digits, power)
  scientific (Nat.toDigits 10 digits) power

def storedPlaces : Nat := 10

/-- The whole part of a fraction and its stored places as one natural number.  The places are
those of the rounded product with a power of ten.  A remainder above one half rounds up, and
may carry into the whole part.  A remainder of one half makes odd places even and turns none
into one; it carries nothing, so that there may be one place too many. -/
def splitPlaces (value : Ratio) : Nat × Nat :=
  let whole := value.floor
  let rest := nearest false ⟨value.num % value.den, value.den⟩
  let product := rest.mul (ofNat (Nat.pow 10 storedPlaces))
  let scaled := product.size
  let places := scaled.floor
  let twice := 2 * (scaled.num % scaled.den)
  if scaled.den < twice then
    if places + 1 = Nat.pow 10 storedPlaces then (whole + 1, 0) else (whole, places + 1)
  else if twice = scaled.den && (places = 0 || places % 2 = 1) then (whole, places + 1)
  else (whole, places)

/-- The whole part, the point, and the places without the zeros at their end, but at least
one of them. -/
def joinPlaces (whole places : Nat) : List Char :=
  let (digits, power) := trimZeros storedPlaces places (-(storedPlaces : Int))
  let text := Nat.toDigits 10 digits
  Nat.toDigits 10 whole ++
    if places = 0 then ['.', '0'] else '.' :: zeros (-power - text.length) ++ text

/-- The text that is stored: ten places at most; numbers above 10^16 have an exponent. -/
def stored : Binary64 → List Char
  | .notANumber => ['n', 'a', 'n']
  | .infinite negative => signed negative ['i', 'n', 'f']
  | .finite negative mantissa exponent =>
      let value := magnitude mantissa exponent
      signed (negative && mantissa ≠ 0) <|
        if Ratio.lt ⟨Nat.pow 10 16, 1⟩ value then sixteenDigits value
        else
          let (whole, places) := splitPlaces value
          joinPlaces whole places

end GrammarSieve.Binary64
