/-
Sums and products of floating point numbers.  Each is the exact result, rounded once.  The
powers of ten are numbers too, and a decimal that is put together from its digits by sums and
products need not be the number nearest to it.
-/
import GrammarSieve.Binary64.Basic

namespace GrammarSieve.Binary64

/-- The number nearest to a fraction.  A fraction of zero keeps the sign. -/
def nearest (negative : Bool) (x : Ratio) : Binary64 :=
  if x.num = 0 then zero negative else ofRatio negative x

def ofNat (n : Nat) : Binary64 :=
  nearest false ⟨n, 1⟩

/-- A finite number as a count of units.  A unit is two to the power `unit`, which is not
above the exponent of the number. -/
def units (negative : Bool) (mantissa : Nat) (exponent unit : Int) : Int :=
  let size : Nat := mantissa * Nat.pow 2 (exponent - unit).toNat
  if negative then -(size : Int) else size

/-- The sum of two numbers.  Two zeros have a negative sum only if both are negative. -/
def add : Binary64 → Binary64 → Binary64
  | .finite n m e, .finite n' m' e' =>
      let unit := min e e'
      let sum := units n m e unit + units n' m' e' unit
      if sum = 0 then zero (n && n') else nearest (sum < 0) (magnitude sum.natAbs unit)
  | .infinite n, .infinite n' => if n = n' then .infinite n else .notANumber
  | .infinite n, .finite .. => .infinite n
  | .finite .., .infinite n => .infinite n
  | _, _ => .notANumber

/-- The product of two numbers.  Nothing times an infinity is no number. -/
def mul : Binary64 → Binary64 → Binary64
  | .finite n m e, .finite n' m' e' => nearest (n != n') (magnitude (m * m') (e + e'))
  | .infinite n, .infinite n' => .infinite (n != n')
  | .infinite n, .finite n' m _ => if m = 0 then .notANumber else .infinite (n != n')
  | .finite n m _, .infinite n' => if m = 0 then .notANumber else .infinite (n != n')
  | _, _ => .notANumber

def neg : Binary64 → Binary64
  | .finite n m e => .finite (!n) m e
  | .infinite n => .infinite (!n)
  | .notANumber => .notANumber

def size : Binary64 → Ratio
  | .finite _ m e => magnitude m e
  | _ => ⟨0, 1⟩

/-- The number after a positive one whose mantissa is not the greatest. -/
def above : Binary64 → Binary64
  | .finite n m e => .finite n (m + 1) e
  | x => x

/-- The two powers of ten which lie so close to the middle between two numbers that the upper
one stands for them, although the lower one is as near or nearer. -/
def roundedUpPowers : List Int :=
  [23, 210]

/-- The number that stands for a power of ten. -/
def powerOfTen (power : Int) : Binary64 :=
  let nearby := ofDecimal false 1 power
  if power ∈ roundedUpPowers then nearby.above else nearby

/-- The number with this whole part and these digits after the point, which spell `places`:
the digits are scaled down by a power of ten, and the whole part is added to them. -/
def ofPlaces (whole places count : Nat) : Binary64 :=
  (ofNat whole).add ((ofNat places).mul (powerOfTen (-(count : Int))))

end GrammarSieve.Binary64
