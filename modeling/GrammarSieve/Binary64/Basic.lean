/-
Numbers with a fraction, held as binary floating point numbers of 64 bits.  A decimal text is
rounded to the nearest such number, and a tie goes to the even mantissa.  All arithmetic is
on natural numbers, so every rounding is exact.
-/
namespace GrammarSieve

/-- A fraction of natural numbers with a positive denominator. -/
structure Ratio where
  num : Nat
  den : Nat
deriving DecidableEq, Repr

/-- The fraction times a power of the base. -/
def Ratio.scale (x : Ratio) (base : Nat) (power : Int) : Ratio :=
  ⟨x.num * base.pow power.toNat, x.den * base.pow (-power).toNat⟩

def Ratio.le (x y : Ratio) : Bool :=
  x.num * y.den ≤ y.num * x.den

def Ratio.lt (x y : Ratio) : Bool :=
  x.num * y.den < y.num * x.den

def Ratio.floor (x : Ratio) : Nat :=
  x.num / x.den

/-- The nearest natural number; of two equally near ones, the even one. -/
def Ratio.round (x : Ratio) : Nat :=
  let whole := x.num / x.den
  let twice := 2 * (x.num % x.den)
  if twice < x.den then whole
  else if x.den < twice then whole + 1
  else if whole % 2 = 0 then whole
  else whole + 1

/-- The power of the base is not above the fraction. -/
def Ratio.reaches (x : Ratio) (base : Nat) (power : Int) : Bool :=
  Ratio.le (Ratio.scale ⟨1, 1⟩ base power) x

/-- The greatest power of two that is not above a positive fraction. -/
def Ratio.floorLog2 (x : Ratio) : Int :=
  let guess : Int := (Nat.log2 x.num : Int) - Nat.log2 x.den
  if x.reaches 2 guess then guess else guess - 1

/-- The greatest power of ten that is not above a positive fraction. -/
def Ratio.floorLog10 (x : Ratio) : Int :=
  let guess := Int.fdiv (x.floorLog2 * 30103) 100000
  if x.reaches 10 (guess + 1) then guess + 1
  else if x.reaches 10 guess then guess
  else guess - 1

/-- A binary floating point number of 64 bits.  A finite one is the mantissa times two to the
exponent; its mantissa has 53 bits, unless the exponent is the least one. -/
inductive Binary64 where
  | finite (negative : Bool) (mantissa : Nat) (exponent : Int)
  | infinite (negative : Bool)
  | notANumber
deriving DecidableEq, Repr, Inhabited

namespace Binary64

def leastExponent : Int := -1074

def greatestExponent : Int := 971

def zero (negative : Bool) : Binary64 :=
  .finite negative 0 leastExponent

/-- The number nearest to a positive fraction. -/
def ofRatio (negative : Bool) (x : Ratio) : Binary64 :=
  let exponent := max (x.floorLog2 - 52) leastExponent
  let mantissa := (x.scale 2 (-exponent)).round
  let (mantissa, exponent) :=
    if mantissa = Nat.pow 2 53 then (Nat.pow 2 52, exponent + 1) else (mantissa, exponent)
  if greatestExponent < exponent then .infinite negative
  else .finite negative mantissa exponent

/-- The number nearest to `digits` times ten to the power.  Powers far outside the range of
finite numbers are settled by the number of digits alone. -/
def ofDecimal (negative : Bool) (digits : Nat) (power : Int) : Binary64 :=
  let size : Int := (Nat.toDigits 10 digits).length
  if digits = 0 then zero negative
  else if 310 < power + size then .infinite negative
  else if power + size < -330 then zero negative
  else ofRatio negative (Ratio.scale ⟨digits, 1⟩ 10 power)

/-- The fraction that a mantissa and an exponent stand for. -/
def magnitude (mantissa : Nat) (exponent : Int) : Ratio :=
  Ratio.scale ⟨mantissa, 1⟩ 2 exponent

end Binary64

end GrammarSieve
