/-!
Finite binary floating-point numbers of 53 digits, in exact arithmetic. A number is a mantissa times
a power of two; the only operations needed are rounding a quotient of natural numbers to the nearest
one and scaling by powers of ten.
-/

namespace AnswerGraph

/-- The number `mantissa * 2 ^ exponent`, negated if `negative`. Zero keeps its sign. -/
structure Binary64 where
  negative : Bool
  mantissa : Nat
  exponent : Int
  deriving DecidableEq, Repr

namespace Binary64

/-- The least exponent: numbers below `2 ^ (52 + minExponent)` have fewer digits. -/
def minExponent : Int := -1074

def maxExponent : Int := 971

/-- `num / den` rounded to a natural number; a half goes to the even neighbour. -/
def roundDiv (num den : Nat) : Nat :=
  let quotient := num / den
  let rest := num % den
  if 2 * rest < den then quotient
  else if den < 2 * rest then quotient + 1
  else if quotient % 2 = 0 then quotient else quotient + 1

/-- `num / (den * 2 ^ exponent)` rounded to a natural number. -/
def roundAt (num den : Nat) (exponent : Int) : Nat :=
  roundDiv (num * Nat.pow 2 (-exponent).toNat) (den * Nat.pow 2 exponent.toNat)

/-- The exponent at which a quotient has 53 digits, or the least one. -/
def exponentOf (num den : Nat) : Int :=
  let guess : Int := (num.log2 : Int) - den.log2 - 52
  let fits := den * Nat.pow 2 guess.toNat * Nat.pow 2 52 ≤ num * Nat.pow 2 (-guess).toNat
  max (if fits then guess else guess - 1) minExponent

/-- The nearest number to `num / den`; none if that is too large. -/
def ofRatio? (negative : Bool) (num den : Nat) : Option Binary64 :=
  if num = 0 then some ⟨negative, 0, minExponent⟩
  else
    let exponent := exponentOf num den
    let mantissa := roundAt num den exponent
    let (mantissa, exponent) :=
      if mantissa = Nat.pow 2 53 then (Nat.pow 2 52, exponent + 1) else (mantissa, exponent)
    if maxExponent < exponent then none else some ⟨negative, mantissa, exponent⟩

def ofNat? (negative : Bool) (value : Nat) : Option Binary64 :=
  ofRatio? negative value 1

/-- The absolute value as a quotient. -/
def ratio (x : Binary64) : Nat × Nat :=
  (x.mantissa * Nat.pow 2 x.exponent.toNat, Nat.pow 2 (-x.exponent).toNat)

def isZero (x : Binary64) : Bool := x.mantissa = 0

/-- The largest power of ten that scaling uses at once. -/
def maxPower : Nat := 308

/-- Multiplies by a power of ten up to `10 ^ 308`, which is itself rounded first. -/
def timesPower? (x : Binary64) (power : Nat) : Option Binary64 := do
  let scale ← ofNat? false (Nat.pow 10 power)
  let (num, den) := x.ratio
  let (scaleNum, scaleDen) := scale.ratio
  ofRatio? x.negative (num * scaleNum) (den * scaleDen)

/-- Divides by a power of ten up to `10 ^ 308`, which is itself rounded first. -/
def overPower? (x : Binary64) (power : Nat) : Option Binary64 := do
  let scale ← ofNat? false (Nat.pow 10 power)
  let (num, den) := x.ratio
  let (scaleNum, scaleDen) := scale.ratio
  ofRatio? x.negative (num * scaleDen) (den * scaleNum)

/-- Divides by `10 ^ power`, in steps of `10 ^ 308` as long as something is left. -/
def scaleDown? (x : Binary64) (power : Nat) : Option Binary64 :=
  if power ≤ maxPower then x.overPower? power
  else if x.isZero then some x
  else do
    let smaller ← x.overPower? maxPower
    scaleDown? smaller (power - maxPower)
termination_by power
decreasing_by
  have : maxPower = 308 := rfl
  omega

/-- The number `digits * 10 ^ exponent`. The digits are rounded before they are scaled, so that a
result may differ from the nearest number in its last digit. -/
def ofDecimal? (negative : Bool) (digits : Nat) (exponent : Int) : Option Binary64 := do
  let start ← ofNat? negative digits
  if exponent < 0 then start.scaleDown? (-exponent).toNat
  else if exponent ≤ maxPower then start.timesPower? exponent.toNat
  else if start.isZero then some start
  else none

end Binary64

end AnswerGraph
