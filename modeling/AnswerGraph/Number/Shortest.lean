import AnswerGraph.Number.Binary64

/-!
The shortest decimal that reads back as a given number. The reals that round to a number form an
interval; the coarsest decimal grid with a point in it gives the fewest digits, and of two such
points the nearer one is taken.
-/

namespace AnswerGraph

namespace Binary64

/-- The value and the ends of the rounding interval of a number, all in the unit
`2 ^ (exponent - 2)`. -/
structure Interval where
  low : Nat
  value : Nat
  high : Nat
  /-- The ends themselves round to the number. -/
  closed : Bool

def interval (x : Binary64) : Interval :=
  let below := if x.mantissa = Nat.pow 2 52 ∧ minExponent < x.exponent then 1 else 2
  { low := 4 * x.mantissa - below
    value := 4 * x.mantissa
    high := 4 * x.mantissa + 2
    closed := x.mantissa % 2 = 0 }

/-- The point of the grid of multiples of `step` in the interval, times `step`, that is nearest to
the value. All lengths are in one unit. -/
def Interval.pointOn? (range : Interval) (unit step : Nat) : Option Nat :=
  let inside (k : Nat) : Bool :=
    if range.closed then range.low * unit ≤ k * step ∧ k * step ≤ range.high * unit
    else range.low * unit < k * step ∧ k * step < range.high * unit
  let value := range.value * unit
  let below := value / step
  let above := below + 1
  match inside below && below != 0, inside above with
  | true, true =>
    let down := value - below * step
    let up := above * step - value
    if down < up then some below
    else if up < down then some above
    else if below % 2 = 0 then some below else some above
  | true, false => some below
  | false, true => some above
  | false, false => none

/-- Tries the grids `10 ^ (steps - 325)`, `10 ^ (steps - 326)`, ..., `10 ^ (-324)`. -/
def shortestFrom (range : Interval) (exponent : Int) : Nat → Nat × Int
  | 0 => (range.value, 0)
  | steps + 1 =>
    let power : Int := (steps : Int) - 324
    let unit := Nat.pow 2 exponent.toNat * Nat.pow 10 (-power).toNat
    let step := Nat.pow 2 (-exponent).toNat * Nat.pow 10 power.toNat
    match range.pointOn? unit step with
    | some k => (k, power)
    | none => shortestFrom range exponent steps

/-- Digits and exponent of the shortest decimal for the absolute value of a number that is not
zero. -/
def shortest (x : Binary64) : Nat × Int :=
  let (num, den) := x.ratio
  let wholeDigits := (Nat.repr (num / den)).length
  shortestFrom x.interval (x.exponent - 2) (wholeDigits + 325)

end Binary64

end AnswerGraph
