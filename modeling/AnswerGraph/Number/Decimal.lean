import AnswerGraph.Number.Shortest

/-!
Decimal texts of numbers: the shortest text, positional for middling sizes and with an exponent for
the others, and the text with a fixed number of places.
-/

namespace AnswerGraph

/-- How a shortest text is laid out. -/
structure DecimalLayout where
  /-- Numbers whose first digit has at least this power of ten are written positionally, -/
  leastPositional : Int
  /-- up to this power of ten. -/
  mostPositional : Int

namespace Binary64

def sign (x : Binary64) : String := if x.negative then "-" else ""

private def zeros (count : Nat) : String := String.ofList (List.replicate count '0')

/-- The digits of a decimal with a point at the right place. -/
def positional (digits : String) (exponent : Int) : String :=
  let leading : Int := exponent + digits.length
  if 0 ≤ exponent then digits ++ zeros exponent.toNat ++ ".0"
  else if 0 < leading then
    let (whole, places) := digits.toList.splitAt leading.toNat
    String.ofList whole ++ "." ++ String.ofList places
  else "0." ++ zeros (-leading).toNat ++ digits

/-- One digit, a point if more digits follow, and a signed power of ten. -/
def scientific (digits : String) (power : Int) : String :=
  let mantissa :=
    match digits.toList with
    | first :: second :: rest => String.ofList (first :: '.' :: second :: rest)
    | short => String.ofList short
  mantissa ++ "e" ++ (if power < 0 then "-" else "+") ++ toString power.natAbs

def shortestText (layout : DecimalLayout) (x : Binary64) : String :=
  if x.isZero then x.sign ++ "0.0"
  else
    let (k, exponent) := x.shortest
    let digits := toString k
    let power : Int := exponent + digits.length - 1
    x.sign ++
      if layout.leastPositional ≤ power ∧ power ≤ layout.mostPositional then
        positional digits exponent
      else scientific digits power

/-- The text with a fixed number of places, at least one; a half goes to the even neighbour. -/
def fixedText (places : Nat) (x : Binary64) : String :=
  let (num, den) := x.ratio
  let scaled := toString (roundDiv (num * Nat.pow 10 places) den)
  let padded := zeros (places + 1 - scaled.length) ++ scaled
  let (whole, rest) := padded.toList.splitAt (padded.length - places)
  x.sign ++ String.ofList whole ++ "." ++ String.ofList rest

end Binary64

end AnswerGraph
