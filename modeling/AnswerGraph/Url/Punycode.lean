/-!
Reading punycode: the ASCII form of a label, in which a run of variable-length numbers says what
other characters are inserted where.
-/

namespace AnswerGraph.Url.Punycode

def base : Nat := 36
def leastThreshold : Nat := 1
def mostThreshold : Nat := 26
def skew : Nat := 38
def damp : Nat := 700
def initialBias : Nat := 72
def initialCode : Nat := 128

def digitValue? (c : Char) : Option Nat :=
  if 'a' ≤ c ∧ c ≤ 'z' then some (c.toNat - 97)
  else if 'A' ≤ c ∧ c ≤ 'Z' then some (c.toNat - 65)
  else if '0' ≤ c ∧ c ≤ '9' then some (c.toNat - 48 + 26)
  else none

/-- Shrinks a distance until it is small, counting the steps in units of the base. -/
def shrink (delta bias : Nat) : Nat :=
  let limit := (base - leastThreshold) * mostThreshold / 2
  if limit < delta then shrink (delta / (base - leastThreshold)) (bias + base)
  else bias + (base - leastThreshold + 1) * delta / (delta + skew)
termination_by delta
decreasing_by
  have positive : 0 < delta := by omega
  exact Nat.div_lt_self positive (by decide)

/-- The bias after an insertion at a distance, in a label of some length. -/
def adapt (delta length : Nat) (first : Bool) : Nat :=
  let delta := delta / (if first then damp else 2)
  shrink (delta + delta / length) 0

/-- The threshold of a digit at the position `k / 36`. -/
def threshold (k bias : Nat) : Nat :=
  if k ≤ bias then leastThreshold
  else if bias + mostThreshold ≤ k then mostThreshold
  else k - bias

/-- Reads one number, adding it to `total`. Numbers beyond 32 bits are refused. -/
def readNumber? (bias : Nat) (total weight k : Nat) : List Char → Option (Nat × List Char)
  | [] => none
  | c :: rest => do
    let digit ← digitValue? c
    let total := total + digit * weight
    if Nat.pow 2 32 ≤ total then none
    else
      let limit := threshold k bias
      if digit < limit then some (total, rest)
      else readNumber? bias total (weight * (base - limit)) (k + base) rest

/-- The state between two insertions. -/
structure State where
  output : List Char
  code : Nat := initialCode
  position : Nat := 0
  bias : Nat := initialBias

def isScalar (code : Nat) : Bool :=
  code < 0xD800 || (0xE000 ≤ code && code < 0x110000)

/-- Carries out the insertions that remain. Every one reads at least one of the `fuel`
characters. -/
def insertAll? (fuel : Nat) (state : State) (input : List Char) : Option (List Char) :=
  match fuel, input with
  | _, [] => some state.output
  | 0, _ => none
  | fuel + 1, input => do
    let (total, rest) ← readNumber? state.bias state.position 1 base input
    let length := state.output.length + 1
    let code := state.code + total / length
    let position := total % length
    if !isScalar code then none
    else
      let (before, after) := state.output.splitAt position
      insertAll? fuel
        { output := before ++ Char.ofNat code :: after
          code
          position := position + 1
          bias :=
            adapt (total - state.position) length
              (state.position == 0 && state.code == initialCode) }
        rest

/-- The label that a punycode text stands for. -/
def decode? (text : List Char) : Option (List Char) :=
  let tail := (text.reverse.takeWhile (· != '-')).reverse
  let plain := text.take (text.length - tail.length - 1)
  if plain.all (·.toNat < 128) then insertAll? tail.length { output := plain } tail else none

end AnswerGraph.Url.Punycode
