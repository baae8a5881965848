import AnswerGraph.Number.Binary64
import AnswerGraph.Text.Hex
import AnswerGraph.Text.Search

/-!
Texts that have another reading if they are written without quotes: null, flags, and numbers.
-/

namespace AnswerGraph.Yaml

def isNullWord (text : String) : Bool :=
  ["null", "Null", "NULL", "~"].contains text

def flagOf? (text : String) : Option Bool :=
  if ["true", "True", "TRUE"].contains text then some true
  else if ["false", "False", "FALSE"].contains text then some false
  else none

/-- The part after a sign. -/
def unsigned (text : List Char) : List Char :=
  match text with
  | '+' :: rest => rest
  | '-' :: rest => rest
  | _ => text

/-- The number that digits write, if all of them are below the radix. -/
def numberIn? (radix : Nat) (digits : List Char) : Option Nat :=
  if digits.isEmpty then none
  else
    digits.foldlM (fun value digit =>
      (Text.hexValue? digit).bind fun found =>
        if found < radix then some (value * radix + found) else none) 0

/-- Whole numbers of 128 bits after one of the marks `0x`, `0o` and `0b`. -/
def isMarkedNumber (text : List Char) : Bool :=
  let most := if text.head? == some '-' then Nat.pow 2 127 else Nat.pow 2 128 - 1
  let fits (radix : Nat) (digits : List Char) : Bool := (numberIn? radix digits).any (· ≤ most)
  match unsigned text with
  | '0' :: 'x' :: digits => fits 16 digits
  | '0' :: 'o' :: digits => fits 8 digits
  | '0' :: 'b' :: digits => fits 2 digits
  | _ => false

/-- Whether a number of floating point is finite: `digits` times a power of ten. -/
def isFinite (digits : List Char) (power : Int) : Bool :=
  let value := (numberIn? 10 digits).getD 0
  let size : Int := digits.length + power
  if value = 0 ∨ size < -400 then true
  else if 400 < (Nat.repr value).length + power then false
  else (Binary64.ofRatio? false (value * Nat.pow 10 power.toNat) (Nat.pow 10 (-power).toNat)).isSome

/-- The power of ten after an `e`. -/
def power? (text : List Char) : Option Int :=
  match text with
  | '-' :: digits => (numberIn? 10 digits).map fun value => -(value : Int)
  | '+' :: digits => (numberIn? 10 digits).map fun value => (value : Int)
  | digits => (numberIn? 10 digits).map fun value => (value : Int)

/-- Decimal numbers that are not too large. -/
def isDecimal (text : List Char) : Bool :=
  let (whole, rest) := (unsigned text).span Char.isDigit
  let (places, rest) :=
    match rest with
    | '.' :: rest => rest.span Char.isDigit
    | _ => ([], rest)
  let digits := whole ++ places
  let power :=
    match rest with
    | [] => some 0
    | c :: rest => if c == 'e' || c == 'E' then power? rest else none
  !digits.isEmpty && power.any fun power => isFinite digits (power - places.length)

def isSpecialNumber (text : String) : Bool :=
  [".inf", ".Inf", ".INF", "+.inf", "+.Inf", "+.INF", "-.inf", "-.Inf", "-.INF", ".nan", ".NaN",
    ".NAN"].contains text

/-- Whether a text would not be taken for a text. -/
def isAmbiguous (text : String) : Bool :=
  let letters := text.toList
  text.isEmpty || isNullWord text || (flagOf? text).isSome || isMarkedNumber letters ||
    isDecimal letters || isSpecialNumber text

end AnswerGraph.Yaml
