import AnswerGraph.Text.Blank
import AnswerGraph.Time.Moment

/-!
Reading a moment: a date, a time and a zone. Blanks may stand around most parts, numbers may be
shorter than usual, and a year with a sign may be longer.
-/

namespace AnswerGraph

namespace Moment

private def value (digits : List Char) : Nat :=
  digits.foldl (fun value digit => value * 10 + (digit.toNat - 48)) 0

/-- Reads digits, one at least and `most` at most. -/
def takeNumber? (most : Nat) (text : List Char) : Option (Nat × List Char) :=
  let digits := (text.take most).takeWhile Char.isDigit
  if digits.isEmpty then none else some (value digits, text.drop digits.length)

/-- Reads a number of one or two digits after blanks. -/
def takeShort? (text : List Char) : Option (Nat × List Char) :=
  takeNumber? 2 (Text.trimStart text)

/-- Reads a year of up to four digits, or of any number of digits after a sign. -/
def takeYear? (text : List Char) : Option (Int × List Char) :=
  match Text.trimStart text with
  | '-' :: rest => (takeNumber? rest.length rest).map fun (year, after) => (-(year : Int), after)
  | '+' :: rest => (takeNumber? rest.length rest).map fun (year, after) => ((year : Int), after)
  | rest => (takeNumber? 4 rest).map fun (year, after) => ((year : Int), after)

/-- Reads a mark after blanks. -/
def takeMark? (mark : Char) (text : List Char) : Option (List Char) :=
  match Text.trimStart text with
  | [] => none
  | c :: rest => if c = mark then some rest else none

def takeDate? (text : List Char) : Option (Date × List Char) := do
  let (year, text) ← takeYear? text
  let text ← takeMark? '-' text
  let (month, text) ← takeShort? text
  let text ← takeMark? '-' text
  let (day, text) ← takeShort? text
  some (⟨year, month, day⟩, text)

def takeSeparator? : List Char → Option (List Char)
  | [] => none
  | c :: rest => if c = 'T' ∨ c = 't' ∨ c = ' ' then some rest else none

/-- Reads places of a second; those after the ninth are dropped. -/
def takePlaces? : List Char → Option (Nat × List Char)
  | '.' :: rest => do
    let (number, after) ← takeNumber? 9 rest
    let places := rest.length - after.length
    some (number * Nat.pow 10 (9 - places), after.dropWhile Char.isDigit)
  | rest => some (0, rest)

/-- Reads a zone: its offset in minutes. -/
def takeZone? (text : List Char) : Option (Int × List Char) :=
  if (text.take 3).map Char.toUpper = ['U', 'T', 'C'] then some (0, text.drop 3)
  else
    match text with
    | [] => none
    | c :: rest =>
      if c = 'Z' ∨ c = 'z' then some (0, rest)
      else if c = '+' ∨ c = '-' ∨ c = Char.ofNat 0x2212 then
        match rest with
        | a :: b :: rest =>
          match rest.dropWhile fun c => c == ':' || Text.isBlank c with
          | d :: e :: rest =>
            if [a, b, d, e].all Char.isDigit && d < '6' then
              let offset : Int := value [a, b] * 60 + value [d, e]
              some (if c = '+' then offset else -offset, rest)
            else none
          | _ => none
        | _ => none
      else none

/-- The moment that a text stands for. -/
def ofText? (text : List Char) : Option Moment := do
  let (date, text) ← takeDate? text
  let text ← takeSeparator? text
  let (hour, text) ← takeShort? text
  let text ← takeMark? ':' text
  let (minute, text) ← takeShort? text
  let text ← takeMark? ':' text
  let (second, text) ← takeShort? text
  let (nanosecond, text) ← takePlaces? text
  let (offset, rest) ← takeZone? (Text.trimStart text)
  if Text.isAllBlank rest && date.isValid && hour < 24 && minute < 60 && second ≤ 60 &&
      offset.natAbs < minutesInDay then
    atOffset? ⟨date, hour, minute, second, nanosecond⟩ offset
  else none

end Moment

end AnswerGraph
