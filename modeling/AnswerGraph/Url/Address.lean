import AnswerGraph.Text.Hex
import AnswerGraph.Text.Search

/-!
Numeric addresses. A host whose last label is a number must be an address of up to four numbers,
decimal, octal or hexadecimal; a host in brackets must be an address of eight groups, of which one
run may be left out and the last two may be written as four numbers.
-/

namespace AnswerGraph.Url

def isHexDigit (c : Char) : Bool := (Text.hexValue? c).isSome

def hexValue (c : Char) : Nat := (Text.hexValue? c).getD 0

def valueIn (radix : Nat) (digits : List Char) : Nat :=
  digits.foldl (fun value digit => value * radix + hexValue digit) 0

namespace Ipv4

/-- A part of an address; a leading zero announces octal digits and `0x` hexadecimal ones. -/
def part? : List Char → Option Nat
  | [] => none
  | '0' :: 'x' :: digits => if digits.all isHexDigit then some (valueIn 16 digits) else none
  | '0' :: 'X' :: digits => if digits.all isHexDigit then some (valueIn 16 digits) else none
  | ['0'] => some 0
  | '0' :: digits =>
    if digits.all fun c => '0' ≤ c && c ≤ '7' then some (valueIn 8 digits) else none
  | digits => if digits.all Char.isDigit then some (valueIn 10 digits) else none

/-- Whether the last label of a host, not counting an empty one at the end, is a number. -/
def endsInNumber (labels : List (List Char)) : Bool :=
  let counted :=
    match labels.reverse with
    | [] :: rest => rest
    | reversed => reversed
  match counted with
  | [] => false
  | last :: _ => (!last.isEmpty && last.all Char.isDigit) || (part? last).isSome

/-- Whether the labels are an address: the last number fills what the others leave of four bytes. -/
def isAddress (labels : List (List Char)) : Bool :=
  let labels := if labels.getLast? == some [] then labels.dropLast else labels
  match (labels.mapM part?).map List.reverse with
  | some (last :: others) =>
    labels.length ≤ 4 && last < Nat.pow 256 (4 - others.length) && others.all (· ≤ 255)
  | _ => false

end Ipv4

namespace Ipv6

/-- The groups read so far. -/
structure Groups where
  count : Nat := 0
  compressed : Bool := false

/-- A decimal number below 256 without leading zeros, and what follows it. -/
def byte? (text : List Char) : Option (List Char) :=
  let (digits, rest) := text.span Char.isDigit
  match digits with
  | [] => none
  | ['0'] => some rest
  | '0' :: _ => none
  | _ => if valueIn 10 digits ≤ 255 then some rest else none

/-- Whether a text is exactly four numbers with dots between them. -/
def isFourBytes (text : List Char) : Bool :=
  match (byte? text).bind (Text.dropPrefix? ['.']) |>.bind byte? |>.bind (Text.dropPrefix? ['.'])
      |>.bind byte? |>.bind (Text.dropPrefix? ['.']) |>.bind byte? with
  | some [] => true
  | _ => false

/-- Whether the groups make up an address. -/
def isComplete (groups : Groups) : Bool := groups.compressed || groups.count == 8

/-- Whether a text completes the groups read so far. A second colon in a row stands for the groups
that are left out, which may happen once. -/
def completes (fuel : Nat) (groups : Groups) (text : List Char) : Bool :=
  match fuel, text with
  | _, [] => isComplete groups
  | 0, _ => false
  | fuel + 1, text =>
    if groups.count == 8 then false
    else
      match text with
      | ':' :: rest =>
        !groups.compressed && completes fuel ⟨groups.count + 1, true⟩ rest
      | _ =>
        let digits := (text.take 4).takeWhile isHexDigit
        match text.drop digits.length with
        | [] => isComplete { groups with count := groups.count + 1 }
        | '.' :: _ =>
          !digits.isEmpty && groups.count ≤ 6 && isFourBytes text &&
            isComplete { groups with count := groups.count + 2 }
        | ':' :: rest =>
          !rest.isEmpty && completes fuel { groups with count := groups.count + 1 } rest
        | _ => false

/-- Whether the text between brackets is an address. -/
def isAddress (text : List Char) : Bool :=
  match text with
  | ':' :: ':' :: rest => completes (rest.length + 1) ⟨1, true⟩ rest
  | ':' :: _ => false
  | [] => false
  | [_] => false
  | _ => completes (text.length + 1) {} text

end Ipv6

end AnswerGraph.Url
