import AnswerGraph.Text.Search
import AnswerGraph.Url.DomainClasses
import AnswerGraph.Url.DomainMapping
import AnswerGraph.Url.Punycode

/-!
Domain names. A name is mapped character by character and cut at its dots; a label that starts with
`xn--` stands for the label that it encodes. Every label is checked for marks, joiners and, if some
label is written from right to left, for its directions.
-/

namespace AnswerGraph.Url

/-- An ASCII character that must not stand in a domain name. -/
def isForbiddenInDomain (c : Char) : Bool :=
  c.toNat ≤ 32 || c.toNat == 127 || "%#/:<>?@[\\]^|".toList.contains c

/-- A label as it is written and as it is to be understood. -/
structure Label where
  written : List Char
  meaning : List Char

namespace Label

/-- The longest encoded label that is read. -/
def maxEncoded : Nat := 2000

/-- The longest label that is encoded. -/
def maxUnencoded : Nat := 1000

/-- The label for a mapped text; an encoded label must hold characters beyond ASCII, and only such
as stand for themselves. -/
def of? (written : List Char) : Option Label :=
  match Text.dropPrefix? "xn--".toList written with
  | none =>
    if written.any (128 ≤ ·.toNat) && maxUnencoded < written.length then none
    else some ⟨written, written⟩
  | some encoded =>
    if encoded.getLast? == some '-' || encoded.isEmpty || maxEncoded < encoded.length then none
    else
      match Punycode.decode? encoded with
      | none => none
      | some meaning =>
        if meaning.all isDomainChar && meaning.any (128 ≤ ·.toNat) then some ⟨written, meaning⟩
        else none

/-- The last character before a joiner that is not transparent joins after itself, and the first one
behind joins before itself. -/
def joinsAround (before after : List Char) : Bool :=
  (before.find? (!isTransparent ·)).any joinsAfter &&
    (after.find? (!isTransparent ·)).any joinsBefore

/-- Joiners stand only where they change how letters join. `before` is reversed. -/
def joinersFit (before : List Char) : List Char → Bool
  | [] => true
  | c :: rest =>
    (match c.toNat with
      | 0x200C => before.head?.any isVirama || joinsAround before rest
      | 0x200D => before.head?.any isVirama
      | _ => true) && joinersFit (c :: before) rest

def isWellFormed (label : Label) : Bool :=
  !label.meaning.head?.any isMark && joinersFit [] label.meaning &&
    !label.meaning.any isForbiddenInDomain

def hasRight (label : Label) : Bool :=
  label.meaning.any fun c =>
    match direction c with
    | .right | .arabicNumber => true
    | _ => false

/-- Whether the directions in a label go together. A label starts with a letter; one that is written
from right to left has no letters of the other direction and only one kind of digits, and every
label ends in a letter or digit of its direction. -/
def directionsFit (label : Label) : Bool :=
  let directions := label.meaning.map direction
  let ending := (directions.reverse.dropWhile (· == .mark)).head?
  match directions.head? with
  | none => true
  | some .right =>
    directions.all (· != .left) &&
      (ending == some .right || ending == some .europeanNumber || ending == some .arabicNumber) &&
      !(directions.contains .europeanNumber && directions.contains .arabicNumber)
  | some .left =>
    directions.all (fun found => found != .right && found != .arabicNumber) &&
      (ending == some .left || ending == some .europeanNumber)
  | some _ => false

end Label

/-- Joiners are kept by the mapping, although nothing else tells them from other characters. -/
def mapOrKeepJoiner? (c : Char) : Option (List Char) :=
  if c.toNat == 0x200C || c.toNat == 0x200D then some [c] else mapDomainChar? c

/-- The labels of a domain name, if it is valid. -/
def domainLabels? (name : List Char) : Option (List Label) := do
  let mapped := (← name.mapM mapOrKeepJoiner?).flatten
  let labels ← (Text.splitOn ['.'] mapped).mapM Label.of?
  if !labels.all Label.isWellFormed then none
  else if labels.any Label.hasRight && !labels.all Label.directionsFit then none
  else some labels

end AnswerGraph.Url
