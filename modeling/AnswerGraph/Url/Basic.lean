import AnswerGraph.Url.Address
import AnswerGraph.Url.Domain

/-!
Absolute URLs. Only what decides whether a text is one is read: the scheme, and after two slashes
the authority with user, host and port. Paths, queries and fragments are always accepted. A scheme
of the web needs a host; any other scheme may be followed by anything.
-/

namespace AnswerGraph

/-- What is known of a URL once it is accepted. -/
structure Url where
  scheme : List Char
  /-- Nothing but text follows the scheme: no path that starts with a slash. -/
  rootless : Bool
  deriving DecidableEq, Repr

namespace Url

/-- How the part after the scheme is read. -/
inductive SchemeKind where
  | web
  | file
  | other
  deriving DecidableEq, Repr

def webSchemes : List String := ["http", "https", "ws", "wss", "ftp"]

def schemeKind (scheme : List Char) : SchemeKind :=
  let name := String.ofList scheme
  if webSchemes.contains name then .web else if name = "file" then .file else .other

def isSchemeChar (c : Char) : Bool :=
  c.isAlphanum || c == '+' || c == '-' || c == '.'

/-- The scheme in small letters and what follows its colon. -/
def cutScheme? (text : List Char) : Option (List Char × List Char) :=
  match text with
  | [] => none
  | first :: _ =>
    if !first.isAlpha then none
    else
      match text.dropWhile isSchemeChar with
      | ':' :: rest => some ((text.takeWhile isSchemeChar).map Char.toLower, rest)
      | _ => none

/-! ## Hosts -/

/-- Replaces percent escapes by the bytes they stand for; other percent signs stay. -/
def percentDecode : List UInt8 → List UInt8
  | [] => []
  | [a] => [a]
  | [a, b] => [a, b]
  | a :: b :: c :: rest =>
    let high := Char.ofNat b.toNat
    let low := Char.ofNat c.toNat
    if a = 37 ∧ isHexDigit high ∧ isHexDigit low then
      UInt8.ofNat (hexValue high * 16 + hexValue low) :: percentDecode rest
    else a :: percentDecode (b :: c :: rest)

/-- The characters of a text with percent escapes; none if the bytes are no text. -/
def decodeText? (text : List Char) : Option (List Char) :=
  if text.contains '%' then
    let bytes := percentDecode (String.ofList text).toUTF8.data.toList
    (String.fromUTF8? ⟨bytes.toArray⟩).map String.toList
  else some text

/-- The text between brackets. -/
def inBrackets? (text : List Char) : Option (List Char) :=
  match text with
  | '[' :: rest => if rest.getLast? == some ']' then some rest.dropLast else none
  | _ => none

/-- Whether a text is a host of the web: an address or a domain name. -/
def isWebHost (text : List Char) : Bool :=
  if text.head? == some '[' then (inBrackets? text).any Ipv6.isAddress
  else
    match (decodeText? text).bind domainLabels? with
    | none => false
    | some labels =>
      let written := labels.map Label.written
      written != [[]] && (!Ipv4.endsInNumber written || Ipv4.isAddress written)

def isForbiddenInHost (c : Char) : Bool :=
  c.toNat == 0 || "\t\n\r #/:<>?@[\\]^|".toList.contains c

/-- Whether a text is a host for the other schemes. -/
def isPlainHost (text : List Char) : Bool :=
  if text.head? == some '[' then (inBrackets? text).any Ipv6.isAddress
  else !text.any isForbiddenInHost

/-! ## Authorities -/

/-- A character that ends an authority. -/
def endsAuthority (web : Bool) (c : Char) : Bool :=
  c == '/' || c == '?' || c == '#' || (web && c == '\\')

/-- Whether user and password say anything: a single colon does not. -/
def namesUser (credentials : List Char) : Bool :=
  !credentials.isEmpty && credentials != [':']

/-- The host at the start of a text, which ends at a colon outside of brackets. -/
def cutHost (web bracketed : Bool) : List Char → List Char × List Char
  | [] => ([], [])
  | c :: rest =>
    if endsAuthority web c || (c == ':' && !bracketed) then ([], c :: rest)
    else
      let bracketed := if c == '[' then true else if c == ']' then false else bracketed
      let (host, after) := cutHost web bracketed rest
      (c :: host, after)

/-- Whether a port follows: digits of a number up to 65535, or nothing. -/
def isPort (text : List Char) : Bool :=
  let digits := text.takeWhile Char.isDigit
  valueIn 10 digits ≤ 65535 &&
    match (text.dropWhile Char.isDigit).head? with
    | none => true
    | some c => endsAuthority true c

/-- Whether a text after two slashes starts with an authority. An `@` separates the user from the
host, the last one if there are several. -/
def isAuthority (web : Bool) (text : List Char) : Bool :=
  let authority := text.takeWhile (!endsAuthority web ·)
  let beyond := text.dropWhile (!endsAuthority web ·)
  let hostPart := Text.afterLast (· == '@') authority
  let credentials := authority.take (authority.length - hostPart.length - 1)
  let hasAt := authority.contains '@'
  if hasAt && credentials.isEmpty && hostPart.isEmpty && !beyond.isEmpty then false
  else
    let (host, rest) := cutHost web false (hostPart ++ beyond)
    let portFits :=
      match rest with
      | ':' :: port => isPort port
      | _ => true
    if web then !host.isEmpty && isWebHost host && portFits
    else
      isPlainHost host && portFits &&
        (!host.isEmpty || (rest.head? != some ':' && !(hasAt && namesUser credentials)))

/-- A letter and a colon or bar: the name of a drive. -/
def isDrive (text : List Char) : Bool :=
  match text with
  | [letter, mark] => letter.isAlpha && (mark == ':' || mark == '|')
  | _ => false

def isSlash (c : Char) : Bool := c == '/' || c == '\\'

/-- Whether a text is accepted after `file:`; the host after two slashes may be missing. -/
def isFilePart (text : List Char) : Bool :=
  match text with
  | first :: second :: rest =>
    if isSlash first && isSlash second then
      let host := rest.takeWhile (!endsAuthority true ·)
      host.isEmpty || isDrive host || isWebHost host
    else true
  | _ => true

/-- The text without the characters that are not part of a URL: blanks and controls around it, tabs
and line breaks anywhere. -/
def clean (text : List Char) : List Char :=
  let isControl (c : Char) : Bool := c.toNat ≤ 32
  let inner := ((text.dropWhile isControl).reverse.dropWhile isControl).reverse
  inner.filter fun c => c != '\t' && c != '\n' && c != '\r'

def ofText? (text : List Char) : Option Url := do
  let (scheme, rest) ← cutScheme? (clean text)
  let accepted (fits : Bool) (rootless : Bool) : Option Url :=
    if fits then some { scheme, rootless } else none
  match schemeKind scheme with
  | .web => accepted (isAuthority true (rest.dropWhile isSlash)) false
  | .file => accepted (isFilePart rest) false
  | .other =>
    match rest with
    | '/' :: '/' :: authority => accepted (isAuthority false authority) false
    | '/' :: _ => accepted true false
    | _ => accepted true true

end Url

end AnswerGraph
