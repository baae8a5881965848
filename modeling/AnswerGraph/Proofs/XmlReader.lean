import AnswerGraph.Text.Ranges
import AnswerGraph.Text.Search

/-!
Reading XML: from a text the tree of its elements, with the names of namespaces in the place of
prefixes. What texts of this kind never hold is refused: comments, processing instructions, document
types, unparsed sections, and references to characters by number.
-/

namespace AnswerGraph

namespace Xml

/-! ## Characters and names -/

/-- A character that a document may have. -/
def isChar (c : Char) : Bool :=
  Text.inRanges
    [(0x9, 0xA), (0xD, 0xD), (0x20, 0xD7FF), (0xE000, 0xFFFD), (0x10000, 0x10FFFF)] c

def isSpace (c : Char) : Bool := c == ' ' || c == '\t' || c == '\n' || c == '\r'

/-- A character that a name can start with; the colon of a prefix is no part of a name. -/
def isNameStart (c : Char) : Bool :=
  Text.inRanges
    [(0x41, 0x5A), (0x5F, 0x5F), (0x61, 0x7A), (0xC0, 0xD6), (0xD8, 0xF6), (0xF8, 0x2FF),
      (0x370, 0x37D), (0x37F, 0x1FFF), (0x200C, 0x200D), (0x2070, 0x218F), (0x2C00, 0x2FEF),
      (0x3001, 0xD7FF), (0xF900, 0xFDCF), (0xFDF0, 0xFFFD), (0x10000, 0xEFFFF)] c

def isNameChar (c : Char) : Bool :=
  isNameStart c ||
    Text.inRanges [(0x2D, 0x2E), (0x30, 0x39), (0xB7, 0xB7), (0x300, 0x36F), (0x203F, 0x2040)] c

/-- A name without a prefix. -/
def isName : List Char → Bool
  | [] => false
  | first :: rest => isNameStart first && rest.all isNameChar

/-- A character of a tag: of its name, or the colon behind a prefix. -/
def isTagChar (c : Char) : Bool := isNameChar c || c == ':'

/-- The prefix of a tag, which may be missing, and its name. -/
def splitTag? (tag : List Char) : Option (List Char × List Char) :=
  match Text.cutAtChar? ':' tag with
  | none => if isName tag then some ([], tag) else none
  | some (lead, name) => if isName lead && isName name then some (lead, name) else none

/-! ## Lines and references -/

/-- The text with a line feed for every end of a line. -/
def plainLines : List Char → List Char
  | '\r' :: '\n' :: rest => '\n' :: plainLines rest
  | '\r' :: rest => '\n' :: plainLines rest
  | c :: rest => c :: plainLines rest
  | [] => []

/-- The character that a predefined entity stands for. -/
def entity? (name : List Char) : Option Char :=
  [("amp".toList, '&'), ("lt".toList, '<'), ("gt".toList, '>'), ("quot".toList, '"'),
    ("apos".toList, Char.ofNat 39)].lookup name

/-- The characters that a text stands for. Of a reference the name is read first, last character
in front. -/
def resolveFrom? : Option (List Char) → List Char → Option (List Char)
  | none, [] => some []
  | some _, [] => none
  | none, '&' :: rest => resolveFrom? (some []) rest
  | none, c :: rest => (resolveFrom? none rest).map (c :: ·)
  | some name, ';' :: rest =>
    (entity? name.reverse).bind fun c => (resolveFrom? none rest).map (c :: ·)
  | some name, c :: rest => resolveFrom? (some (c :: name)) rest

/-- What is said between two tags. -/
def content? (raw : List Char) : Option (List Char) :=
  if Text.contains "]]>".toList raw then none else resolveFrom? none raw

/-- The value of an attribute. -/
def value? (raw : List Char) : Option (List Char) :=
  if raw.contains '<' then none
  else resolveFrom? none (raw.map fun c => if isSpace c then ' ' else c)

/-! ## Tags -/

abbrev Attributes := List (List Char × List Char)

/-- An attribute and what follows it. -/
def attribute? (text : List Char) : Option ((List Char × List Char) × List Char) :=
  match (text.dropWhile isTagChar).dropWhile isSpace with
  | '=' :: rest =>
    match rest.dropWhile isSpace with
    | quote :: rest =>
      if quote = '"' || quote = Char.ofNat 39 then do
        let (raw, after) ← Text.cutAtChar? quote rest
        some ((text.takeWhile isTagChar, ← value? raw), after)
      else none
    | [] => none
  | _ => none

theorem length_of_cutAtChar? {mark : Char} {text before after : List Char}
    (cut : Text.cutAtChar? mark text = some (before, after)) : after.length < text.length := by
  induction text generalizing before with
  | nil => cases cut
  | cons c rest ih =>
    rw [Text.cutAtChar?] at cut
    split at cut
    · cases cut
      exact Nat.lt_succ_self _
    · obtain ⟨⟨inner, behind⟩, found, same⟩ := Option.map_eq_some_iff.mp cut
      cases same
      exact Nat.lt_succ_of_lt (ih found)

theorem length_of_attribute? {text after : List Char} {given : List Char × List Char}
    (read : attribute? text = some (given, after)) : after.length < text.length := by
  have first := (List.dropWhile_suffix isTagChar (l := text)).length_le
  have second := (List.dropWhile_suffix isSpace (l := text.dropWhile isTagChar)).length_le
  unfold attribute? at read
  split at read
  · next rest equal =>
    rw [equal] at second
    have third := (List.dropWhile_suffix isSpace (l := rest)).length_le
    split at read
    · next quote value opened =>
      rw [opened] at third
      split at read
      · obtain ⟨⟨raw, behind⟩, cut, read⟩ := Option.bind_eq_some_iff.mp read
        obtain ⟨value, -, same⟩ := Option.bind_eq_some_iff.mp read
        cases same
        have last := length_of_cutAtChar? cut
        simp only [List.length_cons] at second third
        omega
      · cases read
    · cases read
  · cases read

/-- The attributes of a tag, whether the element is closed with the tag, and what follows it. -/
def attributes? (text : List Char) : Option ((Attributes × Bool) × List Char) :=
  match text.dropWhile isSpace with
  | '>' :: rest => some (([], false), rest)
  | '/' :: '>' :: rest => some (([], true), rest)
  | _ =>
    if (text.takeWhile isSpace).isEmpty then none
    else
      match found : attribute? (text.dropWhile isSpace) with
      | none => none
      | some (given, rest) =>
        have := Nat.lt_of_lt_of_le (length_of_attribute? found)
          (List.dropWhile_suffix isSpace).length_le
        (attributes? rest).map fun ((more, closed), after) => ((given :: more, closed), after)
termination_by text.length

inductive Token where
  | opening (tag : List Char) (attributes : Attributes) (closed : Bool)
  | closing (tag : List Char)
  | text (content : List Char)

/-- The token that starts with a character, and what follows it. -/
def nextToken? (first : Char) (rest : List Char) : Option (Token × List Char) :=
  if first = '<' then
    match rest with
    | '/' :: rest =>
      match (rest.dropWhile isTagChar).dropWhile isSpace with
      | '>' :: after => some (.closing (rest.takeWhile isTagChar), after)
      | _ => none
    | _ =>
      (attributes? (rest.dropWhile isTagChar)).map fun ((attributes, closed), after) =>
        (.opening (rest.takeWhile isTagChar) attributes closed, after)
  else
    (content? (first :: rest.takeWhile (· != '<'))).map fun content =>
      (.text content, rest.dropWhile (· != '<'))

theorem length_of_attributes? {text after : List Char} {found : Attributes × Bool}
    (read : attributes? text = some (found, after)) : after.length ≤ text.length := by
  fun_induction attributes? text generalizing found with
  | case1 text rest equal =>
    cases read
    have inner := (List.dropWhile_suffix isSpace (l := text)).length_le
    rw [equal] at inner
    exact Nat.le_of_succ_le inner
  | case2 text rest equal =>
    cases read
    have inner := (List.dropWhile_suffix isSpace (l := text)).length_le
    rw [equal] at inner
    exact Nat.le_of_succ_le (Nat.le_of_succ_le inner)
  | case3 => cases read
  | case4 => cases read
  | case5 text _ given rest found shorter _ _ ih =>
    obtain ⟨⟨more, behind⟩, others, same⟩ := Option.map_eq_some_iff.mp read
    cases same
    exact Nat.le_of_lt (Nat.lt_of_le_of_lt (ih others) shorter)

theorem length_of_nextToken? {first : Char} {rest after : List Char} {token : Token}
    (read : nextToken? first rest = some (token, after)) : after.length ≤ rest.length := by
  unfold nextToken? at read
  split at read
  · split at read
    · next rest =>
      split at read
      · next behind equal =>
        cases read
        have inner := (List.dropWhile_suffix isTagChar (l := rest)).length_le
        have outer := (List.dropWhile_suffix isSpace (l := rest.dropWhile isTagChar)).length_le
        rw [equal] at outer
        simp only [List.length_cons] at outer ⊢
        omega
      · cases read
    · obtain ⟨⟨found, behind⟩, inner, same⟩ := Option.map_eq_some_iff.mp read
      cases same
      exact Nat.le_trans (length_of_attributes? inner) (List.dropWhile_suffix _).length_le
  · obtain ⟨content, -, same⟩ := Option.map_eq_some_iff.mp read
    cases same
    exact (List.dropWhile_suffix _).length_le

/-! ## Namespaces -/

/-- A name with the namespace that it belongs to; the namespace is empty if there is none. -/
structure Name where
  space : List Char
  part : List Char
  deriving DecidableEq

/-- The namespaces of prefixes; the empty prefix stands for the default namespace. -/
abbrev Scope := List (List Char × List Char)

def xmlSpace : List Char := "http://www.w3.org/XML/1998/namespace".toList

def xmlnsSpace : List Char := "http://www.w3.org/2000/xmlns/".toList

/-- The prefix that an attribute declares. -/
def declared? (tag : List Char) : Option (List Char) :=
  if tag = "xmlns".toList then some [] else Text.dropPrefix? "xmlns:".toList tag

/-- A prefix may be declared for a namespace: neither of them is reserved, and only the default
namespace can be none. -/
def mayDeclare (lead space : List Char) : Bool :=
  !(["xml".toList, "xmlns".toList].contains lead || [xmlSpace, xmlnsSpace].contains space) &&
    (lead.isEmpty || (isName lead && !space.isEmpty))

/-- The scope with the declarations among some attributes. -/
def declare? (scope : Scope) : Attributes → Option Scope
  | [] => some scope
  | (tag, space) :: rest =>
    match declared? tag with
    | none => declare? scope rest
    | some lead => if mayDeclare lead space then declare? ((lead, space) :: scope) rest else none

def elementName? (scope : Scope) (tag : List Char) : Option Name := do
  let (lead, part) ← splitTag? tag
  match scope.lookup lead with
  | some space => some ⟨space, part⟩
  | none => if lead.isEmpty then some ⟨[], part⟩ else none

/-- The default namespace does not hold for attributes. -/
def attributeName? (scope : Scope) (tag : List Char) : Option Name := do
  let (lead, part) ← splitTag? tag
  if lead.isEmpty then some ⟨[], part⟩ else (scope.lookup lead).map (⟨·, part⟩)

/-! ## Elements -/

inductive Node where
  | element (name : Name) (attributes : List (Name × List Char)) (children : List Node)
  | text (content : List Char)

/-- A text of nothing but space. -/
def Node.isBlank : Node → Bool
  | element _ _ _ => false
  | text content => content.all isSpace

/-- An element that is not closed yet. -/
structure Frame where
  tag : List Char
  name : Name
  attributes : List (Name × List Char)
  scope : Scope
  children : List Node := []

def Frame.node (frame : Frame) : Node :=
  .element frame.name frame.attributes frame.children

/-- What has been read: the open elements, the innermost first, and what stands outside of all. -/
structure Progress where
  opened : List Frame := []
  roots : List Node := []

namespace Progress

def scope (progress : Progress) : Scope :=
  match progress.opened with
  | [] => [("xml".toList, xmlSpace)]
  | frame :: _ => frame.scope

def add (progress : Progress) (node : Node) : Progress :=
  match progress.opened with
  | [] => { progress with roots := progress.roots ++ [node] }
  | frame :: outer =>
    { progress with opened := { frame with children := frame.children ++ [node] } :: outer }

/-- An element that is opened by a tag. -/
def frame? (progress : Progress) (tag : List Char) (attributes : Attributes) : Option Frame := do
  let scope ← declare? progress.scope attributes
  let name ← elementName? scope tag
  let others := attributes.filter fun (tag, _) => (declared? tag).isNone
  let named ← others.mapM fun (tag, value) => (attributeName? scope tag).map (·, value)
  if (attributes.map (·.1)).Nodup ∧ (named.map (·.1)).Nodup then
    some { tag, name, attributes := named, scope }
  else none

def grow? (progress : Progress) : Token → Option Progress
  | .opening tag attributes closed =>
    (progress.frame? tag attributes).map fun frame =>
      if closed then progress.add frame.node
      else { progress with opened := frame :: progress.opened }
  | .closing tag =>
    match progress.opened with
    | [] => none
    | frame :: outer =>
      -- Only the tag that opened an element closes it.
      if frame.tag = tag then some ({ progress with opened := outer }.add frame.node) else none
  | .text content => some (progress.add (.text content))

/-- What has been read when a text ends. -/
def readAll? (progress : Progress) (text : List Char) : Option Progress :=
  match text with
  | [] => some progress
  | first :: rest =>
    match found : nextToken? first rest with
    | none => none
    | some (token, after) =>
      have := length_of_nextToken? found
      (progress.grow? token).bind fun next => next.readAll? after
termination_by text.length
decreasing_by exact Nat.lt_succ_of_le this

/-- The one element that there is outside of all others. -/
def root? (progress : Progress) : Option Node :=
  match progress.opened, progress.roots.filter (!·.isBlank) with
  | [], [.element name attributes children] => some (.element name attributes children)
  | _, _ => none

end Progress

/-- The text without its declaration. -/
def dropDeclaration (text : List Char) : List Char :=
  (Text.dropPrefix? "<?xml version=\"1.0\" encoding=\"UTF-8\"?>".toList text).getD text

/-- The element that a document consists of. -/
def read? (text : List Char) : Option Node :=
  if text.all isChar then
    (Progress.readAll? {} (dropDeclaration (plainLines text))).bind Progress.root?
  else none

end Xml

end AnswerGraph
