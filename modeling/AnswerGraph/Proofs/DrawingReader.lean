import AnswerGraph.Term

/-!
Reading drawings. The text of a graph in the DOT language is scanned for words, quoted texts and
marks, where a backslash in a quoted text escapes the character behind it. The graph has a header
and then items in braces, each of which ends in a semicolon: a node with its attributes, or an edge
between two nodes with its attributes.
-/

namespace AnswerGraph

namespace Dot

/-! ## Tokens -/

inductive Token where
  | word (letters : List Char)
  | quoted (text : List Char)
  | arrow
  | mark (mark : Char)
  deriving DecidableEq, Repr

/-- What the scanner is inside of, with the characters that it has met there. -/
inductive Mode where
  | between
  | word (letters : List Char)
  | quoted (text : List Char)
  /-- In a quoted text, behind a backslash. -/
  | escaped (text : List Char)
  /-- Behind the first character of an arrow. -/
  | dash
  deriving DecidableEq, Repr

def isBlank (c : Char) : Bool := c == ' ' || c == '\t' || c == '\n' || c == '\r'

def isWordChar (c : Char) : Bool := c.isAlphanum || c == '_'

def isMark (c : Char) : Bool := ['{', '}', '[', ']', '=', ',', ';'].contains c

/-- Tokens that a character completes, and what the scanner is inside of after it, where nothing was
begun before. -/
def enter (c : Char) : Option (List Token × Mode) :=
  if isBlank c then some ([], .between)
  else if isWordChar c then some ([], .word [c])
  else if isMark c then some ([.mark c], .between)
  else if c = '"' then some ([], .quoted [])
  else if c = '-' then some ([], .dash)
  else none

def step : Mode → Char → Option (List Token × Mode)
  | .between, c => enter c
  | .word letters, c =>
    if isWordChar c then some ([], .word (letters ++ [c]))
    else (enter c).map fun (tokens, mode) => (.word letters :: tokens, mode)
  | .quoted text, c =>
    if c = '"' then some ([.quoted text], .between)
    else if c = '\\' then some ([], .escaped text)
    else some ([], .quoted (text ++ [c]))
  | .escaped text, c => some ([], .quoted (text ++ [c]))
  | .dash, c => if c = '>' then some ([.arrow], .between) else none

/-- The tokens that a text completes, and what the scanner is inside of after it. -/
def scan (mode : Mode) : List Char → Option (List Token × Mode)
  | [] => some ([], mode)
  | c :: rest => do
    let (first, next) ← step mode c
    let (more, last) ← scan next rest
    some (first ++ more, last)

/-- The tokens of a whole text. -/
def tokens? (text : List Char) : Option (List Token) := do
  match ← scan .between text with
  | (tokens, .between) => some tokens
  | (tokens, .word letters) => some (tokens ++ [.word letters])
  | _ => none

variable {mode next last : Mode} {first second : List Char} {tokens more : List Token}

theorem scan_cons {c : Char} (met : step mode c = some (tokens, next))
    (behind : scan next first = some (more, last)) :
    scan mode (c :: first) = some (tokens ++ more, last) := by
  simp [scan, met, behind]

/-- A text may be scanned in two parts. -/
theorem scan_append (head : scan mode first = some (tokens, next))
    (tail : scan next second = some (more, last)) :
    scan mode (first ++ second) = some (tokens ++ more, last) := by
  induction first generalizing mode tokens with
  | nil =>
    cases head
    exact tail
  | cons c rest ih =>
    obtain ⟨⟨begun, inner⟩, met, scanned⟩ := Option.bind_eq_some_iff.mp head
    obtain ⟨⟨others, final⟩, behind, same⟩ := Option.bind_eq_some_iff.mp scanned
    cases same
    rw [List.append_assoc]
    exact scan_cons met (ih behind)

/-- Parts that begin and end between tokens have the tokens of all of them. -/
theorem scan_flatMap {parts : List α} {write : α → List Char} {spelled : α → List Token}
    (scanned : ∀ part ∈ parts, scan .between (write part) = some (spelled part, .between)) :
    scan .between (parts.flatMap write) = some (parts.flatMap spelled, .between) := by
  induction parts with
  | nil => rfl
  | cons part rest ih =>
    have others := ih fun other member => scanned other (List.mem_cons_of_mem _ member)
    exact scan_append (scanned part List.mem_cons_self) others

/-- A word goes on as long as there are characters of words. -/
theorem scan_word {letters more : List Char} (all : ∀ c ∈ more, isWordChar c = true) :
    scan (.word letters) more = some ([], .word (letters ++ more)) := by
  induction more generalizing letters with
  | nil => rw [scan, List.append_nil]
  | cons c rest ih =>
    have longer : step (.word letters) c = some ([], .word (letters ++ [c])) :=
      if_pos (all c List.mem_cons_self)
    have others := @ih (letters ++ [c]) fun d member => all d (List.mem_cons_of_mem _ member)
    rw [List.append_assoc] at others
    exact scan_cons longer others

theorem tokens?_of_scan {text : List Char} (whole : scan .between text = some (tokens, .between)) :
    tokens? text = some tokens := by
  rw [tokens?, whole]
  rfl

/-! ## Items -/

/-- What a drawing says, with the attributes in the order of the text. -/
inductive Item where
  | node (id : String) (attributes : List (String × String))
  | edge (source target : String) (attributes : List (String × String))
  deriving DecidableEq, Repr

/-- The text of a value, which may be a word or quoted. -/
def value? : Token → Option String
  | .word letters => some (String.ofList letters)
  | .quoted text => some (String.ofList text)
  | _ => none

/-- The attributes up to the end of a list. -/
def attributes? : List Token → Option (List (String × String))
  | [.word name, .mark '=', value, .mark ']'] => do
    some [(String.ofList name, ← value? value)]
  | .word name :: .mark '=' :: value :: .mark ',' :: rest => do
    some ((String.ofList name, ← value? value) :: (← attributes? rest))
  | _ => none

def item? : List Token → Option Item
  | .word id :: .mark '[' :: rest => do
    some (.node (String.ofList id) (← attributes? rest))
  | .word source :: .arrow :: .word target :: .mark '[' :: rest => do
    some (.edge (String.ofList source) (String.ofList target) (← attributes? rest))
  | _ => none

/-- The items up to the closing brace, of the first of which some tokens were read. -/
def items? (begun : List Token) : List Token → Option (List Item)
  | [] => none
  | .mark ';' :: rest => (item? begun).bind fun item => (items? [] rest).map (item :: ·)
  | [.mark '}'] => if begun = [] then some [] else none
  | token :: rest => items? (begun ++ [token]) rest

/-- The items of a graph. -/
def read? (text : List Char) : Option (List Item) := do
  match ← tokens? text with
  | .word header :: .mark '{' :: rest =>
    if header = "digraph".toList then items? [] rest else none
  | _ => none

/-- An item ends with the first semicolon. -/
theorem items?_append {tokens begun : List Token}
    (inner : ∀ token ∈ tokens, token ≠ .mark ';' ∧ token ≠ .mark '}') (rest : List Token) :
    items? begun (tokens ++ .mark ';' :: rest) =
      (item? (begun ++ tokens)).bind fun item => (items? [] rest).map (item :: ·) := by
  induction tokens generalizing begun with
  | nil => rw [List.nil_append, items?, List.append_nil]
  | cons token others ih =>
    obtain ⟨noEnd, noBrace⟩ := inner token List.mem_cons_self
    have all := @ih (begun ++ [token]) fun other member =>
      inner other (List.mem_cons_of_mem _ member)
    rw [List.append_assoc] at all
    rw [List.cons_append, items?, all]
    · rfl
    · exact fun same => noEnd same
    · exact fun same => absurd same noBrace

/-- Items are read one after the other. -/
theorem items?_flatMap {parts : List α} {spelled : α → List Token} {item : α → Item}
    (inner : ∀ part ∈ parts, ∀ token ∈ spelled part, token ≠ .mark ';' ∧ token ≠ .mark '}')
    (known : ∀ part ∈ parts, item? (spelled part) = some (item part)) (rest : List Token) :
    items? [] (parts.flatMap (fun part => spelled part ++ [.mark ';']) ++ rest) =
      (items? [] rest).map (parts.map item ++ ·) := by
  induction parts with
  | nil => simp
  | cons part others ih =>
    have more := ih (fun other member => inner other (List.mem_cons_of_mem _ member))
      fun other member => known other (List.mem_cons_of_mem _ member)
    rw [List.flatMap_cons, List.append_assoc, List.append_assoc, List.singleton_append,
      items?_append (inner part List.mem_cons_self), List.nil_append,
      known part List.mem_cons_self, more]
    cases items? [] rest <;> rfl

end Dot

end AnswerGraph
