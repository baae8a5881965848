import AnswerGraph.Yaml.Token

/-!
The nodes of a YAML document. An alias is a node of its own: what it stands for is known when the
document is complete.
-/

namespace AnswerGraph.Yaml

/-- What is said of a node before it starts. -/
structure Properties where
  anchor : Option Nat := none
  /-- The tag in full. -/
  tag : Option String := none
  deriving DecidableEq, Repr

inductive Node where
  | alias (anchor : Nat)
  | scalar (properties : Properties) (text : String) (style : ScalarStyle)
  | list (properties : Properties) (items : List Node)
  | record (properties : Properties) (members : List (Node × Node))

namespace Node

/-- A node of which nothing is written but its properties. -/
def empty (properties : Properties := {}) : Node := .scalar properties "" .plain

/-- The state of reading nodes. -/
structure Reader where
  tokens : List Token
  /-- The numbers of the anchors that were met, by name. A name that is met again gets the number
  that is next to be given out. -/
  anchors : List (String × Nat) := []
  /-- What the handles of tags stand for. -/
  handles : List (String × String)

namespace Reader

def next? (reader : Reader) : Option Token := reader.tokens.head?

def skip (reader : Reader) : Reader := { reader with tokens := reader.tokens.tail }

/-- Whether one of some tokens is next. -/
def isAt (reader : Reader) (tokens : List Token) : Bool :=
  reader.next?.any tokens.contains

/-- Moves over a token that must be next. -/
def expect? (reader : Reader) (token : Token) : Option Reader :=
  if reader.next? = some token then some reader.skip else none

def takeAnchor (reader : Reader) : Option Nat × Reader :=
  match reader.next? with
  | some (.anchor name) =>
    let number := reader.anchors.length
    (some number,
      { reader.skip with anchors := (name, number) :: reader.anchors.filter (·.1 != name) })
  | _ => (none, reader)

def takeTag? (reader : Reader) : Option (Option String × Reader) :=
  match reader.next? with
  | some (.tag tag) =>
    if tag.handle.isEmpty then some (some tag.suffix, reader.skip)
    else
      (reader.handles.lookup tag.handle).map fun start =>
        (some (start ++ tag.suffix), reader.skip)
  | _ => some (none, reader)

/-- Reads an anchor and a tag, in any order. -/
def takeProperties? (reader : Reader) : Option (Properties × Reader) := do
  match reader.takeAnchor with
  | (some anchor, reader) =>
    let (tag, reader) ← reader.takeTag?
    some ({ anchor := some anchor, tag }, reader)
  | (none, _) =>
    let (tag, reader) ← reader.takeTag?
    if tag.isSome then
      let (anchor, reader) := reader.takeAnchor
      some ({ anchor, tag }, reader)
    else some ({}, reader)

end Reader

/-- The tag of a scalar; the mark alone stands for none. -/
def scalarTag (tag : Option String) : Option String :=
  if tag = some "!" then none else tag

mutual

/-- Reads a node. Where `block` is set it may be a block, and where `bare` is set it may be a list
that is not indented. -/
def read? (block bare : Bool) : Nat → Reader → Option (Node × Reader)
  | 0, _ => none
  | fuel + 1, reader =>
    match reader.next? with
    | some (.alias name) =>
      (reader.anchors.lookup name).map fun anchor => (.alias anchor, reader.skip)
    | _ => do
      let (properties, reader) ← reader.takeProperties?
      match reader.next? with
      | some (.scalar text style) =>
        some (.scalar { properties with tag := scalarTag properties.tag } text style, reader.skip)
      | some .flowListStart => do
        let (items, reader) ← flowItems? true fuel reader.skip
        some (.list properties items, reader)
      | some .flowRecordStart => do
        let (members, reader) ← flowMembers? true fuel reader.skip
        some (.record properties members, reader)
      | token =>
        if bare && token == some .blockEntry then do
          let (items, reader) ← bareItems? fuel reader
          some (.list properties items, reader)
        else if block && token == some .blockListStart then do
          let (items, reader) ← blockItems? fuel reader.skip
          some (.list properties items, reader)
        else if block && token == some .blockRecordStart then do
          let (members, reader) ← blockMembers? fuel reader.skip
          some (.record properties members, reader)
        else if properties.anchor.isSome || properties.tag.isSome then
          some (.empty properties, reader)
        else none

/-- Reads a node, unless one of the tokens is next before which nothing needs to stand. -/
def readUnless? (stop : List Token) (block bare : Bool) :
    Nat → Reader → Option (Node × Reader)
  | 0, _ => none
  | fuel + 1, reader =>
    if reader.isAt stop then some (.empty, reader) else read? block bare fuel reader

/-- Reads the value after a key, if there is one. -/
def readValue? (stop : List Token) (block bare : Bool) :
    Nat → Reader → Option (Node × Reader)
  | 0, _ => none
  | fuel + 1, reader =>
    match reader.expect? .value with
    | none => some (.empty, reader)
    | some reader => readUnless? stop block bare fuel reader

/-- Reads the items of an indented list up to its end. -/
def blockItems? : Nat → Reader → Option (List Node × Reader)
  | 0, _ => none
  | fuel + 1, reader =>
    match reader.next? with
    | some .blockEntry => do
      let (item, reader) ← readUnless? [.blockEntry, .blockEnd] true false fuel reader.skip
      let (items, reader) ← blockItems? fuel reader
      some (item :: items, reader)
    | some .blockEnd => some ([], reader.skip)
    | _ => none

/-- Reads the items of a list that is not indented; it ends before the first other token. -/
def bareItems? : Nat → Reader → Option (List Node × Reader)
  | 0, _ => none
  | fuel + 1, reader =>
    match reader.next? with
    | some .blockEntry => do
      let (item, reader) ←
        readUnless? [.blockEntry, .key, .value, .blockEnd] true false fuel reader.skip
      let (items, reader) ← bareItems? fuel reader
      some (item :: items, reader)
    | _ => some ([], reader)

/-- Reads the members of an indented record up to its end. -/
def blockMembers? : Nat → Reader → Option (List (Node × Node) × Reader)
  | 0, _ => none
  | fuel + 1, reader =>
    match reader.next? with
    | some .key => do
      let stop := [.key, .value, .blockEnd]
      let (key, reader) ← readUnless? stop true true fuel reader.skip
      let (value, reader) ← readValue? stop true true fuel reader
      let (members, reader) ← blockMembers? fuel reader
      some ((key, value) :: members, reader)
    | some .blockEnd => some ([], reader.skip)
    | _ => none

/-- Reads the items of a list in brackets. An item can be a single member of a record. -/
def flowItems? (first : Bool) : Nat → Reader → Option (List Node × Reader)
  | 0, _ => none
  | fuel + 1, reader =>
    if reader.isAt [.flowListEnd] then some ([], reader.skip)
    else do
      let reader ← if first then some reader else reader.expect? .flowEntry
      if reader.isAt [.flowListEnd] then some ([], reader.skip)
      else
        let (item, reader) ←
          if reader.isAt [.key] then flowMember? fuel reader.skip
          else read? false false fuel reader
        let (items, reader) ← flowItems? false fuel reader
        some (item :: items, reader)

/-- Reads a record of one member in a list in brackets. A key that is left out takes the place of
the token after it. -/
def flowMember? : Nat → Reader → Option (Node × Reader)
  | 0, _ => none
  | fuel + 1, reader => do
    let (key, reader) ←
      if reader.isAt [.value, .flowEntry, .flowListEnd] then some (.empty, reader.skip)
      else read? false false fuel reader
    let (value, reader) ← readValue? [.flowEntry, .flowListEnd] false false fuel reader
    some (.record {} [(key, value)], reader)

/-- Reads the members of a record in braces. -/
def flowMembers? (first : Bool) : Nat → Reader → Option (List (Node × Node) × Reader)
  | 0, _ => none
  | fuel + 1, reader =>
    if reader.isAt [.flowRecordEnd] then some ([], reader.skip)
    else do
      let reader ← if first then some reader else reader.expect? .flowEntry
      if reader.isAt [.flowRecordEnd] then some ([], reader.skip)
      else
        let stop := [.flowEntry, .flowRecordEnd]
        let (key, value, reader) ←
          if reader.isAt [.key] then do
            let (key, reader) ← readUnless? (.value :: stop) false false fuel reader.skip
            let (value, reader) ← readValue? stop false false fuel reader
            some (key, value, reader)
          else do
            let (key, reader) ← read? false false fuel reader
            some (key, .empty, reader)
        let (members, reader) ← flowMembers? false fuel reader
        some ((key, value) :: members, reader)

end

/-! ## Documents -/

def defaultHandles : List (String × String) := [("!", "!"), ("!!", "tag:yaml.org,2002:")]

/-- What directives say about handles. A version may be given once, and each handle once. -/
def handles? (version : Bool) (found : List (String × String)) :
    List Directive → Option (List (String × String))
  | [] => some (found ++ defaultHandles)
  | .version major minor :: rest =>
    if version || major != 1 || (minor != 1 && minor != 2) then none else handles? true found rest
  | .handle handle start :: rest =>
    if (found.lookup handle).isSome then none else handles? version ((handle, start) :: found) rest

/-- The directives at the start of some tokens. -/
def takeDirectives : List Token → List Directive × List Token
  | .directive value :: rest =>
    let (values, after) := takeDirectives rest
    (value :: values, after)
  | rest => ([], rest)

def isDocumentToken : Token → Bool
  | .directive _ => true
  | .documentStart => true
  | .documentEnd => true
  | _ => false

/-- The node of a text that holds one document. -/
def ofTokens? (tokens : List Token) : Option Node := do
  let fuel := 4 * tokens.length + 4
  let (node, reader) ←
    match tokens with
    | [] => none
    | .directive _ :: _ | .documentStart :: _ =>
      let (directives, rest) := takeDirectives tokens
      let handles ← handles? false [] directives
      let reader ← Reader.expect? { tokens := rest, handles } .documentStart
      if reader.next?.all isDocumentToken then some (.empty, reader)
      else read? true false fuel reader
    | _ => read? true false fuel { tokens, handles := defaultHandles }
  if reader.tokens.all (· == .documentEnd) then some node else none

end Node

end AnswerGraph.Yaml
