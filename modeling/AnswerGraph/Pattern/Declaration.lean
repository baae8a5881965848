import AnswerGraph.Text.Blank
import AnswerGraph.Text.Search

/-!
Declarations of prefixes, `ex: <http://example.org/>`. What follows the closing bracket is ignored.
-/

namespace AnswerGraph

/-- A prefix and the root it stands for. -/
structure Declaration where
  namePrefix : List Char
  root : List Char
  deriving DecidableEq, Repr

namespace Declaration

/-- A character that may stand in a declared prefix. -/
def isPrefixChar (c : Char) : Bool :=
  !Text.isBlank c && c != ':' && c != '<' && c != '>'

/-- The declaration on a line, if the line is one and its root is not blank. -/
def ofLine? (line : List Char) : Option Declaration := do
  let start := Text.trimStart line
  let name := start.takeWhile isPrefixChar
  if name.isEmpty then none
  else
    let rest ← Text.dropPrefix? [':'] (Text.trimStart (start.dropWhile isPrefixChar))
    let body ← Text.dropPrefix? ['<'] (Text.trimStart rest)
    let (inner, _) ← Text.cutAtChar? '>' body
    let root := Text.trim inner
    if root.isEmpty then none else some ⟨name, root⟩

end Declaration

end AnswerGraph
