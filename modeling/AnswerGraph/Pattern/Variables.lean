import AnswerGraph.Text.Blank
import AnswerGraph.Text.Search

/-!
Variables of a pattern text. A variable is known by its name and identified by the base of the table
followed by its rank in the order of first appearance.
-/

namespace AnswerGraph

structure Variables where
  base : String
  names : List String := []
  deriving DecidableEq, Repr

namespace Variables

def defaultBase : String := "http://example_data.org/variable/"

/-- The identifier of the variable of a rank. -/
def iriAt (table : Variables) (rank : Nat) : String :=
  table.base ++ toString rank

def iri? (table : Variables) (name : String) : Option String :=
  (table.names.idxOf? name).map table.iriAt

/-- Makes room for a name that the table does not know yet. -/
def intern (table : Variables) (name : String) : Variables :=
  if name ∈ table.names then table else { table with names := table.names ++ [name] }

/-- Names and identifiers in order of rank. -/
def entries (table : Variables) : List (String × String) :=
  table.names.zipIdx.map fun (name, rank) => (name, table.iriAt rank)

def size (table : Variables) : Nat := table.names.length

def isEmpty (table : Variables) : Bool := table.names.isEmpty

end Variables

/-- The name in a token `<name>`. Dots at the end of the name and after the bracket are not part of
it, and a name is never empty. -/
def variableName? (token : List Char) : Option (List Char) := do
  let inner ← Text.dropPrefix? ['<'] token
  let closed ← Text.dropSuffix? ['>'] (Text.dropEndWhile (· == '.') inner)
  let name := Text.dropEndWhile (· == '.') closed
  if name.isEmpty then none else some name

end AnswerGraph
