import AnswerGraph.Pattern.Error

/-!
Declared prefixes in the order of their declarations. A prefix is declared once, so looking it up
and listing it agree.
-/

namespace AnswerGraph

structure Namespaces where
  entries : List (String × String) := []
  deriving DecidableEq, Repr

namespace Namespaces

/-- The root that a prefix stands for. -/
def root? (table : Namespaces) (namePrefix : String) : Option String :=
  table.entries.lookup namePrefix

/-- Declares a prefix on a line of the text. -/
def declare (table : Namespaces) (namePrefix root : String) (line : Nat) :
    Except PatternError Namespaces :=
  if (table.root? namePrefix).isSome then .error (.duplicateNamespace namePrefix line)
  else .ok ⟨table.entries ++ [(namePrefix, root)]⟩

def size (table : Namespaces) : Nat := table.entries.length

def isEmpty (table : Namespaces) : Bool := table.entries.isEmpty

end Namespaces

end AnswerGraph
