/-!
What can be wrong with a pattern text, and how each fault is worded.
-/

namespace AnswerGraph

inductive PatternError where
  | unknownNamespace (namePrefix : String) (line : Nat)
  | unknownVariable (name : String) (line : Nat)
  | duplicateNamespace (namePrefix : String) (line : Nat)
  /-- A root and the base of the variables' identifiers, one of which starts with the other. -/
  | namespaceCollision (namePrefix root base : String)
  | nestedCondition (line : Nat)
  | emptyCondition (line : Nat)
  | unreadable (path : String)
  deriving DecidableEq, Repr

def PatternError.message : PatternError → String
  | unknownNamespace namePrefix line => s!"line {line}: unknown namespace prefix '{namePrefix}'"
  | unknownVariable name line => s!"line {line}: unknown variable '{name}'"
  | duplicateNamespace namePrefix line =>
    s!"line {line}: namespace prefix '{namePrefix}' is already declared"
  | namespaceCollision namePrefix root base =>
    s!"namespace '{namePrefix}' (<{root}>) overlaps the variable identifier base <{base}>"
  | nestedCondition line =>
    s!"line {line}: condition opened inside an unterminated block (missing blank line?)"
  | emptyCondition line => s!"line {line}: condition declares no template keys"
  | unreadable path => s!"failed to read pattern file {path}"

end AnswerGraph
