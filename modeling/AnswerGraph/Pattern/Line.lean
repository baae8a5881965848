import AnswerGraph.Pattern.Component
import AnswerGraph.Pattern.Namespaces
import AnswerGraph.Pattern.Variables

/-!
Compiling one line of a block. A token that opens with `<` is a variable, one with a colon is a
prefixed name, and any other is the placeholder or a literal.
-/

namespace AnswerGraph

namespace Component

/-- Compiles a token on a line. -/
def ofToken (token : List Char) (line : Nat) (namespaces : Namespaces) (variableTable : Variables) :
    Except PatternError Component :=
  if Text.startsWith token ['<'] then
    let name := String.ofList ((variableName? token).getD token)
    match variableTable.iri? name with
    | some iri => .ok (.named name iri)
    | none => .error (.unknownVariable name line)
  else
    match Text.cutAtChar? ':' token with
    | some (namePrefix, name) =>
      match namespaces.root? (String.ofList namePrefix) with
      | some root => .ok (.namespaced root (String.ofList name))
      | none => .error (.unknownNamespace (String.ofList namePrefix) line)
    | none =>
      if String.ofList token = answerMarker then .ok .placeholder
      else .ok (.literal (String.ofList token))

end Component

namespace StatementPattern

/-- The tokens of a line; one dot at its end is not part of them. -/
def tokens (line : List Char) : List (List Char) :=
  let body := Text.trimEnd line
  Text.words ((Text.dropSuffix? ['.'] body).getD body)

/-- Compiles a line; a line without tokens is nothing. -/
def ofLine? (line : List Char) (number : Nat) (namespaces : Namespaces)
    (variableTable : Variables) : Except PatternError (Option StatementPattern) := do
  let components ← (tokens line).mapM (Component.ofToken · number namespaces variableTable)
  .ok (if components.isEmpty then none else some ⟨components⟩)

end StatementPattern

end AnswerGraph
