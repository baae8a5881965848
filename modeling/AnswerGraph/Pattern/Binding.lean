import AnswerGraph.Answer.Basic
import AnswerGraph.Pattern.PatternSet

/-!
Binding answers to patterns. Every detail with knowledge objects gets a subject of its own, a label,
and a copy of each pattern line with a placeholder. Binding appends to a pattern and keeps its
lines, so that a second binding of the same answer adds statements about new subjects.
-/

namespace AnswerGraph

/-- Mints subjects from a count that only grows. -/
structure Minter where
  base : String
  count : Nat := 0
  deriving DecidableEq, Repr

namespace Minter

def defaultBase : String := "http://example_data.org/answer/"

/-- The subject of a number. -/
def iriAt (base : String) (number : Nat) : String := base ++ toString number

def mint (minter : Minter) : String × Minter :=
  (iriAt minter.base minter.count, { minter with count := minter.count + 1 })

end Minter

namespace TriplePattern

/-- The lines that an answer's details are bound to. -/
def templated (pattern : TriplePattern) : List StatementPattern :=
  pattern.filter StatementPattern.hasPlaceholder

def labelLine (subject text : String) : StatementPattern :=
  ⟨[.resource subject, .resource Vocabulary.rdfsLabel, .literal text]⟩

/-- The lines for one detail with its subject. -/
def detailLines (lines : List StatementPattern) (subject text : String) : List StatementPattern :=
  labelLine subject text :: lines.map (StatementPattern.substitute (.resource subject))

/-- The lines for some details, each with a newly minted subject. -/
def bindDetails (lines : List StatementPattern) :
    List Detail → Minter → List StatementPattern × Minter
  | [], minter => ([], minter)
  | detail :: rest, minter =>
    let (subject, minter) := minter.mint
    let (more, minter) := bindDetails lines rest minter
    (detailLines lines subject detail.text ++ more, minter)

/-- The pattern with an answer bound to it, and the minter after that. -/
def bind (pattern : TriplePattern) (answer : Answer) (minter : Minter) : TriplePattern × Minter :=
  let (lines, minter) := bindDetails (templated pattern) answer.representedDetails minter
  (pattern ++ lines, minter)

/-- The statements of the lines without placeholder. -/
def resolved (pattern : TriplePattern) : List Statement :=
  pattern.filterMap StatementPattern.resolve?

end TriplePattern

end AnswerGraph
