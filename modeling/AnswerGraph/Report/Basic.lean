import AnswerGraph.Assembly
import AnswerGraph.Number.Decimal
import AnswerGraph.Text.Hex
import AnswerGraph.Time.Moment

/-!
The report of a build: its name, when it was made and how long that took, and what it counts.
-/

namespace AnswerGraph

/-- What tells one run of a build from another. -/
structure BuildStamp where
  id : String
  builtAt : Moment
  /-- How long the build took. -/
  seconds : Binary64
  deriving DecidableEq, Repr

/-- A universally unique id of version 4, made of a random number. -/
def BuildStamp.randomId (random : Nat) : String :=
  let digits := Text.hexDigits 32 (random % Nat.pow 16 32)
  let piece (start count : Nat) : List Char := (digits.drop start).take count
  let variant := Text.hexDigits 1 (8 + random % 4)
  "-".intercalate (List.map String.ofList
    [piece 0 8, piece 8 4, '4' :: piece 13 3, variant ++ piece 17 3, piece 20 12])

structure BuildReport extends BuildStamp where
  counts : BuildCounts
  deriving DecidableEq, Repr

namespace BuildCounts

def display (counts : BuildCounts) : String :=
  "\n".intercalate [
    s!"Templates: {counts.templates} ({counts.answeredTemplates} answered), " ++
      s!"Answers: {counts.answers}",
    s!"Bindings: {counts.bindings}, Minted Subjects: {counts.mintedSubjects}",
    counts.statistics.display]

end BuildCounts

namespace BuildReport

def display (report : BuildReport) : String :=
  let builtAt := report.builtAt.text "+00:00"
  let seconds := report.seconds.fixedText 3
  "\n".intercalate [
    s!"Build {report.id} ({builtAt})",
    s!"Processing Time: {seconds}s",
    report.counts.display]

end BuildReport

end AnswerGraph
