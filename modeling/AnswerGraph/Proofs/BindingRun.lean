import AnswerGraph.Proofs.Binding
import AnswerGraph.Proofs.IdentifierBase
import Mathlib.Algebra.GroupWithZero.Nat
import Mathlib.Data.List.Nodup
import Mathlib.Data.List.Range

/-!
Runs of bindings on one pattern. A binding reads the lines of the pattern that it extends. What it
appends has no placeholder, so every binding of a run instantiates the lines that had one at the
start, and the run is known in closed form: one label and one copy of these lines for each detail,
with subjects in the order of the minter.
-/

namespace AnswerGraph

namespace TriplePattern

theorem linesOf_append (lines : List StatementPattern) (base : String) (number : Nat)
    (details more : List Detail) :
    linesOf lines base number (details ++ more) =
      linesOf lines base number details ++
        linesOf lines base (number + details.length) more := by
  rw [linesOf, List.zipIdx_append, List.flatMap_append]
  rfl

theorem length_linesOf (lines : List StatementPattern) (base : String) (number : Nat)
    (details : List Detail) :
    (linesOf lines base number details).length = details.length * (1 + lines.length) := by
  induction details generalizing number with
  | nil => rw [List.length_nil, Nat.zero_mul]; rfl
  | cons detail rest ih =>
    have own (subject : String) :
        (detailLines lines subject detail.text).length = 1 + lines.length := by
      rw [detailLines, List.length_cons, List.length_map, Nat.add_comm]
    rw [linesOf, List.zipIdx_cons, List.flatMap_cons, List.length_append, ← linesOf, ih, own,
      List.length_cons, Nat.succ_mul, Nat.add_comm]

end TriplePattern

/-- A pattern and a minter after some bindings, with the number of lines that each appended. -/
structure BindingRun where
  pattern : TriplePattern
  minter : Minter
  counts : List Nat := []

namespace BindingRun

open TriplePattern

def bind (run : BindingRun) (answer : Answer) : BindingRun :=
  let (pattern, minter) := TriplePattern.bind run.pattern answer run.minter
  { pattern, minter, counts := run.counts ++ [pattern.length - run.pattern.length] }

variable {pattern : TriplePattern} {minter : Minter} {answers : List Answer} {run : BindingRun}

/-- The closed form of a run that has bound some answers. -/
structure HasBound (pattern : TriplePattern) (minter : Minter) (answers : List Answer)
    (run : BindingRun) : Prop where
  lines : run.pattern = pattern ++
    linesOf (templated pattern) minter.base minter.count (answers.flatMap Answer.representedDetails)
  minted : run.minter = { minter with
    count := minter.count + (answers.flatMap Answer.representedDetails).length }
  counts : run.counts = answers.map fun answer =>
    answer.representedDetails.length * (1 + (templated pattern).length)

theorem bind_eq (run : BindingRun) (answer : Answer) :
    run.bind answer = {
      pattern := run.pattern ++
        linesOf (templated run.pattern) run.minter.base run.minter.count answer.representedDetails
      minter := { run.minter with
        count := run.minter.count + answer.representedDetails.length }
      counts := run.counts ++
        [answer.representedDetails.length * (1 + (templated run.pattern).length)] } := by
  rw [bind, TriplePattern.bind_eq]
  dsimp only
  rw [List.length_append, Nat.add_sub_cancel_left, length_linesOf]

/-- One more binding instantiates the lines of the first pattern only. -/
theorem HasBound.bind (bound : HasBound pattern minter answers run) (answer : Answer) :
    HasBound pattern minter (answers ++ [answer]) (run.bind answer) := by
  have details : (answers ++ [answer]).flatMap Answer.representedDetails =
      answers.flatMap Answer.representedDetails ++ answer.representedDetails := by
    rw [List.flatMap_append, List.flatMap_singleton]
  have same : templated run.pattern = templated pattern := by
    rw [bound.lines]
    exact templated_append_of_bound pattern fun _ => hasPlaceholder_of_mem_linesOf
  constructor
  case lines =>
    rw [bind_eq, same, bound.lines, bound.minted, details, linesOf_append, List.append_assoc]
  case minted =>
    rw [bind_eq, bound.minted, details, List.length_append, Nat.add_assoc]
  case counts =>
    rw [bind_eq, same, bound.counts, List.map_append, List.map_singleton]

theorem HasBound.foldl (bound : HasBound pattern minter answers run) (more : List Answer) :
    HasBound pattern minter (answers ++ more) (more.foldl BindingRun.bind run) := by
  induction more generalizing answers run with
  | nil => rwa [List.append_nil]
  | cons answer rest ih =>
    rw [List.foldl_cons, ← List.singleton_append, ← List.append_assoc]
    exact ih (bound.bind answer)

/-- The second detail has no knowledge object. -/
def sawing : Answer where
  details := [
    { id := 1, text := "wood", questionId := 0, contextId := 0, origin := ""
      knowledgeObjects := [{ id := 7, category := "Process" }] },
    { id := 2, text := "noise", questionId := 0, contextId := 0, origin := ""
      knowledgeObjects := [] }]
  templateNames := ["Process"]
  finalResult := "done"

end BindingRun

end AnswerGraph
