import AnswerGraph.Pattern.Binding

/-!
What binding adds to a pattern. The statements of a line about a subject are said without the
running substitution, and the lines that an answer adds are given in closed form: no added line has
a placeholder, so the lines that later answers are bound to are always those of the block.
-/

namespace AnswerGraph

namespace Component

/-- The term of a component when placeholders stand for `subject`. -/
def termAbout (subject : Term) : Component → Term
  | literal value => .literal value
  | namespaced root name => .iri (root ++ name)
  | named _ iri => .iri iri
  | resource iri => .iri iri
  | placeholder => subject

theorem term?_substitute (subject : String) (component : Component) :
    (substitute (.resource subject) component).term? =
      some (component.termAbout (.iri subject)) := by
  cases component <;> rfl

theorem substitute_ne_placeholder (subject : String) (component : Component) :
    substitute (.resource subject) component ≠ .placeholder := by
  cases component <;> simp [substitute]

end Component

namespace StatementPattern

/-- The statement of a line about a subject. -/
def about (subject : String) (line : StatementPattern) : Statement :=
  ⟨line.components.map (Component.termAbout (.iri subject))⟩

theorem resolve?_substitute (subject : String) (line : StatementPattern) :
    (line.substitute (.resource subject)).resolve? = some (line.about subject) := by
  have terms : (line.components.map (Component.substitute (.resource subject))).mapM
      Component.term? = some (line.components.map (Component.termAbout (.iri subject))) := by
    induction line.components with
    | nil => rfl
    | cons first rest ih =>
      simp [List.map_cons, List.mapM_cons, Component.term?_substitute, ih]
  simp [resolve?, substitute, about, terms]

theorem hasPlaceholder_substitute (subject : String) (line : StatementPattern) :
    (line.substitute (.resource subject)).hasPlaceholder = false := by
  simp [hasPlaceholder, substitute, Component.substitute_ne_placeholder]

end StatementPattern

namespace TriplePattern

/-- The statements about one detail: its label, then every line with a placeholder. -/
def statementsAbout (pattern : TriplePattern) (subject text : String) : List Statement :=
  ⟨[.iri subject, .iri Vocabulary.rdfsLabel, .literal text]⟩ ::
    (templated pattern).map (StatementPattern.about subject)

/-- The statements about some details whose subjects are numbered from `number` on. -/
def statementsOf (pattern : TriplePattern) (base : String) (number : Nat)
    (details : List Detail) : List Statement :=
  (details.zipIdx number).flatMap fun (detail, number) =>
    statementsAbout pattern (Minter.iriAt base number) detail.text

/-- The lines for some details whose subjects are numbered from `number` on. -/
def linesOf (lines : List StatementPattern) (base : String) (number : Nat)
    (details : List Detail) : List StatementPattern :=
  (details.zipIdx number).flatMap fun (detail, number) =>
    detailLines lines (Minter.iriAt base number) detail.text

/-- The lines that `bindDetails` makes, and how far it moves the count. -/
theorem bindDetails_eq (lines : List StatementPattern) (details : List Detail) (minter : Minter) :
    bindDetails lines details minter =
      (linesOf lines minter.base minter.count details,
        { minter with count := minter.count + details.length }) := by
  induction details generalizing minter with
  | nil => rfl
  | cons detail rest ih =>
    simp only [bindDetails, Minter.mint, ih, linesOf, List.zipIdx_cons, List.flatMap_cons,
      List.length_cons]
    rw [Nat.add_right_comm, Nat.add_assoc]

theorem hasPlaceholder_of_mem_detailLines {lines : List StatementPattern} {subject text : String}
    {line : StatementPattern} (member : line ∈ detailLines lines subject text) :
    line.hasPlaceholder = false := by
  rcases List.mem_cons.mp member with label | copy
  · subst line; rfl
  · obtain ⟨original, _, rfl⟩ := List.mem_map.mp copy
    exact StatementPattern.hasPlaceholder_substitute subject original

theorem hasPlaceholder_of_mem_linesOf {lines : List StatementPattern} {base : String}
    {number : Nat} {details : List Detail} {line : StatementPattern}
    (member : line ∈ linesOf lines base number details) : line.hasPlaceholder = false := by
  obtain ⟨_, _, made⟩ := List.mem_flatMap.mp member
  exact hasPlaceholder_of_mem_detailLines made

theorem templated_append_of_bound (pattern : TriplePattern) {added : TriplePattern}
    (bound : ∀ line ∈ added, line.hasPlaceholder = false) :
    templated (pattern ++ added) = templated pattern := by
  have nothing : added.filter StatementPattern.hasPlaceholder = [] := by
    apply List.filter_eq_nil_iff.mpr
    intro line member
    simp [bound line member]
  rw [templated, List.filter_append, nothing, List.append_nil, templated]

theorem resolved_append (pattern added : TriplePattern) :
    resolved (pattern ++ added) = resolved pattern ++ resolved added :=
  List.filterMap_append

private theorem resolved_detailLines (pattern : TriplePattern) (subject text : String) :
    resolved (detailLines (templated pattern) subject text) =
      statementsAbout pattern subject text := by
  have copies : (templated pattern).filterMap
        (StatementPattern.resolve? ∘ StatementPattern.substitute (.resource subject)) =
      (templated pattern).map (StatementPattern.about subject) := by
    rw [← List.filterMap_eq_map]
    exact congrArg (List.filterMap · _) (funext (StatementPattern.resolve?_substitute subject))
  rw [resolved, detailLines, List.filterMap_cons, List.filterMap_map, copies]
  rfl

/-- The added lines say the label and the templated lines about each detail. -/
theorem resolved_linesOf (pattern : TriplePattern) (base : String) (number : Nat)
    (details : List Detail) :
    resolved (linesOf (templated pattern) base number details) =
      statementsOf pattern base number details := by
  rw [linesOf, statementsOf, resolved, List.filterMap_flatMap]
  exact congrArg (List.flatMap · _) (funext fun _ => resolved_detailLines pattern _ _)

/-- A binding appends the lines for the details that are represented. -/
theorem bind_eq (pattern : TriplePattern) (answer : Answer) (minter : Minter) :
    bind pattern answer minter =
      (pattern ++ linesOf (templated pattern) minter.base minter.count answer.representedDetails,
        { minter with count := minter.count + answer.representedDetails.length }) := by
  rw [bind, bindDetails_eq]

end TriplePattern

end AnswerGraph
