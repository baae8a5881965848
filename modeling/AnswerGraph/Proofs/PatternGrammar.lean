import AnswerGraph.Proofs.Outline

/-!
Compiling a pattern text agrees with its paragraphs. The passes over the outline look for roots
that overlap the base, collect the variables, and compile the blocks; the last pass sees all
declarations and all variables, wherever they stand. So a text without faults has the compiled set
of its paragraphs, and any other text has its first fault.
-/

namespace AnswerGraph

theorem names_foldl_intern (names : List String) (table : Variables) :
    names.foldl Variables.intern table =
      { table with names := table.names ++ firstsFrom table.names names } := by
  induction names generalizing table with
  | nil => simp [firstsFrom]
  | cons name rest ih =>
    rw [List.foldl_cons, ih]
    by_cases known : name ∈ table.names
    · simp [Variables.intern, known, firstsFrom]
    · have same : ∀ x, x ∈ table.names ++ [name] ↔ x ∈ name :: table.names := by
        intro x
        simp [or_comm]
      simp [Variables.intern, known, firstsFrom, firstsFrom_congr same]

namespace PatternText

variable (base : String) (paragraphs : List Paragraph)

theorem internLines_eq :
    PatternSet.internLines base ((blocks paragraphs).flatMap RawBlock.body) =
      variableTable base paragraphs := by
  rw [PatternSet.internLines, variableTable, ← List.foldl_map, names_foldl_intern]
  rfl

theorem checkRoots_eq (entries : List (String × String)) :
    PatternSet.checkRoots base entries =
      unlessFaulty () (entries.filterMap fun (namePrefix, root) =>
        if PatternSet.overlaps root base then some (.namespaceCollision namePrefix root base)
        else none) := by
  induction entries with
  | nil => rfl
  | cons entry rest ih =>
    obtain ⟨namePrefix, root⟩ := entry
    by_cases overlap : PatternSet.overlaps root base
    · simp [PatternSet.checkRoots, overlap, unlessFaulty]
    · simp [PatternSet.checkRoots, overlap, ih]

/-- The faults of the tokens of a line. -/
def lineTokenFaults (line : Nat × List Char) : List PatternError :=
  (StatementPattern.tokens line.2).filterMap fun token =>
    fault? (compileToken base paragraphs line.1 token)

theorem ofLine?_eq (line : Nat × List Char) :
    StatementPattern.ofLine? line.2 line.1 (namespaces paragraphs)
        (variableTable base paragraphs) =
      unlessFaulty (compiledLine? base paragraphs line) (lineTokenFaults base paragraphs line) := by
  have read := mapM_eq_unlessFaulty_filterMap (compileToken base paragraphs line.1)
    (StatementPattern.tokens line.2)
  let whole (components : List Component) : Option StatementPattern :=
    if components.isEmpty then none else some ⟨components⟩
  have compiled : compiledLine? base paragraphs line =
      whole ((StatementPattern.tokens line.2).filterMap fun token =>
        (compileToken base paragraphs line.1 token).toOption) := by
    unfold compiledLine?
    split <;> simp_all [whole]
  rw [compiled, lineTokenFaults, ← unlessFaulty_map _ _ whole, ← read]
  rfl

/-- The lines of a block compile to those with tokens, or to the first faulty token. -/
theorem compileBody_eq (body : List (Nat × List Char)) :
    PatternSet.compileBody (namespaces paragraphs) (variableTable base paragraphs) body =
      unlessFaulty (body.filterMap (compiledLine? base paragraphs))
        (body.flatMap (lineTokenFaults base paragraphs)) := by
  induction body with
  | nil => rfl
  | cons line rest ih =>
    have joined : (line :: rest).filterMap (compiledLine? base paragraphs) =
        (compiledLine? base paragraphs line).toList ++
          rest.filterMap (compiledLine? base paragraphs) := by
      rw [List.filterMap_cons]
      cases compiledLine? base paragraphs line <;> rfl
    rw [joined, List.flatMap_cons]
    simp only [PatternSet.compileBody, ofLine?_eq base paragraphs line, ih, unlessFaulty_map]
    exact unlessFaulty_bind _ _
      (fun compiled : Option StatementPattern =>
        compiled.toList ++ rest.filterMap (compiledLine? base paragraphs))
      fun _ => rest.flatMap (lineTokenFaults base paragraphs)

theorem tokenFaults_eq :
    tokenFaults base paragraphs = (blocks paragraphs).flatMap fun block =>
      block.body.flatMap (lineTokenFaults base paragraphs) := by
  rw [tokenFaults, List.flatMap_assoc]
  rfl

/-- An outline with the declarations and the blocks of the paragraphs compiles to their set. -/
theorem ofOutline_eq {outline : Outline} (names : outline.namespaces = namespaces paragraphs)
    (closed : outline.blocks = blocks paragraphs) :
    PatternSet.ofOutline base outline =
      unlessFaulty (compiled base paragraphs)
        (rootFaults base paragraphs ++ tokenFaults base paragraphs) := by
  have patterns := mapM_eq_unlessFaulty
    (fun block : RawBlock => compileBody_eq base paragraphs block.body) (blocks paragraphs)
  rw [← tokenFaults_eq] at patterns
  have table : PatternSet.internLines base outline.bodyLines = variableTable base paragraphs := by
    rw [Outline.bodyLines, closed, internLines_eq]
  simp only [PatternSet.ofOutline, names, closed, table, checkRoots_eq, patterns, unlessFaulty_map]
  exact unlessFaulty_bind () _ (fun _ => compiled base paragraphs)
    fun _ => tokenFaults base paragraphs

end PatternText

/-- A text is outlined as its paragraphs say, unless they have faults. -/
theorem Outline.ofText_eq_unlessFaulty (text : String) :
    ∃ outline : Outline,
      Outline.ofText text.toList =
        unlessFaulty outline (lineFaults [] (PatternText.paragraphs text)) ∧
      outline.namespaces = PatternText.namespaces (PatternText.paragraphs text) ∧
      outline.blocks = PatternText.blocks (PatternText.paragraphs text) := by
  obtain ⟨outline, read, names, closed⟩ :=
    readNumbered_eq (numberedFrom 1 (Text.lines text.toList)) {} ⟨rfl, rfl⟩
  refine ⟨outline, ?_, names.trans ?_, closed⟩
  · rw [Outline.ofText, readLines_eq, read]
    rfl
  · simp [Namespaces.addAll, PatternText.namespaces, PatternText.paragraphs]

/-- A text is compiled to what its paragraphs say, unless they have faults. -/
theorem PatternSet.ofText_eq_unlessFaulty (base text : String) :
    PatternSet.ofText base text =
      unlessFaulty (PatternText.compiled base (PatternText.paragraphs text))
        (PatternText.faults base (PatternText.paragraphs text)) := by
  obtain ⟨outline, read, names, closed⟩ := Outline.ofText_eq_unlessFaulty text
  have compiled := PatternText.ofOutline_eq base (PatternText.paragraphs text) names closed
  rw [PatternSet.ofText, read, PatternText.faults, List.append_assoc]
  cases lineFaults [] (PatternText.paragraphs text) with
  | nil => exact compiled
  | cons fault more => rfl

/-- A text compiles exactly if its paragraphs have no faults, and then to what they say; otherwise
the first of their faults is reported. -/
theorem PatternSet.ofText_grammar (base text : String) (set : PatternSet) (fault : PatternError) :
    (PatternSet.ofText base text = .ok set ↔
        PatternText.faults base (PatternText.paragraphs text) = [] ∧
          PatternText.compiled base (PatternText.paragraphs text) = set) ∧
      (PatternSet.ofText base text = .error fault ↔
        (PatternText.faults base (PatternText.paragraphs text)).head? = some fault) := by
  rw [PatternSet.ofText_eq_unlessFaulty]
  cases PatternText.faults base (PatternText.paragraphs text) with
  | nil => simp [unlessFaulty]
  | cons first rest => simp [unlessFaulty]

end AnswerGraph
