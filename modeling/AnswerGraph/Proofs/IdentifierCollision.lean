import AnswerGraph.Assembly
import AnswerGraph.Proofs.IdentifierBase
import AnswerGraph.Proofs.PatternTerms

/-!
When a subject is a variable. Identifiers are bases with a number behind them, so two different
bases give the same identifier exactly if one of them is the other with more digits behind it, and
these digits start the longer of the two numbers.
-/

namespace AnswerGraph

/-! ## Numerals -/

/-- A number of several digits is written as its tenth with one digit behind it. -/
theorem numeral_of_ten_le {number : Nat} (large : 10 ≤ number) :
    numeral number = numeral (number / 10) ++ [(number % 10).digitChar] := by
  rw [numeral_eq, numeral_eq, Nat.toDigits_eq_if (by decide), if_neg (by omega)]

theorem numeral_of_lt_ten {number : Nat} (small : number < 10) :
    numeral number = [number.digitChar] := by
  rw [numeral_eq, Nat.toDigits_of_lt_base small]

/-- A numeral with a zero behind it is that of ten times the number. -/
theorem numeral_ten_mul {number : Nat} (positive : 0 < number) :
    numeral (10 * number) = numeral number ++ numeral 0 := by
  rw [numeral_eq, numeral_eq, numeral_eq,
    Nat.toDigits_append_toDigits (by decide : 1 < 10) positive (by decide), Nat.add_zero]

/-- What a numeral starts with, if digits are left behind it, is a numeral itself; and it is that of
a positive number, because only zero is written with a zero in front. -/
theorem exists_numeral_of_append {number : Nat} {front rest : List Char}
    (cut : numeral number = front ++ rest) (begun : front ≠ []) (more : rest ≠ []) :
    ∃ extra, 0 < extra ∧ front = numeral extra := by
  -- The digits in `rest` are taken away one by one, each with a tenth of the number left.
  induction number using Nat.strongRecOn generalizing rest with
  | ind number ih =>
    obtain ⟨init, last, rfl⟩ : ∃ init last, rest = init ++ [last] :=
      ⟨rest.dropLast, rest.getLast more, (List.dropLast_concat_getLast more).symm⟩
    by_cases large : 10 ≤ number
    · rw [numeral_of_ten_le large, ← List.append_assoc, List.append_singleton_inj] at cut
      by_cases done : init = []
      · subst done
        exact ⟨number / 10, by omega, by simpa using cut.1.symm⟩
      · exact ih (number / 10) (by omega) cut.1 done
    · rw [numeral_of_lt_ten (by omega)] at cut
      have lengths := congrArg List.length cut
      have := List.length_pos_iff.mpr begun
      simp only [List.length_append, List.length_cons, List.length_nil] at lengths
      omega

/-! ## Bases that collide -/

/-- A base that is another one with the numeral of a positive number behind it. -/
def ExtendsByNumber (longer base : String) : Prop :=
  ∃ number, 0 < number ∧ longer = base ++ toString number

/-- The identifiers of a base and of a longer one are equal if the number of the shorter base
starts with what the longer base has behind the shorter. -/
theorem append_number_eq_iff {base other : String} (different : base ≠ other) (first second : Nat) :
    base ++ toString first = other ++ toString second ↔
      ∃ extra, 0 < extra ∧
        (other = base ++ toString extra ∧ toString first = toString extra ++ toString second ∨
          base = other ++ toString extra ∧ toString second = toString extra ++ toString first) := by
  have texts : ∀ left right : String, left = right ↔ left.toList = right.toList := fun left right =>
    String.toList_inj.symm
  simp only [texts, String.toList_append, ne_eq] at different ⊢
  change _ ++ numeral first = _ ++ numeral second ↔ ∃ extra, 0 < extra ∧
    (_ = _ ++ numeral extra ∧ numeral first = numeral extra ++ numeral second ∨
      _ = _ ++ numeral extra ∧ numeral second = numeral extra ++ numeral first)
  constructor
  · intro same
    rcases List.append_eq_append_iff.mp same with ⟨extra, longer, cut⟩ | ⟨extra, longer, cut⟩
    · have begun : extra ≠ [] := by
        rintro rfl
        exact different (by simpa using longer.symm)
      obtain ⟨number, positive, rfl⟩ :=
        exists_numeral_of_append cut begun (numeral_ne_nil second)
      exact ⟨number, positive, .inl ⟨longer, cut⟩⟩
    · have begun : extra ≠ [] := by
        rintro rfl
        exact different (by simpa using longer)
      obtain ⟨number, positive, rfl⟩ := exists_numeral_of_append cut begun (numeral_ne_nil first)
      exact ⟨number, positive, .inr ⟨longer, cut⟩⟩
  · rintro ⟨extra, -, ⟨longer, cut⟩ | ⟨longer, cut⟩⟩
    · rw [longer, cut, List.append_assoc]
    · rw [longer, cut, List.append_assoc]

/-- Some identifiers of two bases are equal if one base is the other with a number behind it: the
longer base with zero behind it is the shorter one with ten times the number. -/
theorem exists_append_number_eq_iff {base other : String} (different : base ≠ other) :
    (∃ first second : Nat, base ++ toString first = other ++ toString second) ↔
      ExtendsByNumber other base ∨ ExtendsByNumber base other := by
  simp only [append_number_eq_iff different]
  constructor
  · rintro ⟨first, second, extra, positive, ⟨longer, -⟩ | ⟨longer, -⟩⟩
    · exact .inl ⟨extra, positive, longer⟩
    · exact .inr ⟨extra, positive, longer⟩
  · have tenfold : ∀ extra : Nat, 0 < extra →
        toString (10 * extra) = toString extra ++ toString 0 := fun extra positive =>
      String.toList_inj.mp (by simpa [numeral] using numeral_ten_mul positive)
    rintro (⟨extra, positive, longer⟩ | ⟨extra, positive, longer⟩)
    · exact ⟨10 * extra, 0, extra, positive, .inl ⟨longer, tenfold extra positive⟩⟩
    · exact ⟨0, 10 * extra, extra, positive, .inr ⟨longer, tenfold extra positive⟩⟩

namespace Configuration

variable {configuration : Configuration}

/-- The identifiers of an accepted configuration collide exactly if one base is the other with a
number behind it, which the check of the bases lets pass. Only then can a minted subject be the
identifier of a variable. -/
theorem identifiers_collide_iff (accepted : configuration.check = .ok ()) :
    let bases := configuration.identifiers
    (∀ rank number : Nat,
        bases.variableBase ++ toString rank = bases.subjectBase ++ toString number ↔
          ∃ extra, 0 < extra ∧
            (bases.subjectBase = bases.variableBase ++ toString extra ∧
                toString rank = toString extra ++ toString number ∨
              bases.variableBase = bases.subjectBase ++ toString extra ∧
                toString number = toString extra ++ toString rank)) ∧
      ((∃ rank number : Nat,
          bases.variableBase ++ toString rank = bases.subjectBase ++ toString number) ↔
        ExtendsByNumber bases.subjectBase bases.variableBase ∨
          ExtendsByNumber bases.variableBase bases.subjectBase) ∧
      ∀ text set, PatternSet.ofText bases.variableBase text = .ok set →
        ∀ name iri, .named name iri ∈ set.components →
          ∀ minter : Minter, minter.base = bases.subjectBase → minter.mint.1 = iri →
            ExtendsByNumber bases.subjectBase bases.variableBase ∨
              ExtendsByNumber bases.variableBase bases.subjectBase := by
  intro bases
  obtain ⟨-, -, different⟩ := checks_of_check accepted
  refine ⟨append_number_eq_iff different, exists_append_number_eq_iff different, ?_⟩
  intro text set compiled name iri used minter based minted
  have tableBase := PatternSet.base_of_ofText compiled
  obtain ⟨rank, rfl⟩ := Variables.exists_rank (PatternSet.declared_of_ofText compiled _ used)
  rw [Minter.mint, Minter.iriAt, based, Variables.iriAt, tableBase] at minted
  exact (exists_append_number_eq_iff different).mp ⟨rank, minter.count, minted.symm⟩

/-- Bases of which one is the other with a digit behind it. -/
def nestedBases : Configuration :=
  { identifiers :=
      { variableBase := "http://example.org/", subjectBase := "http://example.org/1" } }

theorem identifiers_collide_nested :
    nestedBases.check = .ok () ∧
      ∃ rank number : Nat, nestedBases.identifiers.variableBase ++ toString rank =
        nestedBases.identifiers.subjectBase ++ toString number := by
  have accepted : nestedBases.check = .ok () := by decide +kernel
  obtain ⟨-, some, -⟩ := identifiers_collide_iff accepted
  exact ⟨accepted, some.mpr (.inl ⟨1, by decide, by decide⟩)⟩

/-- A text with eleven variables. -/
def elevenVariables : String :=
  "IF Milling:\n<a> <b> <c> .\n<d> <e> <f> .\n<g> <h> <i> .\n<j> <k> #ANSWER .\n\n"

/-- One answer with one detail. -/
def oneAnswer : AnswerSource where
  knowledgeObjects := [{ id := 7, category := "Process" }]
  answers := [{ detailIds := [1], templateNames := ["Milling", "Milling"], finalResult := "yes" }]
  details := [{ id := 1, text := "Milling", knowledgeObjectIds := [7] }]

/-- With these bases the configuration is accepted, and a build merges its only subject with the
eleventh variable, which is the predicate of the statement about it. -/
theorem subject_is_variable :
    nestedBases.check = .ok () ∧
      nestedBases.identifiers.variableBase ++ toString 10 =
        nestedBases.identifiers.subjectBase ++ toString 0 ∧
      (PatternSet.ofText nestedBases.identifiers.variableBase elevenVariables).map (fun set =>
          (set.variableTable.iri? "k",
            (Build.ofParts nestedBases.identifiers set
              [{ broaderType := "Milling", specificType := "Milling" }]
              oneAnswer).graph.distinct)) =
        .ok (some "http://example.org/10",
          [⟨[.iri "http://example.org/0", .iri "http://example.org/1",
              .iri "http://example.org/2"]⟩,
            ⟨[.iri "http://example.org/3", .iri "http://example.org/4",
              .iri "http://example.org/5"]⟩,
            ⟨[.iri "http://example.org/6", .iri "http://example.org/7",
              .iri "http://example.org/8"]⟩,
            ⟨[.iri "http://example.org/10", .iri Vocabulary.rdfsLabel, .literal "Milling"]⟩,
            ⟨[.iri "http://example.org/9", .iri "http://example.org/10",
              .iri "http://example.org/10"]⟩]) := by
  refine ⟨by decide +kernel, by decide, ?_⟩
  decide +kernel

end Configuration

end AnswerGraph
