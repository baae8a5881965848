import AnswerGraph.Proofs.PatternTerms
import AnswerGraph.Proofs.Words

/-!
The keys of a block and how they are joined. A separator stands inside of a trimmed text and never
at its end, so something is left in front of the first separator and behind the last one, and a
condition with a separator has two keys at least. The reader refuses a condition without keys where
it meets it, and no later pass reports such a condition.
-/

namespace AnswerGraph

namespace Text

/-- The trimmed parts of a text, without those that are blank. -/
def filledParts (word text : List Char) : List (List Char) :=
  ((splitOn word text).map trim).filter (!·.isEmpty)

theorem mem_filledParts {word text part : List Char} :
    part ∈ filledParts word text ↔ part ≠ [] ∧ ∃ whole ∈ splitOn word text, trim whole = part := by
  rw [filledParts, List.mem_filter, List.mem_map, and_comm, Bool.not_eq_true',
    List.isEmpty_eq_false_iff]

/-- The ends of a trimmed text are in the first part and in a later one, however separators overlap
between them. -/
theorem two_le_length_filledParts {word text : List Char} (trimmed : Trimmed text)
    (found : contains (padded word) text = true) : 2 ≤ (filledParts (padded word) text).length := by
  obtain ⟨⟨before, after⟩, cut⟩ := Option.isSome_iff_exists.mp found
  have separated := padded_ne_nil word
  have filled : text ≠ [] := by
    rw [append_of_cutAt? cut]
    simp [separated]
  have first := List.head?_eq_some_head filled
  have last := List.getLast?_eq_some_getLast filled
  have starts := head?_padded_ne word (trimmed.front _ first)
  have ends := getLast?_padded_ne word (trimmed.back _ last)
  have front : trim before ≠ [] :=
    trim_ne_nil (mem_before_of_cutAt? separated cut first starts) (trimmed.front _ first)
  obtain ⟨part, listed, inside⟩ :=
    exists_mem_splitOn (getLast?_after_of_cutAt? separated cut last ends) ends
  have more : trim part ∈ filledParts (padded word) after :=
    mem_filledParts.mpr ⟨trim_ne_nil inside (trimmed.back _ last), part, listed, rfl⟩
  have whole : filledParts (padded word) text = trim before :: filledParts (padded word) after := by
    rw [filledParts, splitOn_of_cutAt?_some separated cut, List.map_cons,
      List.filter_cons_of_pos (by simpa using front), filledParts]
  have one := List.length_pos_of_mem more
  rw [whole, List.length_cons]
  omega

end Text

namespace Condition

/-- A key that a pattern text can name. -/
structure IsKey (key : String) : Prop where
  nonempty : key ≠ ""
  trimmed : Text.Trimmed key.toList
  plain : ':' ∉ key.toList

/-- Keys as a text can name them, more than one exactly if they are joined. -/
structure WellFormed (condition : Condition) : Prop where
  keyed : ∀ key ∈ condition.keys, IsKey key
  single : condition.joining = .only → condition.keys.length = 1
  joined : condition.joining ≠ .only → 2 ≤ condition.keys.length

theorem WellFormed.only_iff {condition : Condition} (formed : condition.WellFormed) :
    condition.joining = .only ↔ condition.keys.length = 1 := by
  constructor
  · exact formed.single
  · intro one
    by_contra joined
    have several := formed.joined joined
    omega

theorem exists_of_opens {line : List Char} (opens : opens line = true) :
    ∃ rest, line = "IF".toList ++ rest := by
  rw [Condition.opens] at opens
  cases found : Text.dropPrefix? "IF".toList line with
  | none =>
    rw [found] at opens
    cases opens
  | some rest => exact ⟨rest, Text.dropPrefix?_eq_some.mp found⟩

theorem expression_append (rest : List Char) :
    expression ("IF".toList ++ rest) = Text.trim (rest.filter (· != ':')) := by
  rw [expression, Text.dropPrefix?_eq_some.mpr rfl, Option.getD_some]

theorem trimmed_expression (line : List Char) : Text.Trimmed (expression line) :=
  Text.trimmed_trim _

theorem not_mem_expression (line : List Char) : ':' ∉ expression line := by
  intro member
  simpa using List.of_mem_filter (Text.mem_of_mem_trim member)

/-- The separator that an expression is split at, if it has one. -/
theorem ofLine_cases (line : List Char) :
    (∃ word, Text.contains (Text.padded word) (expression line) = true ∧
        (ofLine line).joining ≠ .only ∧
        (ofLine line).keys =
          (Text.filledParts (Text.padded word) (expression line)).map String.ofList) ∨
      (ofLine line).joining = .only ∧
        (ofLine line).keys =
          ([Text.trim (expression line)].filter (!·.isEmpty)).map String.ofList := by
  by_cases both : Text.contains " AND ".toList (expression line)
  · left
    refine ⟨"AND".toList, both, ?_⟩
    simp only [ofLine, split, both, if_true]
    exact ⟨nofun, rfl⟩
  by_cases either : Text.contains " OR ".toList (expression line)
  · left
    refine ⟨"OR".toList, either, ?_⟩
    simp only [ofLine, split, both, either, if_true]
    exact ⟨nofun, rfl⟩
  · right
    simp only [ofLine, split, both, either]
    exact ⟨rfl, rfl⟩

theorem isKey_ofList {part : List Char} (nonempty : part ≠ []) (trimmed : Text.Trimmed part)
    (plain : ':' ∉ part) : IsKey (String.ofList part) where
  nonempty := by simpa using nonempty
  trimmed := by rwa [String.toList_ofList]
  plain := by rwa [String.toList_ofList]

/-- Keys of a line are never blank, and a line without a separator has one key at most. -/
theorem wellFormed_ofLine {line : List Char} (keyed : (ofLine line).keys ≠ []) :
    (ofLine line).WellFormed := by
  have plain := not_mem_expression line
  have trimmed := trimmed_expression line
  rcases ofLine_cases line with ⟨word, found, joined, keys⟩ | ⟨only, keys⟩
  · constructor
    · intro key member
      rw [keys] at member
      obtain ⟨part, kept, rfl⟩ := List.mem_map.mp member
      obtain ⟨nonempty, whole, listed, rfl⟩ := Text.mem_filledParts.mp kept
      refine isKey_ofList nonempty (Text.trimmed_trim whole) fun inside => plain ?_
      exact (Text.infix_of_mem_splitOn listed).subset (Text.mem_of_mem_trim inside)
    · intro only
      exact absurd only joined
    · intro _
      rw [keys, List.length_map]
      exact Text.two_le_length_filledParts trimmed found
  · rw [Text.trim_of_trimmed trimmed] at keys
    have filled : expression line ≠ [] := by
      intro empty
      rw [empty] at keys
      exact keyed keys
    have single : (ofLine line).keys = [String.ofList (expression line)] := by
      rw [keys, List.filter_cons_of_pos (by simpa using filled)]
      rfl
    constructor
    · intro key member
      rw [single] at member
      rw [List.mem_singleton.mp member]
      exact isKey_ofList filled trimmed plain
    · intro _
      rw [single]
      rfl
    · intro joined
      exact absurd only joined

theorem keys_ofLine_eq_nil_iff (line : List Char) :
    (ofLine line).keys = [] ↔ expression line = [] := by
  constructor
  · intro none
    rcases ofLine_cases line with ⟨word, found, -, keys⟩ | ⟨-, keys⟩
    · have several := Text.two_le_length_filledParts (trimmed_expression line) found
      rw [none, eq_comm, List.map_eq_nil_iff] at keys
      rw [keys] at several
      cases several
    · by_contra filled
      rw [Text.trim_of_trimmed (trimmed_expression line),
        List.filter_cons_of_pos (by simpa using filled), none] at keys
      cases keys
  · intro empty
    rw [ofLine, empty]
    rfl

/-- A condition has no keys exactly if only blanks are left behind its keyword without colons. -/
theorem keys_eq_nil_iff (rest : List Char) :
    (ofLine ("IF".toList ++ rest)).keys = [] ↔
      Text.isAllBlank (rest.filter (· != ':')) = true := by
  rw [keys_ofLine_eq_nil_iff, expression_append, Text.trim_eq_nil_iff, Text.isAllBlank,
    List.all_eq_true]

end Condition

namespace Outline

/-- What the reader can do with a line. -/
theorem readLine_cases {outline next : Outline} {number : Nat} {line : List Char}
    (read : outline.readLine number line = .ok next) :
    next = outline.closeBlock ∨
      (outline.current = none ∧ (Condition.ofLine line).keys ≠ [] ∧
        next = { outline with
          current := some { condition := Condition.ofLine line, line := number } }) ∨
      (∃ block, outline.current = some block ∧
        next = { outline with
          current := some { block with body := block.body ++ [(number, line)] } }) ∨
      (outline.current = none ∧ next.current = none ∧ next.blocks = outline.blocks) := by
  rw [readLine] at read
  split at read
  · exact .inl (Except.ok.inj read).symm
  split at read
  · rw [openBlock] at read
    split at read
    · cases read
    · next outside =>
      dsimp only at read
      split at read
      · cases read
      · next keyed =>
        refine .inr (.inl ⟨by simpa using outside, by simpa using keyed, ?_⟩)
        exact (Except.ok.inj read).symm
  split at read
  · next block inside => exact .inr (.inr (.inl ⟨block, inside, (Except.ok.inj read).symm⟩))
  · next outside =>
    rw [declareLine_eq outline (number, line)] at read
    rw [eq_of_unlessFaulty_eq_ok read]
    exact .inr (.inr (.inr ⟨outside, outside, rfl⟩))

/-- The number of a refused condition is that of the line where it is refused. -/
theorem eq_of_readLine_emptyCondition {outline : Outline} {number placed : Nat} {line : List Char}
    (refused : outline.readLine number line = .error (.emptyCondition placed)) :
    placed = number := by
  rw [readLine] at refused
  split at refused
  · cases refused
  split at refused
  · rw [openBlock] at refused
    split at refused
    · cases refused
    · dsimp only at refused
      split at refused <;> cases refused
      rfl
  split at refused
  · cases refused
  · rw [declareLine_eq outline (number, line)] at refused
    have listed := List.mem_of_mem_head? (unlessFaulty_eq_error_iff.mp refused)
    obtain ⟨declaration, _, repeated⟩ := exists_of_mem_repetitions listed
    cases repeated

/-- The blocks that were opened have keys as a line can name them. -/
def Conditioned (outline : Outline) : Prop :=
  ∀ block ∈ outline.blocks ++ outline.current.toList, block.condition.WellFormed

theorem Conditioned.readLine {outline next : Outline} (conditioned : outline.Conditioned)
    {number : Nat} {line : List Char} (read : outline.readLine number line = .ok next) :
    next.Conditioned := by
  intro block member
  rcases readLine_cases read with rfl | ⟨-, keyed, rfl⟩ | ⟨opened, inside, rfl⟩ |
    ⟨outside, still, same⟩
  · apply conditioned
    simpa [closeBlock] using member
  · rcases List.mem_append.mp member with closed | here
    · exact conditioned block (List.mem_append_left _ closed)
    · rw [List.mem_singleton.mp here]
      exact Condition.wellFormed_ofLine keyed
  · rcases List.mem_append.mp member with closed | here
    · exact conditioned block (List.mem_append_left _ closed)
    · rw [List.mem_singleton.mp here]
      exact conditioned opened (by simp [inside])
  · apply conditioned
    rwa [outside, ← same, ← still]

/-- The induction is on the lines: each keeps the conditions of the blocks that are there. -/
theorem Conditioned.readLines {outline last : Outline} (conditioned : outline.Conditioned)
    {number : Nat} {lines : List (List Char)} (read : outline.readLines number lines = .ok last) :
    last.Conditioned := by
  induction lines generalizing outline number with
  | nil =>
    cases read
    exact conditioned
  | cons line rest ih =>
    rw [Outline.readLines] at read
    cases step : outline.readLine number line with
    | error fault =>
      rw [step] at read
      cases read
    | ok next =>
      rw [step] at read
      exact ih (conditioned.readLine step) read

theorem conditioned_of_ofText {text : List Char} {outline : Outline}
    (read : ofText text = .ok outline) : outline.Conditioned :=
  Conditioned.readLines (by simp [Conditioned]) read

theorem readLines_append {outline next : Outline} {number : Nat} {front : List (List Char)}
    (read : outline.readLines number front = .ok next) (rest : List (List Char)) :
    outline.readLines number (front ++ rest) = next.readLines (number + front.length) rest := by
  induction front generalizing outline number with
  | nil =>
    cases read
    rfl
  | cons line front ih =>
    rw [readLines] at read
    rw [List.cons_append, readLines]
    cases step : outline.readLine number line with
    | error fault =>
      rw [step] at read
      cases read
    | ok later =>
      rw [step] at read
      refine (ih read).trans ?_
      rw [List.length_cons, Nat.add_right_comm, Nat.add_assoc]

/-- A refused condition is on one of the lines that are read. -/
theorem le_of_readLines_emptyCondition {outline : Outline} {number placed : Nat}
    {lines : List (List Char)}
    (refused : outline.readLines number lines = .error (.emptyCondition placed)) :
    number ≤ placed := by
  induction lines generalizing outline number with
  | nil => cases refused
  | cons line rest ih =>
    rw [readLines] at refused
    cases step : outline.readLine number line with
    | error fault =>
      rw [step] at refused
      cases refused
      exact (eq_of_readLine_emptyCondition step).ge
    | ok next =>
      rw [step] at refused
      exact (Nat.le_succ number).trans (ih refused)

/-- Outside of a block the reader refuses a condition exactly if it has no keys. -/
theorem readLines_condition_iff {outline : Outline} (outside : outline.current = none)
    {line : List Char} (opens : Condition.opens line = true) (number : Nat)
    (rest : List (List Char)) :
    outline.readLines number (line :: rest) = .error (.emptyCondition number) ↔
      (Condition.ofLine line).keys = [] := by
  have visible : isBlankLine (number, line) = false := by
    obtain ⟨rest, rfl⟩ := Condition.exists_of_opens opens
    rfl
  have step := readLine_condition outline outside (number, line) visible opens
  rw [readLines]
  by_cases keyless : (Condition.ofLine line).keys = []
  · rw [step, keyless]
    exact iff_of_true rfl rfl
  · rw [step, if_neg (by simpa using keyless)]
    refine iff_of_false ?_ keyless
    intro refused
    -- Whatever is refused behind this line has a greater number.
    have later := le_of_readLines_emptyCondition refused
    omega

end Outline

theorem Component.of_ofToken_error {token : List Char} {line : Nat} {namespaces : Namespaces}
    {variableTable : Variables} {fault : PatternError}
    (refused : ofToken token line namespaces variableTable = .error fault) :
    ∃ name, fault = .unknownVariable name line ∨ fault = .unknownNamespace name line := by
  cases ofToken_eq_iff.mp refused with
  | unknownVariable => exact ⟨_, .inl rfl⟩
  | unknownNamespace => exact ⟨_, .inr rfl⟩

namespace PatternSet

open PatternText (paragraphs)

variable {base text : String}

/-- The passes over an outline never report a condition. -/
theorem outline_refused_of_emptyCondition {number : Nat}
    (refused : ofText base text = .error (.emptyCondition number)) :
    Outline.ofText text.toList = .error (.emptyCondition number) := by
  obtain ⟨outline, read, -⟩ := Outline.ofText_eq_unlessFaulty text
  rw [ofText_eq_unlessFaulty, unlessFaulty_eq_error_iff, PatternText.faults] at refused
  cases faults : lineFaults [] (paragraphs text) with
  | cons fault more =>
    rw [faults] at refused
    cases refused
    rw [read, faults]
    rfl
  | nil =>
    rw [faults, List.nil_append] at refused
    rcases List.mem_append.mp (List.mem_of_mem_head? refused) with overlapping | unreadable
    · obtain ⟨entry, _, fault⟩ := List.mem_filterMap.mp overlapping
      dsimp only at fault
      split at fault <;> cases fault
    · obtain ⟨line, _, listed⟩ := List.mem_flatMap.mp unreadable
      obtain ⟨token, _, fault⟩ := List.mem_filterMap.mp listed
      obtain ⟨name, unknown | unknown⟩ :=
        Component.of_ofToken_error (fault?_eq_some_iff.mp fault) <;> cases unknown

theorem wellFormed_of_mem_blocks {set : PatternSet} (compiled : ofText base text = .ok set) :
    ∀ block ∈ set.blocks, block.condition.WellFormed := by
  obtain ⟨faultless, rfl⟩ := eq_compiled_of_ofText compiled
  obtain ⟨outline, read, -, blocks⟩ := Outline.ofText_eq_unlessFaulty text
  rw [(List.append_eq_nil_iff.mp (List.append_eq_nil_iff.mp faultless).1).1] at read
  intro block member
  obtain ⟨⟨raw, number⟩, placed, rfl⟩ := List.mem_map.mp member
  have listed : raw ∈ outline.blocks := by
    rw [blocks]
    exact List.fst_mem_of_mem_zipIdx placed
  exact Outline.conditioned_of_ofText read raw (List.mem_append_left _ listed)

/-- The keys of every compiled block are trimmed texts without colons, and there is more than one
exactly if they are joined. A condition outside of a block is refused exactly if only blanks are
left of it without its keyword and its colons. -/
theorem keys_of_conditions (base text : String) :
    (∀ set, ofText base text = .ok set → ∀ block ∈ set.blocks,
      (∀ key ∈ block.keys, Condition.IsKey key) ∧
        (block.condition.joining = .only ↔ block.keys.length = 1) ∧
        (block.isMultiKey = true ↔
          block.condition.joining = .and ∨ block.condition.joining = .or) ∧
        (block.condition.joining = .and ∨ block.condition.joining = .or →
          2 ≤ block.keys.length)) ∧
      ∀ before rest after outline,
        Text.lines text.toList = before ++ ("IF".toList ++ rest) :: after →
        Outline.readLines {} 1 before = .ok outline → outline.current = none →
        Condition.opens ("IF".toList ++ rest) = true →
        (ofText base text = .error (.emptyCondition (before.length + 1)) ↔
          Text.isAllBlank (rest.filter (· != ':')) = true) := by
  constructor
  · intro set compiled block member
    have formed := wellFormed_of_mem_blocks compiled block member
    have joined : block.condition.joining = .and ∨ block.condition.joining = .or ↔
        block.condition.joining ≠ .only := by
      cases block.condition.joining <;> simp
    refine ⟨formed.keyed, formed.only_iff, ?_, fun either => formed.joined (joined.mp either)⟩
    rw [joined, Block.isMultiKey, decide_eq_true_iff]
    constructor
    · intro several only
      exact absurd (formed.single only) (Nat.ne_of_gt several)
    · exact formed.joined
  · intro before rest after outline cut read outside opens
    have reached : Outline.ofText text.toList =
        outline.readLines (before.length + 1) (("IF".toList ++ rest) :: after) := by
      rw [Outline.ofText, cut, Outline.readLines_append read, Nat.add_comm]
    have refused := Outline.readLines_condition_iff outside opens (before.length + 1) after
    rw [← reached, Condition.keys_eq_nil_iff] at refused
    rw [← refused]
    constructor
    · exact outline_refused_of_emptyCondition
    · intro met
      rw [ofText, met]
      rfl

/-- A block whose condition has overlapping separators and a colon inside. -/
def overlappingSet : PatternSet where
  namespaces := {}
  variableTable := { base := "urn:v:" }
  patterns := [[]]
  blocks := [{ condition := ⟨["A", "AND B OR C"], .and⟩, pattern := 0, line := 1 }]

theorem keys_of_conditions_overlapping :
    ofText "urn:v:" "IF A AND AND B: OR C\n\n" = .ok overlappingSet ∧
      (∀ block ∈ overlappingSet.blocks,
        (∀ key ∈ block.keys, Condition.IsKey key) ∧ 2 ≤ block.keys.length) ∧
      ofText "urn:v:" "IF A:\n\nIF \t: :\n" = .error (.emptyCondition 3) := by
  have compiled : ofText "urn:v:" "IF A AND AND B: OR C\n\n" = .ok overlappingSet := by
    decide +kernel
  refine ⟨compiled, ?_, ?_⟩
  · intro block member
    obtain ⟨keyed, -, -, joined⟩ := (keys_of_conditions _ _).1 _ compiled block member
    refine ⟨keyed, joined ?_⟩
    rw [List.mem_singleton.mp member]
    exact .inl rfl
  · let outline : Outline :=
      { blocks := [{ condition := ⟨["A"], .only⟩, line := 1 }] }
    refine ((keys_of_conditions "urn:v:" "IF A:\n\nIF \t: :\n").2 ["IF A:".toList, []]
      " \t: :".toList [] outline ?_ ?_ rfl ?_).mpr ?_ <;> decide +kernel

end PatternSet

end AnswerGraph
