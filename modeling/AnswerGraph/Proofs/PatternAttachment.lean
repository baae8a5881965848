import AnswerGraph.Matching
import AnswerGraph.Proofs.KeyIndex

/-!
Attaching patterns by the key index. An index is filled block by block, and each block is registered
under every key that it lists. A template scans the blocks instead; it gets the patterns that the
index has under its broader type, but of the blocks with more keys only those that the index also
has under its specific type.
-/

namespace AnswerGraph

/-! ## Registration -/

/-- The numbers of patterns, by the keys that they are registered under. -/
abbrev KeyTable := List (String × List Nat)

namespace KeyTable

/-- The numbers under a key, none if the table does not have the key. -/
def numbers (table : KeyTable) (key : String) : List Nat := (table.lookup key).getD []

/-- Puts a number behind those that are registered under a key. -/
def register (number : Nat) (table : KeyTable) (key : String) : KeyTable :=
  Keyed.insert key (table.numbers key ++ [number]) table

/-- Registers the pattern of a block, key by key. -/
def registerBlock (table : KeyTable) (block : Block) : KeyTable :=
  block.keys.foldl (register block.pattern) table

def ofBlocks (blocks : List Block) : KeyTable :=
  blocks.foldl registerBlock []

theorem numbers_register (number : Nat) (table : KeyTable) (key other : String) :
    (register number table key).numbers other =
      table.numbers other ++ if key = other then [number] else [] := by
  rw [numbers, register]
  split
  · next same =>
    subst other
    rw [Keyed.lookup_insert, Option.getD_some]
  · next different =>
    rw [Keyed.lookup_insert_of_ne _ _ (Ne.symm different), List.append_nil, numbers]

/-- A block is registered under a key as often as it lists the key. -/
theorem numbers_registerBlock (table : KeyTable) (block : Block) (key : String) :
    (registerBlock table block).numbers key =
      table.numbers key ++ List.replicate (block.keys.count key) block.pattern := by
  rw [registerBlock]
  generalize block.keys = keys
  induction keys generalizing table with
  | nil => exact (List.append_nil _).symm
  | cons first rest ih =>
    rw [List.foldl_cons, ih, numbers_register, List.count_cons, List.append_assoc]
    by_cases same : first = key
    · rw [if_pos same, if_pos (beq_iff_eq.mpr same), List.replicate_succ]
      rfl
    · rw [if_neg same, if_neg (by simpa using same)]
      rfl

theorem numbers_foldl (blocks : List Block) (table : KeyTable) (key : String) :
    (blocks.foldl registerBlock table).numbers key =
      table.numbers key ++
        blocks.flatMap fun block => List.replicate (block.keys.count key) block.pattern := by
  induction blocks generalizing table with
  | nil => exact (List.append_nil _).symm
  | cons block rest ih =>
    rw [List.foldl_cons, ih, numbers_registerBlock, List.append_assoc, List.flatMap_cons]

/-- The table that the blocks of a set fill has the patterns of the set under every key. -/
theorem numbers_ofBlocks (set : PatternSet) (key : String) :
    (ofBlocks set.blocks).numbers key = set.patternsFor key := by
  rw [ofBlocks, numbers_foldl, PatternSet.patternsFor_eq_replicate]
  exact List.nil_append _

end KeyTable

/-! ## Attachment -/

namespace PatternSet

variable {set : PatternSet} {number : Nat} {block : Block}

/-- In a numbered set a number is that of the block at its place. -/
theorem IsNumbered.getElem?_blocks (numbered : set.IsNumbered) :
    set.blocks[number]? = some block ↔ block ∈ set.blocks ∧ block.pattern = number := by
  have own {place : Nat} {other : Block} (placed : set.blocks[place]? = some other) :
      other.pattern = place := by
    have listed : (set.blocks.map Block.pattern)[place]? = some other.pattern := by
      rw [List.getElem?_map, placed, Option.map_some]
    rw [numbered] at listed
    obtain ⟨inside, same⟩ := List.getElem?_eq_some_iff.mp listed
    rw [← same, List.getElem_range]
  constructor
  · intro placed
    exact ⟨List.mem_of_getElem? placed, own placed⟩
  · rintro ⟨listed, rfl⟩
    obtain ⟨place, placed⟩ := List.mem_iff_getElem?.mp listed
    rwa [own placed]

/-- A number is registered under the keys of its block, and under no others. -/
theorem IsNumbered.mem_patternsFor_iff (numbered : set.IsNumbered)
    (placed : set.blocks[number]? = some block) {key : String} :
    number ∈ set.patternsFor key ↔ key ∈ block.keys := by
  rw [mem_patternsFor]
  constructor
  · rintro ⟨other, listed, lists, same⟩
    cases placed.symm.trans (numbered.getElem?_blocks.mpr ⟨listed, same⟩)
    exact lists
  · intro lists
    obtain ⟨listed, same⟩ := numbered.getElem?_blocks.mp placed
    exact ⟨block, listed, lists, same⟩

end PatternSet

namespace QuestionTemplate

variable {set : PatternSet} {template : QuestionTemplate} {number : Nat} {block : Block}

/-- A block that lists the broader type attaches if that is its only key, or if it lists the
specific type as well. -/
theorem attaches_iff : template.attaches block = true ↔
    template.broaderType ∈ block.keys ∧
      (block.keys.length = 1 ∨ template.specificType ∈ block.keys) := by
  rw [attaches, Bool.and_eq_true, Bool.or_eq_true, Block.hasKey, Block.hasKey,
    List.contains_iff_mem, List.contains_iff_mem, and_congr_right_iff]
  intro lists
  have several := List.length_pos_of_mem lists
  have single : (!block.isMultiKey) = true ↔ block.keys.length = 1 := by
    rw [Block.isMultiKey, Bool.not_eq_true', decide_eq_false_iff_not]
    omega
  rw [single]

/-- What a template scans for is what the index has under its types. -/
theorem mem_attachedPatterns (numbered : set.IsNumbered) :
    number ∈ template.attachedPatterns set ↔
      number ∈ set.patternsFor template.broaderType ∧
        ∃ block, set.blocks[number]? = some block ∧
          (block.keys.length = 1 ∨ number ∈ set.patternsFor template.specificType) := by
  rw [attachedPatterns, List.mem_map]
  constructor
  · rintro ⟨block, kept, same⟩
    obtain ⟨listed, attached⟩ := List.mem_filter.mp kept
    obtain ⟨broader, rest⟩ := attaches_iff.mp attached
    have placed := numbered.getElem?_blocks.mpr ⟨listed, same⟩
    have registered {key : String} := @numbered.mem_patternsFor_iff _ _ _ placed key
    exact ⟨registered.mpr broader, block, placed, rest.imp_right registered.mpr⟩
  · rintro ⟨broader, block, placed, rest⟩
    have registered {key : String} := @numbered.mem_patternsFor_iff _ _ _ placed key
    obtain ⟨listed, same⟩ := numbered.getElem?_blocks.mp placed
    have attached := attaches_iff.mpr ⟨registered.mp broader, rest.imp_right registered.mp⟩
    exact ⟨block, List.mem_filter.mpr ⟨listed, attached⟩, same⟩

theorem attachedPatterns_increasing (numbered : set.IsNumbered) (template : QuestionTemplate) :
    (template.attachedPatterns set).Pairwise (· < ·) :=
  List.pairwise_map.mpr (numbered.pairwise.sublist List.filter_sublist)

/-- The patterns of a template are read off the key index, though the template scans the blocks:
they are the numbers under its broader type, in order and each once, of the blocks that have no
other key or that are also under its specific type. So no block without the broader type attaches,
and if both types are the same, every block under it does. -/
theorem attached_of_index {base text : String} {set : PatternSet}
    (compiled : PatternSet.ofText base text = .ok set) (template : QuestionTemplate) :
    let attached := template.attachedPatterns set
    let index := KeyTable.ofBlocks set.blocks
    (∀ key, index.numbers key = set.patternsFor key) ∧
      attached.Pairwise (· < ·) ∧
      (∀ number, number ∈ attached ↔
        number ∈ index.numbers template.broaderType ∧
          ∃ block, set.blocks[number]? = some block ∧
            (block.keys.length = 1 ∨ number ∈ index.numbers template.specificType)) ∧
      (∀ block ∈ set.blocks, template.broaderType ∉ block.keys → block.pattern ∉ attached) ∧
      (template.broaderType = template.specificType →
        ∀ number, number ∈ attached ↔ number ∈ index.numbers template.broaderType) := by
  intro attached index
  have numbered := PatternSet.isNumbered_of_ofText compiled
  have found := KeyTable.numbers_ofBlocks set
  have scanned (number : Nat) := @mem_attachedPatterns set template number numbered
  simp only [index, found]
  refine ⟨fun _ => trivial, attachedPatterns_increasing numbered template, scanned, ?_, ?_⟩
  · intro block listed without inside
    have placed := numbered.getElem?_blocks.mpr ⟨listed, rfl⟩
    have registered := ((scanned block.pattern).mp inside).1
    exact without ((numbered.mem_patternsFor_iff placed).mp registered)
  · intro same number
    constructor
    · exact fun inside => ((scanned number).mp inside).1
    · intro registered
      obtain ⟨block, listed, -, own⟩ := PatternSet.mem_patternsFor.mp registered
      have placed := numbered.getElem?_blocks.mpr ⟨listed, own⟩
      exact (scanned number).mpr ⟨registered, block, placed, .inr (same ▸ registered)⟩

/-- Blocks that share a key, one of which lists it twice. -/
def overlappingKeys : String :=
  "IF A AND A:\n\nIF A:\nx y #ANSWER .\n\nIF A OR B:\n\nIF B:\n\n"

def overlappingSet : PatternSet where
  namespaces := {}
  variableTable := { base := Variables.defaultBase }
  patterns := [[], [⟨[.literal "x", .literal "y", .placeholder]⟩], [], []]
  blocks := [
    { condition := ⟨["A", "A"], .and⟩, pattern := 0, line := 1 },
    { condition := ⟨["A"], .only⟩, pattern := 1, line := 3 },
    { condition := ⟨["A", "B"], .or⟩, pattern := 2, line := 6 },
    { condition := ⟨["B"], .only⟩, pattern := 3, line := 8 }]

/-- The index lists a pattern twice. It does not attach to a template with another specific type,
and once to one that has the key for both types. -/
theorem attached_of_index_overlapping :
    let index := KeyTable.ofBlocks overlappingSet.blocks
    let both : QuestionTemplate := { broaderType := "A", specificType := "A" }
    let mixed : QuestionTemplate := { broaderType := "A", specificType := "B" }
    PatternSet.ofText Variables.defaultBase overlappingKeys = .ok overlappingSet ∧
      index.numbers "A" = [0, 0, 1, 2] ∧
      0 ∈ both.attachedPatterns overlappingSet ∧
      (both.attachedPatterns overlappingSet).Pairwise (· < ·) ∧
      0 ∉ mixed.attachedPatterns overlappingSet ∧
      2 ∈ mixed.attachedPatterns overlappingSet := by
  intro index both mixed
  have compiled : PatternSet.ofText Variables.defaultBase overlappingKeys = .ok overlappingSet := by
    decide +kernel
  have under : index.numbers "A" = [0, 0, 1, 2] := by decide
  obtain ⟨-, increasing, -, -, every⟩ := attached_of_index compiled both
  obtain ⟨-, -, scanned, -, -⟩ := attached_of_index compiled mixed
  refine ⟨compiled, under, (every rfl 0).mpr (by decide), increasing, ?_, ?_⟩
  · rw [scanned 0]
    decide
  · exact (scanned 2).mpr ⟨by decide, _, rfl, .inr (by decide)⟩

end QuestionTemplate

end AnswerGraph
