import AnswerGraph.Proofs.Firsts
import AnswerGraph.Proofs.PatternTerms
import Mathlib.Data.List.Flatten
import Mathlib.Data.List.Nodup

/-!
The patterns registered under a key. Blocks are numbered as they stand in the text, so the numbers
under a key never decrease. A block is registered once for each time that its condition lists the
key: where a condition repeats a key, its pattern is listed as often.
-/

namespace AnswerGraph.PatternSet

/-- A key is met again only if it was seen: what the fold over keys collects are first ones. -/
theorem foldl_append_firstsFrom (seen keys : List String) :
    keys.foldl (fun seen key => if key ∈ seen then seen else seen ++ [key]) seen =
      seen ++ firstsFrom seen keys := by
  induction keys generalizing seen with
  | nil => exact (List.append_nil seen).symm
  | cons key rest ih =>
    by_cases known : key ∈ seen
    · simp [firstsFrom, known, ih]
    · have same : ∀ x, x ∈ seen ++ [key] ↔ x ∈ key :: seen := by
        intro x
        rw [List.mem_append, List.mem_singleton, List.mem_cons, or_comm]
      simp [firstsFrom, known, ih, firstsFrom_congr same]

theorem keys_eq_firsts (set : PatternSet) : set.keys = firsts (set.blocks.flatMap Block.keys) :=
  foldl_append_firstsFrom [] _

variable {set : PatternSet} {key : String}

/-- Each block is registered under a key as often as it lists the key. -/
theorem patternsFor_eq_replicate (set : PatternSet) (key : String) :
    set.patternsFor key =
      set.blocks.flatMap fun block => List.replicate (block.keys.count key) block.pattern := by
  unfold patternsFor
  apply List.flatMap_congr
  intro block _
  rw [List.filter_beq, List.map_replicate]

theorem mem_patternsFor {number : Nat} :
    number ∈ set.patternsFor key ↔
      ∃ block ∈ set.blocks, key ∈ block.keys ∧ block.pattern = number := by
  simp only [patternsFor_eq_replicate, List.mem_flatMap, List.mem_replicate, ne_eq,
    List.count_eq_zero, not_not, eq_comm (a := number)]

/-- The keys are those that something is registered under. -/
theorem mem_keys_iff : key ∈ set.keys ↔ set.patternsFor key ≠ [] := by
  rw [keys_eq_firsts, mem_firsts, List.mem_flatMap]
  constructor
  · rintro ⟨block, listed, lists⟩
    exact List.ne_nil_of_mem (mem_patternsFor.mpr ⟨block, listed, lists, rfl⟩)
  · intro registered
    obtain ⟨number, member⟩ := List.exists_mem_of_ne_nil _ registered
    obtain ⟨block, listed, lists, -⟩ := mem_patternsFor.mp member
    exact ⟨block, listed, lists⟩

/-- A key that no block lists twice has the patterns of the blocks that list it. -/
theorem patternsFor_of_once (once : ∀ block ∈ set.blocks, block.keys.count key ≤ 1) :
    set.patternsFor key =
      (set.blocks.filter fun block => block.hasKey key).map Block.pattern := by
  rw [patternsFor_eq_replicate]
  generalize set.blocks = blocks at once
  induction blocks with
  | nil => rfl
  | cons block rest ih =>
    obtain ⟨here, later⟩ := List.forall_mem_cons.mp once
    rw [List.flatMap_cons, ih later]
    by_cases listed : key ∈ block.keys
    · have single : block.keys.count key = 1 :=
        Nat.le_antisymm here (List.count_pos_iff.mpr listed)
      have has : block.hasKey key = true := List.contains_iff_mem.mpr listed
      rw [List.filter_cons, if_pos has, single]
      rfl
    · have hasNot : ¬ block.hasKey key = true := fun has =>
        listed (List.contains_iff_mem.mp has)
      rw [List.filter_cons, if_neg hasNot, List.count_eq_zero.mpr listed]
      rfl

/-- Blocks are numbered as they stand, from 0 to the number of patterns. -/
def IsNumbered (set : PatternSet) : Prop :=
  set.blocks.map Block.pattern = List.range set.size

theorem isNumbered_of_ofText {base text : String} (compiled : ofText base text = .ok set) :
    set.IsNumbered := by
  obtain ⟨-, rfl⟩ := eq_compiled_of_ofText compiled
  change ((PatternText.blocks (PatternText.paragraphs text)).zipIdx.map _).map Block.pattern =
    List.range ((PatternText.blocks (PatternText.paragraphs text)).map _).length
  rw [List.map_map, List.length_map, List.range_eq_range', ← List.zipIdx_map_snd]
  rfl

namespace IsNumbered

theorem pairwise (numbered : set.IsNumbered) :
    set.blocks.Pairwise fun earlier later => earlier.pattern < later.pattern := by
  have increasing : (List.range set.size).Pairwise (· < ·) := List.pairwise_lt_range
  rw [← numbered] at increasing
  exact List.pairwise_map.mp increasing

theorem patternsFor_ordered (numbered : set.IsNumbered) (key : String) :
    (set.patternsFor key).Pairwise (· ≤ ·) := by
  rw [patternsFor_eq_replicate]
  apply List.pairwise_flatMap.mpr
  constructor
  · intro block _
    exact List.pairwise_replicate.mpr (.inr (Nat.le_refl block.pattern))
  · apply numbered.pairwise.imp
    intro earlier later before x inEarlier y inLater
    rw [List.eq_of_mem_replicate inEarlier, List.eq_of_mem_replicate inLater]
    exact Nat.le_of_lt before

/-- A number counts the lists of its own block only. -/
theorem count_patternsFor (numbered : set.IsNumbered) (key : String) {block : Block}
    (listed : block ∈ set.blocks) :
    (set.patternsFor key).count block.pattern = block.keys.count key := by
  have apart := numbered.pairwise
  rw [patternsFor_eq_replicate]
  generalize set.blocks = blocks at apart listed
  induction blocks with
  | nil => cases listed
  | cons first rest ih =>
    obtain ⟨before, later⟩ := List.pairwise_cons.mp apart
    rw [List.flatMap_cons, List.count_append, List.count_replicate]
    rcases List.mem_cons.mp listed with rfl | listed
    · have absent : block.pattern ∉ rest.flatMap fun other =>
          List.replicate (other.keys.count key) other.pattern := by
        intro member
        obtain ⟨other, inRest, repeated⟩ := List.mem_flatMap.mp member
        have same : block.pattern = other.pattern := List.eq_of_mem_replicate repeated
        exact Nat.ne_of_lt (before other inRest) same
      rw [List.count_eq_zero.mpr absent, beq_self_eq_true, if_pos rfl, Nat.add_zero]
    · have other : (first.pattern == block.pattern) = false :=
        beq_false_of_ne (Nat.ne_of_lt (before block listed))
      rw [ih later listed, other, if_neg Bool.false_ne_true, Nat.zero_add]

theorem patternsFor_increasing_iff (numbered : set.IsNumbered) (key : String) :
    (set.patternsFor key).Pairwise (· < ·) ↔
      ∀ block ∈ set.blocks, block.keys.count key ≤ 1 := by
  constructor
  · intro increasing block listed
    have distinct : (set.patternsFor key).Nodup := increasing.imp Nat.ne_of_lt
    rw [← numbered.count_patternsFor key listed]
    exact List.nodup_iff_count_le_one.mp distinct block.pattern
  · intro once
    rw [patternsFor_of_once once]
    exact List.pairwise_map.mpr (numbered.pairwise.sublist List.filter_sublist)

end IsNumbered

/-- The blocks of a compiled text are numbered in order. Under each key stand the numbers of the
blocks that list it, in order, each as often as its block lists the key; so no number is repeated
just if no block repeats the key. The keys are those with numbers, each once, in order of first
registration. -/
theorem key_index {base text : String} (compiled : ofText base text = .ok set) :
    set.blocks.map Block.pattern = List.range set.size ∧
      (∀ key,
        (set.patternsFor key).Pairwise (· ≤ ·) ∧
        (∀ number, number ∈ set.patternsFor key ↔
          ∃ block ∈ set.blocks, key ∈ block.keys ∧ block.pattern = number) ∧
        (∀ block ∈ set.blocks,
          (set.patternsFor key).count block.pattern = block.keys.count key) ∧
        ((set.patternsFor key).Pairwise (· < ·) ↔
          ∀ block ∈ set.blocks, block.keys.count key ≤ 1) ∧
        ((∀ block ∈ set.blocks, block.keys.count key ≤ 1) →
          set.patternsFor key =
            (set.blocks.filter fun block => block.hasKey key).map Block.pattern) ∧
        (key ∈ set.keys ↔ set.patternsFor key ≠ [])) ∧
      set.keys.Nodup ∧ set.keys = firsts (set.blocks.flatMap Block.keys) := by
  have numbered := isNumbered_of_ofText compiled
  refine ⟨numbered, fun key => ?_, ?_, keys_eq_firsts set⟩
  · refine ⟨numbered.patternsFor_ordered key, fun number => mem_patternsFor, ?_,
      numbered.patternsFor_increasing_iff key, patternsFor_of_once, mem_keys_iff⟩
    intro block listed
    exact numbered.count_patternsFor key listed
  · rw [keys_eq_firsts]
    exact nodup_firsts _

/-- Two blocks that share a key, with one between them that does not list it. -/
def sharedKey : String :=
  "IF A AND B:\nx is #ANSWER .\n\nIF C:\ny is #ANSWER .\n\nIF B:\n\n"

def sharedKeySet : PatternSet where
  namespaces := {}
  variableTable := { base := Variables.defaultBase }
  patterns := [
    [⟨[.literal "x", .literal "is", .placeholder]⟩],
    [⟨[.literal "y", .literal "is", .placeholder]⟩],
    []]
  blocks := [
    { condition := ⟨["A", "B"], .and⟩, pattern := 0, line := 1 },
    { condition := ⟨["C"], .only⟩, pattern := 1, line := 4 },
    { condition := ⟨["B"], .only⟩, pattern := 2, line := 7 }]

theorem key_index_shared :
    ofText Variables.defaultBase sharedKey = .ok sharedKeySet ∧
      (∀ block ∈ sharedKeySet.blocks, block.keys.count "B" ≤ 1) ∧
      sharedKeySet.patternsFor "B" = [0, 2] ∧
      (sharedKeySet.patternsFor "B").Pairwise (· < ·) ∧
      sharedKeySet.keys = ["A", "B", "C"] := by
  have compiled : ofText Variables.defaultBase sharedKey = .ok sharedKeySet := by
    decide +kernel
  have once : ∀ block ∈ sharedKeySet.blocks, block.keys.count "B" ≤ 1 := by decide
  obtain ⟨-, index, -, keys⟩ := key_index compiled
  obtain ⟨-, -, -, increasing, listing, -⟩ := index "B"
  exact ⟨compiled, once, (listing once).trans (by decide), increasing.mpr once,
    keys.trans (by decide)⟩

/-- A condition that names one key twice. -/
def repeatedKey : String := "IF A AND A:\nx y #ANSWER .\n\n"

/-- The one pattern of the text is listed twice under its key. -/
theorem pattern_listed_twice :
    ∃ set, ofText Variables.defaultBase repeatedKey = .ok set ∧ set.size = 1 ∧
      set.patternsFor "A" = [0, 0] ∧ ¬ (set.patternsFor "A").Pairwise (· < ·) := by
  refine ⟨{
    namespaces := {}
    variableTable := { base := Variables.defaultBase }
    patterns := [[⟨[.literal "x", .literal "y", .placeholder]⟩]]
    blocks := [{ condition := ⟨["A", "A"], .and⟩, pattern := 0, line := 1 }] }, ?_, rfl, ?_, ?_⟩
  · decide +kernel
  · decide
  · decide

end AnswerGraph.PatternSet
