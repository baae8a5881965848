import AnswerGraph.Text.Search
import Mathlib.Data.List.Basic

/-!
What the searches of a text find: a word at its start, and the first of some character.
-/

namespace AnswerGraph.Text

/-- What is to be true of all characters of a text can be checked one by one. -/
theorem forall_of_all {P : Char → Prop} [DecidablePred P] {text : List Char}
    (all : text.all (fun c => decide (P c)) = true) : ∀ c ∈ text, P c := by
  intro c member
  exact of_decide_eq_true (List.all_eq_true.mp all c member)

theorem cutAtChar?_eq_some {mark : Char} {front : List Char} (unmarked : mark ∉ front)
    (rest : List Char) : cutAtChar? mark (front ++ mark :: rest) = some (front, rest) := by
  induction front with
  | nil => simp [cutAtChar?]
  | cons c front ih =>
    obtain ⟨apart, others⟩ := not_or.mp (fun found => unmarked (List.mem_cons.mpr found))
    simp [cutAtChar?, Ne.symm apart, ih others]

theorem cutAtChar?_eq_none {mark : Char} {text : List Char} (unmarked : mark ∉ text) :
    cutAtChar? mark text = none := by
  induction text with
  | nil => rfl
  | cons c rest ih =>
    obtain ⟨apart, others⟩ := not_or.mp (fun found => unmarked (List.mem_cons.mpr found))
    simp [cutAtChar?, Ne.symm apart, ih others]

theorem dropPrefix?_eq_some {word text rest : List Char} :
    dropPrefix? word text = some rest ↔ text = word ++ rest := by
  induction word generalizing text with
  | nil => simp [dropPrefix?]
  | cons w word ih =>
    cases text with
    | nil => simp [dropPrefix?]
    | cons c text =>
      by_cases same : w = c
      · simp [dropPrefix?, same, ih]
      · simp [dropPrefix?, same, Ne.symm same]

theorem startsWith_iff {text word : List Char} : startsWith text word = true ↔ word <+: text := by
  simp only [startsWith, Option.isSome_iff_exists, dropPrefix?_eq_some]
  exact exists_congr fun rest => eq_comm

theorem dropPrefix?_eq_none {word text : List Char} :
    dropPrefix? word text = none ↔ ∀ rest, text ≠ word ++ rest := by
  simp only [Option.eq_none_iff_forall_ne_some, ne_eq, dropPrefix?_eq_some]

theorem dropSuffix?_append (front word : List Char) :
    dropSuffix? word (front ++ word) = some front := by
  have found : dropPrefix? word.reverse (front ++ word).reverse = some front.reverse :=
    dropPrefix?_eq_some.mpr List.reverse_append
  rw [dropSuffix?, found, Option.map_some, List.reverse_reverse]

theorem dropSuffix?_eq_some {word text front : List Char} :
    dropSuffix? word text = some front ↔ text = front ++ word := by
  constructor
  · intro found
    obtain ⟨rest, cut, rfl⟩ := Option.map_eq_some_iff.mp found
    have turned := congrArg List.reverse (dropPrefix?_eq_some.mp cut)
    rwa [List.reverse_reverse, List.reverse_append, List.reverse_reverse] at turned
  · rintro rfl
    exact dropSuffix?_append front word

theorem suffix_afterLast (mark : Char → Bool) (text : List Char) :
    afterLast mark text <:+ text := by
  have front := List.reverse_suffix.mpr
    (List.takeWhile_prefix (fun c => !mark c) (l := text.reverse))
  rwa [List.reverse_reverse] at front

/-- What is behind the last mark has no mark itself, and is preceded by one unless there is none. -/
theorem exists_of_afterLast (mark : Char) (text : List Char) :
    ∃ front, text = front ++ afterLast (· == mark) text ∧ mark ∉ afterLast (· == mark) text ∧
      (front = [] ∨ front.getLast? = some mark) := by
  refine ⟨(text.reverse.dropWhile fun c => !(c == mark)).reverse, ?_, ?_, ?_⟩
  · rw [afterLast, ← List.reverse_append, List.takeWhile_append_dropWhile, List.reverse_reverse]
  · intro member
    have unmarked := List.all_eq_true.mp (List.all_takeWhile (l := text.reverse)) mark
      (List.mem_reverse.mp member)
    simp at unmarked
  · rw [List.getLast?_reverse]
    cases split : text.reverse.dropWhile fun c => !(c == mark) with
    | nil => exact .inl rfl
    | cons c rest =>
      have first := List.head?_dropWhile_not (fun c => !(c == mark)) text.reverse
      rw [split] at first
      simp only [List.head?_cons, Bool.not_eq_false', beq_iff_eq] at first
      exact .inr (congrArg some first)

/-! ## Cutting at a word -/

theorem cutAt?_of_startsWith {word rest : List Char} (nonempty : word ≠ []) :
    cutAt? word (word ++ rest) = some ([], rest) := by
  obtain ⟨mark, more, rfl⟩ := List.exists_cons_of_ne_nil nonempty
  have found := dropPrefix?_eq_some.mpr (rfl : mark :: more ++ rest = mark :: more ++ rest)
  rw [List.cons_append] at found ⊢
  simp only [cutAt?, found]

/-- A word is not found before its first character. -/
theorem cutAt?_append {mark : Char} {front : List Char} (unmarked : mark ∉ front)
    (more text : List Char) :
    cutAt? (mark :: more) (front ++ text) =
      (cutAt? (mark :: more) text).map fun (before, after) => (front ++ before, after) := by
  induction front with
  | nil => simp
  | cons c front ih =>
    obtain ⟨apart, others⟩ := not_or.mp fun found => unmarked (List.mem_cons.mpr found)
    rw [List.cons_append, cutAt?, dropPrefix?, if_neg apart, ih others]
    cases cutAt? (mark :: more) text <;> rfl

theorem append_of_cutAt? {word text before after : List Char}
    (cut : cutAt? word text = some (before, after)) : text = before ++ word ++ after := by
  induction text generalizing before with
  | nil =>
    obtain ⟨rest, found, same⟩ := Option.map_eq_some_iff.mp cut
    cases same
    exact dropPrefix?_eq_some.mp found
  | cons c rest ih =>
    rw [cutAt?] at cut
    split at cut
    · next found =>
      cases cut
      exact dropPrefix?_eq_some.mp found
    · obtain ⟨⟨inner, behind⟩, found, same⟩ := Option.map_eq_some_iff.mp cut
      cases same
      rw [ih found]
      rfl

theorem contains_of_dropPrefix? {word text rest : List Char}
    (here : dropPrefix? word text = some rest) : contains word text = true := by
  cases text with
  | nil => simp [contains, cutAt?, here]
  | cons c text => simp [contains, cutAt?, here]

/-- A word is found exactly if it stands somewhere in the text. -/
theorem contains_iff {word text : List Char} : contains word text = true ↔ word <:+: text := by
  constructor
  · intro found
    obtain ⟨⟨before, after⟩, cut⟩ := Option.isSome_iff_exists.mp found
    exact ⟨before, after, (append_of_cutAt? cut).symm⟩
  · rintro ⟨before, after, rfl⟩
    induction before with
    | nil => exact contains_of_dropPrefix? (dropPrefix?_eq_some.mpr rfl)
    | cons c before ih =>
      simp only [List.cons_append, contains, cutAt?] at ih ⊢
      split
      · rfl
      · rw [Option.isSome_map, ih]

/-- A text without one of its characters does not have a word. -/
theorem contains_eq_false {mark : Char} {word text : List Char} (inside : mark ∈ word)
    (absent : mark ∉ text) : contains word text = false := by
  cases cut : cutAt? word text with
  | none => rw [contains, cut, Option.isSome_none]
  | some parts =>
    apply absurd _ absent
    rw [append_of_cutAt? cut]
    exact List.mem_append_left _ (List.mem_append_right _ inside)

theorem splitOn_of_cutAt?_none {word text : List Char} (nonempty : word ≠ [])
    (whole : cutAt? word text = none) : splitOn word text = [text] := by
  rw [splitOn, dif_neg nonempty]
  split
  · rfl
  · next found =>
    rw [whole] at found
    cases found

theorem splitOn_of_cutAt?_some {word text before after : List Char} (nonempty : word ≠ [])
    (cut : cutAt? word text = some (before, after)) :
    splitOn word text = before :: splitOn word after := by
  rw [splitOn, dif_neg nonempty]
  split
  · next found =>
    rw [cut] at found
    cases found
  · next found =>
    rw [cut] at found
    cases found
    rfl

theorem infix_of_mem_splitOn {word text part : List Char} (member : part ∈ splitOn word text) :
    part <:+: text := by
  fun_induction splitOn word text with
  | case1 text empty =>
    obtain rfl := List.mem_singleton.mp member
    exact List.infix_refl part
  | case2 text nonempty whole =>
    obtain rfl := List.mem_singleton.mp member
    exact List.infix_refl part
  | case3 text nonempty before after cut _ ih =>
    have joined := append_of_cutAt? cut
    rcases List.mem_cons.mp member with rfl | later
    · exact ⟨[], word ++ after, by simp [joined]⟩
    · exact (ih later).trans ⟨before ++ word, [], by simp [joined]⟩

/-- What is before a cut has the first character of the text, unless the word starts with it. -/
theorem mem_before_of_cutAt? {word text before after : List Char} (nonempty : word ≠ [])
    (cut : cutAt? word text = some (before, after)) {c : Char} (first : text.head? = some c)
    (other : word.head? ≠ some c) : c ∈ before := by
  rw [append_of_cutAt? cut] at first
  cases before with
  | nil =>
    rw [List.nil_append, List.head?_append_of_ne_nil _ nonempty] at first
    exact absurd first other
  | cons b before =>
    cases first
    exact List.mem_cons_self

/-- What is behind a cut ends as the text does, unless the word ends in this way. -/
theorem getLast?_after_of_cutAt? {word text before after : List Char} (nonempty : word ≠ [])
    (cut : cutAt? word text = some (before, after)) {c : Char} (last : text.getLast? = some c)
    (other : word.getLast? ≠ some c) : after.getLast? = some c := by
  rw [append_of_cutAt? cut, List.getLast?_append] at last
  cases behind : after.getLast? with
  | some b => rwa [behind, Option.some_or] at last
  | none =>
    rw [behind, Option.none_or, List.getLast?_append_of_ne_nil _ nonempty] at last
    exact absurd last other

/-- The last character of a text is in one of its parts, unless the word ends in it. -/
theorem exists_mem_splitOn {word text : List Char} {c : Char} (last : text.getLast? = some c)
    (other : word.getLast? ≠ some c) : ∃ part ∈ splitOn word text, c ∈ part := by
  fun_induction splitOn word text with
  | case1 text empty => exact ⟨text, List.mem_cons_self, List.mem_of_getLast? last⟩
  | case2 text nonempty whole => exact ⟨text, List.mem_cons_self, List.mem_of_getLast? last⟩
  | case3 text nonempty before after cut _ ih =>
    obtain ⟨part, listed, inside⟩ := ih (getLast?_after_of_cutAt? nonempty cut last other)
    exact ⟨part, List.mem_cons_of_mem before listed, inside⟩

end AnswerGraph.Text
