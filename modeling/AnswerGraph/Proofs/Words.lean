import AnswerGraph.Proofs.TextSearch
import AnswerGraph.Text.Blank
import Mathlib.Data.List.Basic
import Mathlib.Data.List.TakeWhile
import Mathlib.Tactic.MkIffOfInductiveProp

/-!
Words with single blanks between them. Reading the words of such a text gives them back, trimming
does not change it, and cutting it at one of its words puts the words before and behind together.
-/

namespace AnswerGraph.Text

/-- No character is blank. -/
def Solid (text : List Char) : Prop := ∀ c ∈ text, isBlank c = false

instance (text : List Char) : Decidable (Solid text) :=
  decidable_of_iff (text.all fun c => !isBlank c) (by simp [Solid])

/-- Some characters, none of them blank. -/
@[mk_iff]
structure IsWord (text : List Char) : Prop where
  nonempty : text ≠ []
  solid : Solid text

instance (text : List Char) : Decidable (IsWord text) := decidable_of_iff' _ (isWord_iff text)

/-- Words with a blank between each two. -/
def spaced (tokens : List (List Char)) : List Char := [' '].intercalate tokens

theorem spaced_singleton (token : List Char) : spaced [token] = token :=
  List.intercalate_singleton

theorem spaced_cons_cons (first second : List Char) (rest : List (List Char)) :
    spaced (first :: second :: rest) = first ++ ' ' :: spaced (second :: rest) := by
  rw [spaced, List.intercalate_cons_cons, List.append_assoc]
  rfl

theorem isBlank_space : isBlank ' ' = true := by decide

theorem IsWord.not_mem_of_blank {word : List Char} (isWord : IsWord word) {c : Char}
    (blank : isBlank c = true) : c ∉ word := fun member =>
  absurd blank (by simp [isWord.solid _ member])

theorem IsWord.blankless {word : List Char} (isWord : IsWord word) : ' ' ∉ word :=
  isWord.not_mem_of_blank isBlank_space

/-- A character of a spaced text is a blank or belongs to one of the words. -/
theorem mem_spaced {tokens : List (List Char)} {c : Char} (member : c ∈ spaced tokens) :
    c = ' ' ∨ ∃ token ∈ tokens, c ∈ token := by
  induction tokens with
  | nil => exact (nomatch member)
  | cons first tokens ih =>
    cases tokens with
    | nil =>
      rw [spaced_singleton] at member
      exact .inr ⟨first, List.mem_cons_self, member⟩
    | cons second tokens =>
      rw [spaced_cons_cons] at member
      rcases List.mem_append.mp member with own | behind
      · exact .inr ⟨first, List.mem_cons_self, own⟩
      · rcases List.mem_cons.mp behind with blank | later
        · exact .inl blank
        · rcases ih later with blank | ⟨token, found, own⟩
          · exact .inl blank
          · exact .inr ⟨token, List.mem_cons_of_mem _ found, own⟩

/-- Words and the blanks between them are on one line. -/
theorem unbroken_spaced {tokens : List (List Char)} (isWord : ∀ token ∈ tokens, IsWord token) :
    '\n' ∉ spaced tokens := by
  intro member
  rcases mem_spaced member with blank | ⟨token, listed, inside⟩
  · exact absurd blank (by decide)
  · exact (isWord token listed).not_mem_of_blank (by decide) inside

/-- A word behind others. -/
theorem spaced_concat {tokens : List (List Char)} (some : tokens ≠ []) (last : List Char) :
    spaced (tokens ++ [last]) = spaced tokens ++ ' ' :: last := by
  induction tokens with
  | nil => exact absurd rfl some
  | cons first tokens ih =>
    cases tokens with
    | nil => rw [spaced_singleton, List.cons_append, List.nil_append, spaced_cons_cons,
        spaced_singleton]
    | cons second tokens =>
      have later := ih (by simp)
      rw [List.cons_append] at later
      rw [List.cons_append, List.cons_append, spaced_cons_cons, later, spaced_cons_cons]
      simp

/-! ## Reading words -/

theorem words_of_blank {c : Char} (blank : isBlank c = true) (rest : List Char) :
    words (c :: rest) = words rest := by
  rw [words.eq_def]
  simp only [blank, if_true]

/-- A character that ends its word. -/
theorem words_of_end {c : Char} (solid : isBlank c = false) {rest : List Char}
    (ends : ∀ next ∈ rest.head?, isBlank next = true) : words (c :: rest) = [c] :: words rest := by
  rw [words.eq_def]
  cases rest with
  | nil =>
    simp only [solid, Bool.false_eq_true, if_false]
    rfl
  | cons next more =>
    simp only [solid, ends next rfl, Bool.false_eq_true, if_false, if_true]

/-- A character with more of its word behind it. -/
theorem words_of_inside {c next : Char} (solid : isBlank c = false)
    (inside : isBlank next = false) (rest : List Char) :
    words (c :: next :: rest) =
      match words (next :: rest) with
      | [] => [[c]]
      | word :: more => (c :: word) :: more := by
  rw [words.eq_def]
  cases found : words (next :: rest) with
  | nil => simp [solid, inside, found]
  | cons word more => simp [solid, inside, found]

/-- A word ends where a blank follows, or the text ends. -/
theorem words_append {word : List Char} (isWord : IsWord word) {rest : List Char}
    (ends : ∀ c ∈ rest.head?, isBlank c = true) : words (word ++ rest) = word :: words rest := by
  obtain ⟨nonempty, solid⟩ := isWord
  induction word with
  | nil => exact absurd rfl nonempty
  | cons c word ih =>
    cases word with
    | nil => exact words_of_end (solid c List.mem_cons_self) ends
    | cons next more =>
      have later := ih (by simp) fun other member => solid other (List.mem_cons_of_mem _ member)
      rw [List.cons_append] at later
      rw [List.cons_append, List.cons_append,
        words_of_inside (solid c List.mem_cons_self) (solid next (by simp)), later]

/-- The words of a spaced text are read back in front of what is behind a blank. -/
theorem words_spaced_append {tokens : List (List Char)} (isWord : ∀ token ∈ tokens, IsWord token)
    {rest : List Char} (ends : ∀ c ∈ rest.head?, isBlank c = true) :
    words (spaced tokens ++ rest) = tokens ++ words rest := by
  induction tokens with
  | nil => rfl
  | cons first tokens ih =>
    have others := ih fun token member => isWord token (List.mem_cons_of_mem _ member)
    cases tokens with
    | nil =>
      rw [spaced_singleton]
      exact words_append (isWord first List.mem_cons_self) ends
    | cons second tokens =>
      rw [spaced_cons_cons, List.append_assoc, List.cons_append,
        words_append (isWord first List.mem_cons_self) (by simp [isBlank_space]),
        words_of_blank isBlank_space, others]
      rfl

theorem words_spaced {tokens : List (List Char)} (isWord : ∀ token ∈ tokens, IsWord token) :
    words (spaced tokens) = tokens := by
  have read : words (spaced tokens ++ []) = tokens ++ words [] :=
    words_spaced_append isWord (by simp)
  rwa [List.append_nil, show words [] = [] from rfl, List.append_nil] at read

/-! ## The end of a text -/

/-- Blanks behind a text are not part of its words. -/
theorem words_append_blanks (text : List Char) {blanks : List Char}
    (blank : ∀ c ∈ blanks, isBlank c = true) : words (text ++ blanks) = words text := by
  induction text with
  | nil =>
    induction blanks with
    | nil => rfl
    | cons c rest ih =>
      rw [List.nil_append, words_of_blank (blank c List.mem_cons_self)]
      exact ih fun other member => blank other (List.mem_cons_of_mem c member)
  | cons c rest ih =>
    rw [List.cons_append]
    cases solid : isBlank c with
    | true => rw [words_of_blank solid, words_of_blank solid, ih]
    | false =>
      cases rest with
      | nil =>
        have ends : ∀ next ∈ blanks.head?, isBlank next = true :=
          fun next member => blank next (List.mem_of_mem_head? member)
        rw [List.nil_append] at ih ⊢
        rw [words_of_end solid ends, words_of_end solid (by simp), ih]
      | cons next more =>
        rw [List.cons_append] at ih ⊢
        cases inside : isBlank next with
        | true =>
          rw [words_of_end solid (by simpa using inside),
            words_of_end solid (by simpa using inside), ih]
        | false => rw [words_of_inside solid inside, words_of_inside solid inside, ih]

theorem words_trimEnd (text : List Char) : words (trimEnd text) = words text := by
  have cut : text = trimEnd text ++ (text.reverse.takeWhile isBlank).reverse := by
    rw [trimEnd, ← List.reverse_append, List.takeWhile_append_dropWhile, List.reverse_reverse]
  have blank : ∀ c ∈ (text.reverse.takeWhile isBlank).reverse, isBlank c = true :=
    fun c member => List.mem_takeWhile_imp (List.mem_reverse.mp member)
  calc words (trimEnd text)
      = words (trimEnd text ++ (text.reverse.takeWhile isBlank).reverse) :=
        (words_append_blanks _ blank).symm
    _ = words text := by rw [← cut]

/-- A character behind a text is a word of its own, or it belongs to the last word. -/
theorem words_concat {c : Char} (solid : isBlank c = false) (text : List Char) :
    words (text ++ [c]) = words text ++ [[c]] ∨
      ∃ init last, words text = init ++ [last] ∧ words (text ++ [c]) = init ++ [last ++ [c]] := by
  have alone : words [c] = [[c]] := words_of_end solid (by simp)
  induction text with
  | nil => exact .inl alone
  | cons first rest ih =>
    rw [List.cons_append]
    cases here : isBlank first with
    | true =>
      rw [words_of_blank here, words_of_blank here]
      exact ih
    | false =>
      cases rest with
      | nil =>
        rw [List.nil_append, words_of_inside here solid, alone, words_of_end here (by simp)]
        exact .inr ⟨[], [first], rfl, rfl⟩
      | cons next more =>
        rw [List.cons_append] at ih ⊢
        cases inside : isBlank next with
        | true =>
          rw [words_of_end here (by simpa using inside), words_of_end here (by simpa using inside)]
          rcases ih with apart | ⟨init, last, whole, joined⟩
          · exact .inl (congrArg ([first] :: ·) apart)
          · exact .inr ⟨[first] :: init, last, congrArg ([first] :: ·) whole,
              congrArg ([first] :: ·) joined⟩
        | false =>
          rw [words_of_inside here inside, words_of_inside here inside]
          -- The first character goes to the front of what the rest is read to.
          rcases ih with apart | ⟨init, last, whole, joined⟩
          · rw [apart]
            cases words (next :: more) with
            | nil => exact .inr ⟨[], [first], rfl, rfl⟩
            | cons word others => exact .inl rfl
          · rw [whole, joined]
            cases init with
            | nil => exact .inr ⟨[], first :: last, rfl, rfl⟩
            | cons word others => exact .inr ⟨(first :: word) :: others, last, rfl, rfl⟩

/-! ## Trimming -/

/-- Neither end of the text is blank. -/
@[mk_iff]
structure Trimmed (text : List Char) : Prop where
  front : ∀ c ∈ text.head?, isBlank c = false
  back : ∀ c ∈ text.getLast?, isBlank c = false

instance (text : List Char) : Decidable (Trimmed text) :=
  decidable_of_iff (text.head?.all (!isBlank ·) ∧ text.getLast?.all (!isBlank ·))
    (by simp [trimmed_iff, Option.all_eq_true])

/-- Nothing is dropped in front of a text that starts with another character. -/
theorem dropWhile_eq_self {drop : Char → Bool} {text : List Char}
    (front : ∀ c ∈ text.head?, drop c = false) : text.dropWhile drop = text := by
  cases text with
  | nil => rfl
  | cons c rest => rw [List.dropWhile_cons_of_neg (by simp [front c rfl])]

theorem dropEndWhile_eq_self {drop : Char → Bool} {text : List Char}
    (back : ∀ c ∈ text.getLast?, drop c = false) : dropEndWhile drop text = text := by
  rw [dropEndWhile, dropWhile_eq_self, List.reverse_reverse]
  rw [List.head?_reverse]
  exact back

theorem trimStart_of_trimmed {text : List Char} (trimmed : Trimmed text) :
    trimStart text = text :=
  dropWhile_eq_self trimmed.front

theorem trimEnd_of_trimmed {text : List Char} (trimmed : Trimmed text) : trimEnd text = text :=
  dropEndWhile_eq_self trimmed.back

theorem trim_of_trimmed {text : List Char} (trimmed : Trimmed text) : trim text = text := by
  rw [trim, trimStart_of_trimmed trimmed, trimEnd_of_trimmed trimmed]

theorem trim_of_blank {c : Char} (blank : isBlank c = true) (rest : List Char) :
    trim (c :: rest) = trim rest := by
  rw [trim, trim, trimStart, trimStart, List.dropWhile_cons_of_pos blank]

theorem head?_trimStart (text : List Char) : ∀ c ∈ (trimStart text).head?, isBlank c = false := by
  intro c first
  have stopped := List.head?_dropWhile_not isBlank text
  rw [← trimStart, Option.mem_def.mp first] at stopped
  simpa using stopped

theorem getLast?_trimEnd (text : List Char) : ∀ c ∈ (trimEnd text).getLast?, isBlank c = false := by
  intro c last
  rw [trimEnd, List.getLast?_reverse] at last
  exact head?_trimStart text.reverse c last

theorem prefix_trimEnd (text : List Char) : trimEnd text <+: text := by
  rw [trimEnd, ← List.reverse_suffix, List.reverse_reverse]
  exact List.dropWhile_suffix isBlank

theorem trimmed_trim (text : List Char) : Trimmed (trim text) where
  front c first := by
    obtain ⟨rest, cut⟩ := prefix_trimEnd (trimStart text)
    apply head?_trimStart text c
    rw [← cut]
    exact List.mem_head?_append_of_mem_head? first
  back := getLast?_trimEnd (trimStart text)

theorem mem_of_mem_trim {c : Char} {text : List Char} (member : c ∈ trim text) : c ∈ text :=
  (List.dropWhile_suffix isBlank).subset ((prefix_trimEnd (trimStart text)).subset member)

/-- Nothing is left of a text exactly if all of it is blank. -/
theorem trim_eq_nil_iff {text : List Char} :
    trim text = [] ↔ ∀ c ∈ text, isBlank c = true := by
  constructor
  · intro nothing
    have blank : ∀ c ∈ trimStart text, isBlank c = true := by
      simpa [trim, trimEnd, List.dropWhile_eq_nil_iff] using nothing
    cases left : trimStart text with
    | nil => exact List.dropWhile_eq_nil_iff.mp left
    | cons c rest =>
      have solid := head?_trimStart text c (by rw [left]; rfl)
      rw [blank c (by rw [left]; exact List.mem_cons_self)] at solid
      cases solid
  · intro blank
    rw [trim, trimStart, List.dropWhile_eq_nil_iff.mpr blank]
    rfl

theorem trim_ne_nil {text : List Char} {c : Char} (inside : c ∈ text) (solid : isBlank c = false) :
    trim text ≠ [] := by
  rw [ne_eq, trim_eq_nil_iff]
  intro blank
  rw [blank c inside] at solid
  cases solid

theorem IsWord.trimmed {word : List Char} (isWord : IsWord word) : Trimmed word where
  front c member := isWord.solid c (List.mem_of_mem_head? member)
  back c member := isWord.solid c (List.mem_of_mem_getLast? member)

theorem spaced_ne_nil {first : List Char} (nonempty : first ≠ []) (rest : List (List Char)) :
    spaced (first :: rest) ≠ [] := by
  cases rest with
  | nil => rwa [spaced_singleton]
  | cons second rest => simp [spaced_cons_cons]

theorem trimmed_spaced {tokens : List (List Char)} (isWord : ∀ token ∈ tokens, IsWord token) :
    Trimmed (spaced tokens) := by
  induction tokens with
  | nil => exact ⟨fun _ member => (nomatch member), fun _ member => (nomatch member)⟩
  | cons first tokens ih =>
    have others := ih fun token member => isWord token (List.mem_cons_of_mem _ member)
    have own := isWord first List.mem_cons_self
    cases tokens with
    | nil =>
      rw [spaced_singleton]
      exact own.trimmed
    | cons second tokens =>
      have second' := isWord second (by simp)
      rw [spaced_cons_cons]
      refine ⟨fun c member => ?_, fun c member => ?_⟩
      · rw [List.head?_append_of_ne_nil _ own.nonempty] at member
        exact own.trimmed.front c member
      · rw [List.getLast?_append_of_ne_nil _ (by simp), List.getLast?_cons_of_ne_nil
          (spaced_ne_nil second'.nonempty tokens)] at member
        exact others.back c member

/-! ## Cutting at a word -/

/-- A word with a blank on each side. -/
def padded (word : List Char) : List Char := ' ' :: (word ++ [' '])

theorem padded_ne_nil (word : List Char) : padded word ≠ [] := List.cons_ne_nil _ _

theorem head?_padded_ne (word : List Char) {c : Char} (solid : isBlank c = false) :
    (padded word).head? ≠ some c := by
  intro first
  cases first
  cases solid

theorem getLast?_padded_ne (word : List Char) {c : Char} (solid : isBlank c = false) :
    (padded word).getLast? ≠ some c := by
  intro last
  rw [padded, ← List.cons_append, List.getLast?_concat] at last
  cases last
  cases solid

/-- The first word of a spaced text is what stands before its first blank. -/
theorem eq_of_spaced_eq {word first : List Char} (isWord : IsWord word)
    {rest : List (List Char)} (others : ∀ token ∈ first :: rest, IsWord token) {after : List Char}
    (same : spaced (first :: rest) = word ++ ' ' :: after) : first = word := by
  have read := words_spaced others
  rw [same, words_append isWord (by simp [isBlank_space])] at read
  exact (List.cons.inj read).1.symm

/-- A word that is none of the tokens is not found between blanks. -/
theorem cutAt?_spaced_of_not_mem {word : List Char} (isWord : IsWord word)
    {tokens : List (List Char)} (others : ∀ token ∈ tokens, IsWord token)
    (missing : word ∉ tokens) : cutAt? (padded word) (spaced tokens) = none := by
  induction tokens with
  | nil => rfl
  | cons first tokens ih =>
    have rest := ih (fun token member => others token (List.mem_cons_of_mem _ member))
      fun member => missing (List.mem_cons_of_mem _ member)
    have blankless := (others first List.mem_cons_self).blankless
    cases tokens with
    | nil =>
      have cut := cutAt?_append blankless (word ++ [' ']) []
      rw [List.append_nil] at cut
      rw [spaced_singleton, padded, cut]
      rfl
    | cons second tokens =>
      have absent : dropPrefix? (padded word) (' ' :: spaced (second :: tokens)) = none := by
        rw [dropPrefix?_eq_none]
        intro after same
        have texts : spaced (second :: tokens) = word ++ ' ' :: after := by
          simpa [padded] using same
        have found := eq_of_spaced_eq isWord
          (fun token member => others token (List.mem_cons_of_mem _ member)) texts
        exact missing (by simp [found])
      rw [spaced_cons_cons, padded, cutAt?_append blankless, ← padded, cutAt?, absent, rest]
      rfl

theorem contains_spaced_eq_false {word : List Char} (isWord : IsWord word)
    {tokens : List (List Char)} (others : ∀ token ∈ tokens, IsWord token)
    (missing : word ∉ tokens) : contains (padded word) (spaced tokens) = false := by
  rw [contains, cutAt?_spaced_of_not_mem isWord others missing]
  rfl

/-- The first cut of words with a separator between each two. -/
theorem spaced_intersperse (word first second : List Char) (keys : List (List Char)) :
    spaced ((first :: second :: keys).intersperse word) =
      first ++ (padded word ++ spaced ((second :: keys).intersperse word)) := by
  obtain ⟨more, begins⟩ : ∃ more, (second :: keys).intersperse word = second :: more := by
    cases keys with
    | nil => exact ⟨[], rfl⟩
    | cons third keys => exact ⟨_, rfl⟩
  rw [List.intersperse_cons_cons, begins, spaced_cons_cons, spaced_cons_cons, padded]
  simp

/-- A member of a list with separators is a separator or was there before. -/
theorem mem_of_mem_intersperse {α : Type} {separator x : α} {members : List α}
    (member : x ∈ members.intersperse separator) : x = separator ∨ x ∈ members := by
  induction members with
  | nil => exact .inr member
  | cons first rest ih =>
    cases rest with
    | nil => exact .inr member
    | cons second rest =>
      rw [List.intersperse_cons_cons] at member
      rcases List.mem_cons.mp member with rfl | member
      · exact .inr List.mem_cons_self
      · rcases List.mem_cons.mp member with rfl | member
        · exact .inl rfl
        · exact (ih member).imp_right (List.mem_cons_of_mem first)

theorem cutAt?_padded {word first : List Char} (blankless : ' ' ∉ first) (after : List Char) :
    cutAt? (padded word) (first ++ (padded word ++ after)) = some (first, after) := by
  have here : cutAt? (padded word) (padded word ++ after) = some ([], after) :=
    cutAt?_of_startsWith (by simp [padded])
  rw [padded] at here ⊢
  rw [cutAt?_append blankless, here]
  simp

/-- Words that are not the separator are what a text is cut into at every separator. -/
theorem splitOn_spaced {word : List Char} (isWord : IsWord word) {keys : List (List Char)}
    (some : keys ≠ []) (others : ∀ key ∈ keys, IsWord key) (missing : word ∉ keys) :
    splitOn (padded word) (spaced (keys.intersperse word)) = keys := by
  have nonempty := padded_ne_nil word
  induction keys with
  | nil => exact absurd rfl some
  | cons first keys ih =>
    cases keys with
    | nil =>
      have whole := cutAt?_spaced_of_not_mem isWord others missing
      exact (splitOn_of_cutAt?_none nonempty whole).trans (by rw [spaced_singleton])
    | cons second keys =>
      have blankless := (others first List.mem_cons_self).blankless
      have rest := ih (by simp) (fun key member => others key (List.mem_cons_of_mem _ member))
        fun member => missing (List.mem_cons_of_mem _ member)
      rw [spaced_intersperse, splitOn_of_cutAt?_some nonempty (cutAt?_padded blankless _), rest]

end AnswerGraph.Text
