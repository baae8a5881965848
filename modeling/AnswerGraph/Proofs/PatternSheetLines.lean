import AnswerGraph.Proofs.Firsts
import AnswerGraph.Proofs.PatternSheet
import Mathlib.Data.List.TakeWhile

/-!
The lines of a sheet are read as what they were written for. A line of components has their tokens,
and each token is taken for the kind of component that it belongs to; a condition opens a block with
its own keys, and no other line does; a declaration has its prefix and its root.
-/

namespace AnswerGraph

/-! ## Tokens -/

namespace SheetComponent

variable {declared : List String} {component : SheetComponent}

theorem isWord_named {name : String} (isWord : Text.IsWord name.toList) :
    Text.IsWord (named name).token where
  nonempty := by simp [token]
  solid := by
    intro c member
    simp only [token, List.cons_append, List.mem_cons, List.mem_append, List.not_mem_nil,
      or_false] at member
    rcases member with rfl | inside | rfl
    · decide
    · exact isWord.solid c inside
    · decide

theorem isWord_prefixed {namePrefix name : String} (isWord : Text.IsWord namePrefix.toList)
    (solid : Text.Solid name.toList) :
    Text.IsWord (prefixed namePrefix name).token where
  nonempty := by simp [token]
  solid := by
    intro c member
    rcases List.mem_append.mp member with inside | behind
    · exact isWord.solid c inside
    · rcases List.mem_cons.mp behind with rfl | inside
      · decide
      · exact solid c inside

variable (prefixes : ∀ namePrefix ∈ declared, WritablePrefix namePrefix)

include prefixes

theorem isWord_token (writable : component.Writable declared) : Text.IsWord component.token := by
  cases component with
  | named name => exact isWord_named writable.1
  | prefixed namePrefix name =>
    exact isWord_prefixed (prefixes namePrefix writable.1).word writable.2
  | answer => decide
  | literal value => exact writable.1

/-- Only a variable starts with a bracket. -/
theorem head?_token_ne (writable : component.Writable declared)
    (other : component.variable? = none) :
    component.token.head? ≠ some '<' := by
  cases component with
  | named name => cases other
  | prefixed namePrefix name =>
    obtain ⟨word, unmarked, -⟩ := prefixes namePrefix writable.1
    intro begins
    rw [token, List.head?_append_of_ne_nil _ word.nonempty] at begins
    exact unmarked.2.1 (List.mem_of_mem_head? begins)
  | answer => decide
  | literal value => exact writable.2.2.1

theorem startsWith_token (writable : component.Writable declared)
    (other : component.variable? = none) :
    Text.startsWith component.token ['<'] = false := by
  rw [Bool.eq_false_iff, ne_eq, Text.startsWith_iff]
  rintro ⟨rest, begins⟩
  apply head?_token_ne prefixes writable other
  rw [← begins]
  rfl

/-- The reader takes exactly the variables for variables, with their names. -/
theorem variableName?_token (writable : component.Writable declared) :
    variableName? component.token = component.variable?.map String.toList := by
  cases kind : component.variable? with
  | none =>
    have missing : Text.dropPrefix? ['<'] component.token = none := by
      simpa [Text.startsWith] using startsWith_token prefixes writable kind
    rw [variableName?, missing]
    rfl
  | some name =>
    obtain rfl : component = named name := by
      cases component <;> cases kind
      rfl
    obtain ⟨isWord, undotted⟩ := writable
    have opened : Text.dropPrefix? ['<'] (named name).token = some (name.toList ++ ['>']) := by
      rw [Text.dropPrefix?_eq_some]
      rfl
    have closed : Text.dropEndWhile (· == '.') (name.toList ++ ['>']) = name.toList ++ ['>'] :=
      Text.dropEndWhile_eq_self (by simp)
    have ended : Text.dropEndWhile (· == '.') name.toList = name.toList := by
      apply Text.dropEndWhile_eq_self
      intro c last
      rw [beq_eq_false_iff_ne]
      rintro rfl
      exact undotted last
    have named : name.toList.isEmpty = false := by simpa using isWord.nonempty
    rw [variableName?, opened]
    simp only [Option.bind_eq_bind, Option.bind_some, closed, Text.dropSuffix?_append, ended,
      named]
    rfl

/-! ## Lines of components -/

variable {line : List SheetComponent}

theorem isWord_written (writable : ∀ component ∈ line, component.Writable declared) :
    ∀ word ∈ line.map token ++ [['.']], Text.IsWord word := by
  intro word member
  rcases List.mem_append.mp member with inside | last
  · obtain ⟨component, used, rfl⟩ := List.mem_map.mp inside
    exact isWord_token prefixes (writable component used)
  · obtain rfl := List.mem_singleton.mp last
    decide

/-- The words of a line are its tokens and the dot. -/
theorem words_writeLine (writable : ∀ component ∈ line, component.Writable declared) :
    Text.words (writeLine line) = line.map token ++ [['.']] :=
  Text.words_spaced (isWord_written prefixes writable)

/-- The dot is not a token. -/
theorem tokens_writeLine (writable : ∀ component ∈ line, component.Writable declared)
    (filled : line ≠ []) :
    StatementPattern.tokens (writeLine line) = line.map token := by
  have isWord := isWord_written prefixes writable
  have body : writeLine line = (Text.spaced (line.map token) ++ [' ']) ++ ['.'] := by
    rw [writeLine, Text.spaced_concat (by simpa using filled)]
    simp
  have kept : Text.trimEnd (writeLine line) = writeLine line :=
    Text.trimEnd_of_trimmed (Text.trimmed_spaced isWord)
  have read : Text.words (Text.spaced (line.map token) ++ [' ']) = line.map token ++ [] :=
    Text.words_spaced_append (fun word member => isWord word (List.mem_append_left _ member))
      (by simp [Text.isBlank_space])
  rw [List.append_nil] at read
  simp only [StatementPattern.tokens, kept]
  rw [body, Text.dropSuffix?_append, Option.getD_some, read]

end SheetComponent

/-! ## Conditions -/

namespace Joining

theorem isWord_word {joining : Joining} (joined : joining ≠ .only) : Text.IsWord joining.word := by
  cases joining with
  | only => exact absurd rfl joined
  | and => decide
  | or => decide

theorem unmarked_word (joining : Joining) : ':' ∉ joining.word := by
  cases joining <;> decide

end Joining

namespace Condition

theorem opens_append_eq_true (rest : List Char) : opens ("IF".toList ++ ' ' :: rest) = true := by
  have found : Text.dropPrefix? "IF".toList ("IF".toList ++ ' ' :: rest) = some (' ' :: rest) :=
    Text.dropPrefix?_eq_some.mpr rfl
  simp only [opens, found, Text.isBlank_space, Bool.true_or]

/-- Another first word does not open a block, whether a blank or a colon ends it. -/
theorem opens_append_eq_false {word rest : List Char} (isWord : Text.IsWord word)
    (unmarked : ':' ∉ word) (other : word ≠ "IF".toList)
    (ends : ∀ c ∈ rest.head?, c = ' ' ∨ c = ':') : opens (word ++ rest) = false := by
  unfold opens
  cases found : Text.dropPrefix? "IF".toList (word ++ rest) with
  | none => rfl
  | some after =>
    rcases List.append_eq_append_iff.mp (Text.dropPrefix?_eq_some.mp found) with
      ⟨missing, keyword, split⟩ | ⟨more, longer, split⟩
    · cases missing with
      | nil => exact absurd (by simpa using keyword.symm) other
      | cons c missing =>
        have inside : c ∈ "IF".toList := by simp [keyword]
        rcases ends c (by simp [split]) with rfl | rfl <;> exact absurd inside (by decide)
    · cases more with
      | nil => exact absurd (by simpa using longer) other
      | cons c more =>
        have inside : c ∈ word := by simp [longer]
        have colonless : c ≠ ':' := fun same => unmarked (same ▸ inside)
        simp [split, isWord.solid c inside, colonless]

variable {condition : Condition}

/-- The keys with the word between them. -/
def joinedKeys (condition : Condition) : List (List Char) :=
  (condition.keys.map String.toList).intersperse condition.joining.word

/-- The keys are words, none of which is a word between keys. -/
theorem Writable.key (writable : condition.Writable) :
    ∀ key ∈ condition.keys.map String.toList,
      Text.IsWord key ∧ ':' ∉ key ∧ key ≠ "AND".toList ∧ key ≠ "OR".toList := by
  intro text member
  obtain ⟨key, listed, rfl⟩ := List.mem_map.mp member
  obtain ⟨notAnd, notOr⟩ := writable.apart key listed
  exact ⟨writable.word key listed, writable.unmarked key listed,
    fun same => notAnd (String.toList_inj.mp same), fun same => notOr (String.toList_inj.mp same)⟩

/-- With several keys, there is a word between them. -/
theorem Writable.exists_keys (writable : condition.Writable) (joined : condition.joining ≠ .only) :
    ∃ first second rest, condition.keys.map String.toList = first :: second :: rest := by
  obtain ⟨keyed, joining, -⟩ := writable
  match keys : condition.keys with
  | [] => exact absurd keys keyed
  | [key] => exact absurd (joining.mpr (by rw [keys]; rfl)) joined
  | first :: second :: rest => exact ⟨_, _, _, rfl⟩

theorem Writable.joinedKeys_only (writable : condition.Writable)
    (joined : condition.joining = .only) :
    condition.joinedKeys = condition.keys.map String.toList := by
  obtain ⟨key, keys⟩ := List.length_eq_one_iff.mp (writable.joined.mp joined)
  rw [joinedKeys, keys]
  rfl

theorem Writable.joinedKeys_words (writable : condition.Writable) :
    ∀ word ∈ condition.joinedKeys, Text.IsWord word ∧ ':' ∉ word := by
  have keys : ∀ word ∈ condition.keys.map String.toList, Text.IsWord word ∧ ':' ∉ word := by
    intro word listed
    obtain ⟨isWord, unmarked, -⟩ := writable.key word listed
    exact ⟨isWord, unmarked⟩
  intro word member
  by_cases joined : condition.joining = .only
  · rw [writable.joinedKeys_only joined] at member
    exact keys word member
  · rcases Text.mem_of_mem_intersperse member with rfl | listed
    · exact ⟨Joining.isWord_word joined, Joining.unmarked_word _⟩
    · exact keys word listed

theorem Writable.joinedKeys_ne_nil (writable : condition.Writable) : condition.joinedKeys ≠ [] := by
  intro empty
  have keyless : condition.keys.map String.toList = [] := by
    cases keys : condition.keys.map String.toList with
    | nil => rfl
    | cons first rest =>
      rw [joinedKeys, keys] at empty
      cases rest <;> cases empty
  exact writable.keyed (List.map_eq_nil_iff.mp keyless)

/-- The written condition, behind its keyword. -/
theorem Writable.write_eq (writable : condition.Writable) :
    condition.write = "IF".toList ++ ' ' :: (Text.spaced condition.joinedKeys ++ [':']) := by
  obtain ⟨first, rest, keys⟩ := List.exists_cons_of_ne_nil writable.joinedKeys_ne_nil
  rw [write, ← joinedKeys, keys, Text.spaced_cons_cons, List.append_assoc, List.cons_append]

theorem Writable.opens_write (writable : condition.Writable) : opens condition.write = true := by
  rw [writable.write_eq]
  exact opens_append_eq_true _

theorem Writable.expression_write (writable : condition.Writable) :
    expression condition.write = Text.spaced condition.joinedKeys := by
  have isWord := fun word member => (writable.joinedKeys_words word member).1
  have found : Text.dropPrefix? "IF".toList condition.write =
      some (' ' :: (Text.spaced condition.joinedKeys ++ [':'])) := by
    rw [Text.dropPrefix?_eq_some, writable.write_eq]
  have unmarked : ∀ c ∈ Text.spaced condition.joinedKeys, (c != ':') = true := by
    intro c member
    rw [bne_iff_ne]
    rintro rfl
    rcases Text.mem_spaced member with blank | ⟨word, listed, inside⟩
    · exact absurd blank (by decide)
    · exact (writable.joinedKeys_words word listed).2 inside
  have marks : (' ' :: (Text.spaced condition.joinedKeys ++ [':'])).filter (· != ':') =
      ' ' :: Text.spaced condition.joinedKeys := by
    rw [List.filter_cons_of_pos (by decide), List.filter_append,
      List.filter_eq_self.mpr unmarked]
    simp
  rw [expression, found, Option.getD_some, marks, Text.trim_of_blank Text.isBlank_space,
    Text.trim_of_trimmed (Text.trimmed_spaced isWord)]

/-- Several keys are found again between the words that join them. -/
theorem Writable.split_at_word (writable : condition.Writable)
    (joined : condition.joining ≠ .only)
    (apart : condition.joining.word ∉ condition.keys.map String.toList) :
    Text.contains (Text.padded condition.joining.word) (Text.spaced condition.joinedKeys) = true ∧
      Text.splitOn (Text.padded condition.joining.word) (Text.spaced condition.joinedKeys) =
        condition.keys.map String.toList := by
  have keyWord := fun key member => (writable.key key member).1
  obtain ⟨first, second, rest, keys⟩ := writable.exists_keys joined
  constructor
  · have blankless := (keyWord first (by simp [keys])).blankless
    rw [Text.contains, joinedKeys, keys, Text.spaced_intersperse, Text.cutAt?_padded blankless]
    rfl
  · exact Text.splitOn_spaced (Joining.isWord_word joined) (by simp [keys]) keyWord apart

/-- The cases are those of the reader: it looks for the one word, and only then for the other. -/
theorem Writable.split_joinedKeys (writable : condition.Writable) :
    split (Text.spaced condition.joinedKeys) =
      (condition.keys.map String.toList, condition.joining) := by
  have isWord := fun word member => (writable.joinedKeys_words word member).1
  have noAnd : Joining.and.word ∉ condition.keys.map String.toList := fun member =>
    (writable.key _ member).2.2.1 rfl
  have noOr : Joining.or.word ∉ condition.keys.map String.toList := fun member =>
    (writable.key _ member).2.2.2 rfl
  unfold split
  rw [show " AND ".toList = Text.padded Joining.and.word from rfl,
    show " OR ".toList = Text.padded Joining.or.word from rfl]
  cases joined : condition.joining with
  | only =>
    have keys := writable.joinedKeys_only joined
    obtain ⟨key, single⟩ := List.length_eq_one_iff.mp (writable.joined.mp joined)
    rw [Text.contains_spaced_eq_false (Joining.isWord_word (by decide)) isWord (keys ▸ noAnd),
      Text.contains_spaced_eq_false (Joining.isWord_word (by decide)) isWord (keys ▸ noOr), keys,
      single]
    simp [Text.spaced_singleton]
  | and =>
    obtain ⟨found, cut⟩ := writable.split_at_word (by simp [joined]) (joined ▸ noAnd)
    rw [joined] at found cut
    rw [found, cut]
    rfl
  | or =>
    have unjoined : Joining.and.word ∉ condition.joinedKeys := by
      intro member
      rcases Text.mem_of_mem_intersperse member with same | listed
      · rw [joined] at same
        exact absurd same (by decide)
      · exact noAnd listed
    obtain ⟨found, cut⟩ := writable.split_at_word (by simp [joined]) (joined ▸ noOr)
    rw [joined] at found cut
    rw [Text.contains_spaced_eq_false (Joining.isWord_word (by decide)) isWord unjoined, found, cut]
    rfl

theorem Writable.ofLine_write (writable : condition.Writable) :
    ofLine condition.write = condition := by
  have trimmed : (condition.keys.map String.toList).map Text.trim =
      condition.keys.map String.toList := by
    calc _ = (condition.keys.map String.toList).map id := List.map_congr_left fun key member =>
            Text.trim_of_trimmed (writable.key key member).1.trimmed
      _ = _ := List.map_id _
  have filled : (condition.keys.map String.toList).filter (!·.isEmpty) =
      condition.keys.map String.toList := by
    rw [List.filter_eq_self]
    intro key member
    simpa using (writable.key key member).1.nonempty
  have read : (condition.keys.map String.toList).map String.ofList = condition.keys := by
    simp [Function.comp_def]
  simp only [ofLine, writable.expression_write, writable.split_joinedKeys, trimmed, filled, read]

end Condition

/-! ## Lines that open no block -/

namespace SheetComponent

variable {declared : List String} {line : List SheetComponent}

theorem opens_writeLine (prefixes : ∀ namePrefix ∈ declared, WritablePrefix namePrefix)
    (writable : ∀ component ∈ line, component.Writable declared) (filled : line ≠ [])
    (keyless : line.head? ≠ some (.literal "IF")) : Condition.opens (writeLine line) = false := by
  obtain ⟨first, rest, rfl⟩ := List.exists_cons_of_ne_nil filled
  obtain ⟨behind, written⟩ :
      ∃ behind, writeLine (first :: rest) = first.token ++ ' ' :: behind := by
    cases rest with
    | nil => exact ⟨['.'], Text.spaced_cons_cons _ _ []⟩
    | cons second rest => exact ⟨_, Text.spaced_cons_cons _ _ _⟩
  have own := writable first List.mem_cons_self
  rw [written]
  cases first with
  | named name => rfl
  | prefixed namePrefix name =>
    obtain ⟨word, unmarked, other⟩ := prefixes namePrefix own.1
    rw [token, List.append_assoc]
    apply Condition.opens_append_eq_false word unmarked.1
    · exact fun same => other (String.toList_inj.mp same)
    · simp
  | answer => rfl
  | literal value =>
    obtain ⟨word, unmarked, -⟩ := own
    apply Condition.opens_append_eq_false word unmarked
    · intro same
      apply keyless
      rw [List.head?_cons, String.toList_inj.mp same]
    · simp

end SheetComponent

/-! ## Declarations -/

namespace WritableDeclaration

variable {base : String} {declaration : String × String}

theorem written_eq (declaration : String × String) :
    writeDeclaration declaration =
      declaration.1.toList ++ ':' :: ' ' :: '<' :: (declaration.2.toList ++ '>' :: []) := by
  rw [writeDeclaration, show ": <".toList = [':', ' ', '<'] from rfl]
  simp

theorem opens_eq_false (writable : WritableDeclaration base declaration) :
    Condition.opens (writeDeclaration declaration) = false := by
  obtain ⟨word, unmarked, other⟩ := writable.prefixed
  rw [written_eq]
  apply Condition.opens_append_eq_false word unmarked.1
  · exact fun same => other (String.toList_inj.mp same)
  · simp

theorem isPrefixChar_of_mem (writable : WritableDeclaration base declaration) :
    ∀ c ∈ declaration.1.toList, Declaration.isPrefixChar c = true := by
  obtain ⟨word, unmarked, -⟩ := writable.prefixed
  intro c member
  have apart {mark : Char} (missing : mark ∉ declaration.1.toList) : c ≠ mark := by
    rintro rfl
    exact missing member
  simp only [Declaration.isPrefixChar, word.solid c member, Bool.not_false, Bool.true_and,
    Bool.and_eq_true, bne_iff_ne]
  exact ⟨⟨apart unmarked.1, apart unmarked.2.1⟩, apart unmarked.2.2⟩

theorem ofLine?_written (writable : WritableDeclaration base declaration) :
    Declaration.ofLine? (writeDeclaration declaration) =
      some ⟨declaration.1.toList, declaration.2.toList⟩ := by
  have isPrefix := writable.isPrefixChar_of_mem
  have word := writable.prefixed.word
  have start : Text.trimStart (writeDeclaration declaration) = writeDeclaration declaration := by
    apply Text.dropWhile_eq_self
    rw [written_eq, List.head?_append_of_ne_nil _ word.nonempty]
    exact word.trimmed.front
  have name : (writeDeclaration declaration).takeWhile Declaration.isPrefixChar =
      declaration.1.toList := by
    rw [written_eq, List.takeWhile_append_of_pos isPrefix, List.takeWhile_cons_of_neg (by decide),
      List.append_nil]
  have behind : (writeDeclaration declaration).dropWhile Declaration.isPrefixChar =
      ':' :: ' ' :: '<' :: (declaration.2.toList ++ '>' :: []) := by
    rw [written_eq, List.dropWhile_append_of_pos isPrefix, List.dropWhile_cons_of_neg (by decide)]
  have colon (rest : List Char) :
      Text.dropPrefix? [':'] (Text.trimStart (':' :: ' ' :: '<' :: rest)) =
        some (' ' :: '<' :: rest) := rfl
  have bracket (rest : List Char) :
      Text.dropPrefix? ['<'] (Text.trimStart (' ' :: '<' :: rest)) = some rest := rfl
  have root : Text.cutAtChar? '>' (declaration.2.toList ++ '>' :: []) =
      some (declaration.2.toList, []) := Text.cutAtChar?_eq_some writable.unclosed []
  have named : declaration.1.toList.isEmpty = false := by simpa using word.nonempty
  have rooted : declaration.2.toList.isEmpty = false := by simpa using writable.rooted
  unfold Declaration.ofLine?
  simp only [start, name, behind, named, colon, Option.bind_eq_bind, Option.bind_some, bracket,
    root, Text.trim_of_trimmed writable.trimmed, rooted, Bool.false_eq_true, if_false]

end WritableDeclaration

/-! ## Ends of lines -/

/-- A line that no line feed breaks and that a character ends which is not blank. -/
structure FullLine (line : List Char) : Prop where
  unbroken : '\n' ∉ line
  ending : ∃ last ∈ line.getLast?, Text.isBlank last = false

namespace FullLine

variable {line : List Char}

theorem isAllBlank_eq_false (full : FullLine line) : Text.isAllBlank line = false := by
  obtain ⟨last, ends, solid⟩ := full.ending
  rw [Text.isAllBlank, List.all_eq_false]
  exact ⟨last, List.mem_of_mem_getLast? ends, by simp [solid]⟩

theorem returnless (full : FullLine line) : line.getLast? ≠ some '\r' := by
  obtain ⟨last, ends, solid⟩ := full.ending
  intro same
  obtain rfl := Option.some.inj (ends.symm.trans same)
  exact absurd solid (by decide)

theorem declarationsKeyword : FullLine "NAMESPACES".toList := ⟨by decide, 'S', rfl, by decide⟩

end FullLine

theorem SheetComponent.fullLine_writeLine {declared : List String} {line : List SheetComponent}
    (prefixes : ∀ namePrefix ∈ declared, WritablePrefix namePrefix)
    (writable : ∀ component ∈ line, component.Writable declared) (filled : line ≠ []) :
    FullLine (writeLine line) where
  unbroken := Text.unbroken_spaced (isWord_written prefixes writable)
  ending := by
    refine ⟨'.', ?_, by decide⟩
    rw [writeLine, Text.spaced_concat (by simpa using filled)]
    simp

theorem Condition.Writable.fullLine_write {condition : Condition} (writable : condition.Writable) :
    FullLine condition.write where
  unbroken := by
    have words := Text.unbroken_spaced fun word member =>
      (writable.joinedKeys_words word member).1
    rw [writable.write_eq]
    simp [words]
  ending := by
    refine ⟨':', ?_, by decide⟩
    rw [Condition.write, List.getLast?_concat]
    rfl

theorem WritableDeclaration.fullLine_written {base : String} {declaration : String × String}
    (writable : WritableDeclaration base declaration) :
    FullLine (writeDeclaration declaration) where
  unbroken := by
    have word := writable.prefixed.word.not_mem_of_blank (by decide : Text.isBlank '\n' = true)
    simp [written_eq, word, writable.unbroken]
  ending := by
    refine ⟨'>', ?_, by decide⟩
    rw [writeDeclaration, List.getLast?_concat]
    rfl

end AnswerGraph
