import AnswerGraph.Files.Tree

/-!
Paths that are made of a folder and a name in it. The steps of such a path are those of the folder
and one more, and its parent is the folder.
-/

namespace AnswerGraph

/-- A name that is one part of a path and leads nowhere else. -/
structure PlainName (name : String) : Prop where
  filled : name ≠ ""
  noSlash : '/' ∉ name.toList
  notDot : name ≠ "."
  notDots : name ≠ ".."

namespace Path

/-! ## Parts -/

theorem splitSlashes_of_noSlash {name : List Char} (noSlash : '/' ∉ name) :
    splitSlashes name = [name] := by
  induction name with
  | nil => rfl
  | cons c rest ih =>
    rw [List.mem_cons, not_or] at noSlash
    rw [splitSlashes, if_neg (Ne.symm noSlash.1), ih noSlash.2]

theorem splitSlashes_append (first second : List Char) :
    splitSlashes (first ++ '/' :: second) = splitSlashes first ++ splitSlashes second := by
  induction first with
  | nil => simp [splitSlashes]
  | cons c rest ih =>
    rw [List.cons_append, splitSlashes, splitSlashes, ih]
    split
    · rfl
    · cases split : splitSlashes rest with
      | nil =>
        cases rest with
        | nil => cases split
        | cons d rest =>
          rw [splitSlashes] at split
          split at split
          · cases split
          · split at split <;> cases split
      | cons part parts => rfl

theorem parts_of_noSlash {name : String} (noSlash : '/' ∉ name.toList) : parts name = [name] := by
  simp [parts, splitSlashes_of_noSlash noSlash]

theorem parts_append (first second : String) :
    parts (first ++ "/" ++ second) = parts first ++ parts second := by
  have letters : (first ++ "/" ++ second).toList = first.toList ++ '/' :: second.toList := by
    simp
  rw [parts, letters, splitSlashes_append, List.map_append, ← parts, ← parts]

/-! ## A name in a folder -/

section Join

variable {folder name : String}

theorem isAbsolute_eq_false (noSlash : '/' ∉ name.toList) : isAbsolute name = false := by
  rw [isAbsolute, beq_eq_false_iff_ne]
  exact fun head => noSlash (List.mem_of_head? head)

theorem endsWithSlash_append (filled : name ≠ "") (noSlash : '/' ∉ name.toList) (folder : String) :
    endsWithSlash (folder ++ name) = false := by
  have letters : name.toList ≠ [] := by simpa using filled
  rw [endsWithSlash, beq_eq_false_iff_ne, String.toList_append, List.getLast?_append,
    List.getLast?_eq_some_getLast letters, Option.some_or]
  exact fun last => noSlash (Option.some.inj last ▸ List.getLast_mem letters)

/-- A folder is the part of a path before a name; it ends with a slash unless it is empty. -/
def lead (folder : String) : String :=
  if folder.isEmpty || endsWithSlash folder then folder else folder ++ "/"

theorem join_eq (noSlash : '/' ∉ name.toList) : join folder name = lead folder ++ name := by
  rw [join, lead, isAbsolute_eq_false noSlash, Bool.false_or]
  cases empty : folder.isEmpty with
  | true =>
    obtain rfl : folder = "" := by simpa using empty
    simp
  | false =>
    cases endsWithSlash folder <;> simp

theorem isAbsolute_append (filled : folder ≠ "") (name : String) :
    isAbsolute (folder ++ name) = isAbsolute folder := by
  have letters : folder.toList ≠ [] := by simpa using filled
  rw [isAbsolute, isAbsolute, String.toList_append, List.head?_append,
    List.head?_eq_some_head letters, Option.some_or]

theorem isAbsolute_join (plain : PlainName name) :
    isAbsolute (join folder name) = isAbsolute folder := by
  rw [join_eq plain.noSlash, lead]
  by_cases empty : folder = ""
  · subst folder
    simpa [isAbsolute] using isAbsolute_eq_false plain.noSlash
  · split
    · exact isAbsolute_append empty name
    · rw [String.append_assoc]
      exact isAbsolute_append empty _

theorem endsWithSlash_join (plain : PlainName name) (folder : String) :
    endsWithSlash (join folder name) = false := by
  rw [join_eq plain.noSlash]
  exact endsWithSlash_append plain.filled plain.noSlash _

theorem join_ne_empty (plain : PlainName name) (folder : String) : join folder name ≠ "" := by
  rw [join_eq plain.noSlash, Ne, String.append_eq_empty_iff]
  exact fun both => plain.filled both.2

theorem exists_of_endsWithSlash (ends : endsWithSlash folder = true) :
    ∃ front, folder = front ++ "/" := by
  rw [endsWithSlash, beq_iff_eq, List.getLast?_eq_some_iff] at ends
  obtain ⟨front, letters⟩ := ends
  refine ⟨String.ofList front, String.toList_inj.mp ?_⟩
  simp [letters]

/-- A path that goes one step further than its folder. -/
theorem steps_join (plain : PlainName name) :
    FileTree.steps (join folder name) = FileTree.steps folder ++ [name] := by
  have last : [name].filter (· != "") = [name] := by simp [plain.filled]
  have alone := parts_of_noSlash plain.noSlash
  rw [join_eq plain.noSlash, lead, FileTree.steps, FileTree.steps]
  by_cases empty : folder = ""
  · subst folder
    rw [if_pos (by simp), String.empty_append, alone, last]
    simp [parts, splitSlashes]
  · by_cases ends : endsWithSlash folder = true
    · obtain ⟨front, rfl⟩ := exists_of_endsWithSlash ends
      have bare : parts (front ++ "/") = parts front ++ [""] := by
        simpa [parts, splitSlashes] using parts_append front ""
      rw [if_pos (by simp [ends]), parts_append, bare, alone, List.filter_append, last,
        List.filter_append]
      simp
    · rw [if_neg (by simp [empty, ends]), parts_append, alone, List.filter_append, last]

theorem dropSlashes_of_name {path : String} (named : endsWithSlash path = false) :
    FileTree.dropSlashes path = path := by
  have kept : path.toList.reverse.dropWhile (· == '/') = path.toList.reverse := by
    rw [endsWithSlash, ← List.head?_reverse] at named
    cases letters : path.toList.reverse with
    | nil => rfl
    | cons c rest =>
      rw [letters] at named
      have other : (c == '/') = false := by simpa using named
      rw [List.dropWhile_cons_of_neg (by simp [other])]
  simp [FileTree.dropSlashes, kept]

/-! ## The folder of a name -/

/-- A character that is neither a slash nor a dot. -/
def Solid (c : Char) : Prop :=
  c ≠ '/' ∧ c ≠ '.'

theorem dropTail_of_solid {letters : List Char} {c : Char} (solid : Solid c) :
    dropTail (c :: letters) = c :: letters := by
  unfold dropTail
  split
  · next same => exact absurd (List.cons.inj same).1 solid.1
  · next same => exact absurd (List.cons.inj same).1 solid.2
  · rfl

/-- The folder of a path is the text before the slash and the name. -/
theorem parent?_append {front : String} {before after : List Char} {c d : Char}
    (folderEnds : front.toList = before ++ [c]) (nameEnds : name.toList = after ++ [d])
    (folderSolid : Solid c) (nameSolid : Solid d) (noSlash : '/' ∉ name.toList) :
    parent? (front ++ "/" ++ name) = some front := by
  have reversed : (front ++ "/" ++ name).toList.reverse =
      d :: (after.reverse ++ '/' :: c :: before.reverse) := by
    simp [folderEnds, nameEnds]
  have text : body (front ++ "/" ++ name) = (front ++ "/" ++ name).toList := by
    rw [body, reversed, dropTail_of_solid nameSolid, ← reversed, List.reverse_reverse]
  have cut : (front ++ "/" ++ name).toList.reverse.dropWhile (· != '/') =
      '/' :: c :: before.reverse := by
    have named : ∀ d ∈ name.toList.reverse, (d != '/') = true := fun d member =>
      bne_iff_ne.mpr fun same => noSlash (same ▸ List.mem_reverse.mp member)
    have letters : (front ++ "/" ++ name).toList.reverse =
        name.toList.reverse ++ '/' :: c :: before.reverse := by
      simp [folderEnds]
    rw [letters, List.dropWhile_append_of_pos named]
    simp
  have filled : (front ++ "/" ++ name).toList.isEmpty = false := by simp
  rw [parent?, text]
  simp only [filled, Bool.false_eq_true, if_false, cut]
  rw [dropTail, dropTail_of_solid folderSolid]
  simp [← folderEnds]

end Join

end Path

end AnswerGraph
