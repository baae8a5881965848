/-!
Finding a fixed word in a text: what stands before and after its first occurrence, cutting at all
occurrences, and removing it from an end.
-/

namespace AnswerGraph.Text

/-- What follows `word` at the start of `text`. -/
def dropPrefix? : (word text : List Char) → Option (List Char)
  | [], text => some text
  | _ :: _, [] => none
  | w :: word, c :: text => if w = c then dropPrefix? word text else none

/-- What precedes `word` at the end of `text`. -/
def dropSuffix? (word text : List Char) : Option (List Char) :=
  (dropPrefix? word.reverse text.reverse).map List.reverse

/-- The parts before and after the first occurrence of `word`. -/
def cutAt? (word : List Char) : List Char → Option (List Char × List Char)
  | [] => (dropPrefix? word []).map ([], ·)
  | c :: rest =>
    match dropPrefix? word (c :: rest) with
    | some after => some ([], after)
    | none => (cutAt? word rest).map fun (before, after) => (c :: before, after)

def contains (word text : List Char) : Bool :=
  (cutAt? word text).isSome

/-- The parts before and after the first occurrence of a character. -/
def cutAtChar? (mark : Char) : List Char → Option (List Char × List Char)
  | [] => none
  | c :: rest =>
    if c = mark then some ([], rest)
    else (cutAtChar? mark rest).map fun (before, after) => (c :: before, after)

/-- The part after the last character that satisfies `mark`, all of the text if none does. -/
def afterLast (mark : Char → Bool) (text : List Char) : List Char :=
  (text.reverse.takeWhile fun c => !mark c).reverse

theorem length_of_dropPrefix? {word text rest : List Char}
    (found : dropPrefix? word text = some rest) : text.length = word.length + rest.length := by
  induction word generalizing text with
  | nil => simp_all [dropPrefix?]
  | cons w word ih =>
    cases text with
    | nil => simp [dropPrefix?] at found
    | cons c text =>
      simp only [dropPrefix?] at found
      split at found
      · have := ih found
        simp; omega
      · simp at found

theorem length_of_cutAt? {word text before after : List Char}
    (found : cutAt? word text = some (before, after)) :
    text.length = before.length + word.length + after.length := by
  induction text generalizing before with
  | nil =>
    cases word with
    | nil => simp_all [cutAt?, dropPrefix?]
    | cons => simp [cutAt?, dropPrefix?] at found
  | cons c rest ih =>
    rw [cutAt?] at found
    split at found
    · next after' here =>
      have := length_of_dropPrefix? here
      simp_all
    · obtain ⟨⟨inner, _⟩, cut, same⟩ := Option.map_eq_some_iff.mp found
      simp only [Prod.mk.injEq] at same
      obtain ⟨rfl, rfl⟩ := same
      have := ih cut
      simp; omega

/-- The parts between the occurrences of `word`, taken from the left. -/
def splitOn (word text : List Char) : List (List Char) :=
  if nonempty : word = [] then [text]
  else
    match found : cutAt? word text with
    | none => [text]
    | some (before, after) =>
      have : after.length < text.length := by
        have size := length_of_cutAt? found
        have := List.length_pos_iff.mpr nonempty
        omega
      before :: splitOn word after
termination_by text.length

/-- Whether a list of characters starts with another. -/
def startsWith (text word : List Char) : Bool :=
  (dropPrefix? word text).isSome

end AnswerGraph.Text
