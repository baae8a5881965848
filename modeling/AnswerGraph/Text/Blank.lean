/-!
Blank characters, and the cuts that they make in a text: trimming, words and lines. Texts are lists
of characters here, so that every cut is a recursion on the text.
-/

namespace AnswerGraph.Text

/-- A character with the Unicode property White_Space. -/
def isBlank (c : Char) : Bool :=
  let n := c.toNat
  (9 ≤ n && n ≤ 13) || n == 0x20 || n == 0x85 || n == 0xA0 || n == 0x1680 ||
    (0x2000 ≤ n && n ≤ 0x200A) || n == 0x2028 || n == 0x2029 || n == 0x202F || n == 0x205F ||
    n == 0x3000

/-- Every character that the core library calls white space is blank. -/
theorem isBlank_of_isWhitespace {c : Char} (white : c.isWhitespace = true) : isBlank c = true := by
  simp only [Char.isWhitespace, Bool.or_eq_true, decide_eq_true_eq] at white
  rcases white with ((same | same) | same) | same <;> subst same <;> decide

def isAllBlank (text : List Char) : Bool :=
  text.all isBlank

def trimStart (text : List Char) : List Char :=
  text.dropWhile isBlank

def trimEnd (text : List Char) : List Char :=
  text.reverse.dropWhile isBlank |>.reverse

def trim (text : List Char) : List Char :=
  trimEnd (trimStart text)

/-- Removes all characters of one kind from the end. -/
def dropEndWhile (drop : Char → Bool) (text : List Char) : List Char :=
  text.reverse.dropWhile drop |>.reverse

/-- The runs of characters that are not blank. -/
def words : List Char → List (List Char)
  | [] => []
  | c :: rest =>
    if isBlank c then words rest
    else
      match rest, words rest with
      | [], _ => [[c]]
      | next :: _, found =>
        if isBlank next then [c] :: found
        else
          match found with
          | [] => [[c]]
          | word :: more => (c :: word) :: more

/-- Drops a carriage return that stands directly before the end of a line. -/
private def dropReturn (line : List Char) : List Char :=
  match line.getLast? with
  | some '\r' => line.dropLast
  | _ => line

/-- Collects one line (reversed in `line`) and cuts at each line feed. -/
private def linesFrom (line : List Char) : List Char → List (List Char)
  | [] => if line.isEmpty then [] else [line.reverse]
  | '\n' :: rest => dropReturn line.reverse :: linesFrom [] rest
  | c :: rest => linesFrom (c :: line) rest

/-- The lines of a text. A line ends at a line feed, alone or after a carriage return; the last
line needs no ending, and keeps a carriage return that no line feed follows. -/
def lines (text : List Char) : List (List Char) :=
  linesFrom [] text

private theorem linesFrom_append {line : List Char} (unbroken : '\n' ∉ line)
    (start rest : List Char) :
    linesFrom start (line ++ '\n' :: rest) =
      dropReturn (line.reverse ++ start).reverse :: linesFrom [] rest := by
  induction line generalizing start with
  | nil => rfl
  | cons c line ih =>
    obtain ⟨apart, others⟩ := not_or.mp fun found => unbroken (List.mem_cons.mpr found)
    rw [List.cons_append, linesFrom, ih others, List.reverse_cons, List.append_assoc]
    · rfl
    · exact fun same => apart same.symm

/-- The first line of a text, if no carriage return stands at its end. -/
theorem lines_append {line : List Char} (unbroken : '\n' ∉ line)
    (returnless : line.getLast? ≠ some '\r') (rest : List Char) :
    lines (line ++ '\n' :: rest) = line :: lines rest := by
  have kept : dropReturn line = line := by
    unfold dropReturn
    split
    · next ends => exact absurd ends returnless
    · rfl
  rw [lines, linesFrom_append unbroken, List.append_nil, List.reverse_reverse, kept]
  rfl

private theorem linesFrom_append_feed (start text rest : List Char) :
    linesFrom start (text ++ '\n' :: rest) =
      linesFrom start (text ++ ['\n']) ++ linesFrom [] rest := by
  induction text generalizing start with
  | nil => rfl
  | cons c text ih =>
    by_cases feed : c = '\n'
    · subst feed
      exact congrArg (dropReturn start.reverse :: ·) (ih [])
    · rw [List.cons_append, List.cons_append, linesFrom, linesFrom, ih]
      · exact feed
      · exact feed

/-- What follows a line feed is cut into lines by itself. -/
theorem lines_append_feed (text rest : List Char) :
    lines (text ++ '\n' :: rest) = lines (text ++ ['\n']) ++ lines rest :=
  linesFrom_append_feed [] text rest

/-- Lines that have a line feed behind each of them. -/
theorem lines_flatMap {texts : List (List Char)}
    (unbroken : ∀ line ∈ texts, '\n' ∉ line ∧ line.getLast? ≠ some '\r') :
    lines (texts.flatMap (· ++ ['\n'])) = texts := by
  induction texts with
  | nil => rfl
  | cons line rest ih =>
    obtain ⟨feedless, returnless⟩ := unbroken line List.mem_cons_self
    rw [List.flatMap_cons, List.append_assoc, List.singleton_append,
      lines_append feedless returnless,
      ih fun other member => unbroken other (List.mem_cons_of_mem line member)]

end AnswerGraph.Text
