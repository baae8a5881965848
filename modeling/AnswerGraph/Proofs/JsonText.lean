import AnswerGraph.Json.Printer
import AnswerGraph.Json.Reader
import AnswerGraph.Proofs.Keyed

/-!
Reading what was written as JSON: a string in quotes, and a value without numbers. The text is read
as the document of the value, and that document has the value again unless it is nested too deep.
-/

namespace AnswerGraph

namespace Json

/-! ## Strings -/

theorem hexNumber?_hexDigits : ∀ value < 32,
    Text.hexNumber? (Text.hexDigits 4 value) = some value ∧
      (Text.hexDigits 4 value).length = 4 := by
  decide

/-- The piece stands for the character, whatever pieces follow. -/
def StandsFor (piece : Piece) (c : Char) : Prop :=
  ∀ more, joinPieces? (piece :: more) = (joinPieces? more).map (c :: ·)

theorem standsFor_char (c : Char) : StandsFor (.char c) c := fun _ => rfl

/-- A unit that is no half of a pair stands for its character. -/
theorem standsFor_unit {c : Char} (small : c.toNat < 32) : StandsFor (.unit c.toNat) c := by
  have single : ¬ (0xD800 ≤ c.toNat ∧ c.toNat < 0xE000) := by omega
  have whole : Char.ofNat c.toNat = c := Char.ofNat_toNat c
  intro more
  match more with
  | [] | .char _ :: _ => simp only [joinPieces?, single, if_false, whole]
  | .unit low :: rest =>
    have noPair : ¬ (0xD800 ≤ c.toNat ∧ c.toNat < 0xDC00 ∧ 0xDC00 ≤ low ∧ low < 0xE000) := by
      omega
    rw [joinPieces?, if_neg noPair, if_neg single, whole]

/-- The characters are read as a piece before the pieces of what follows. -/
def ReadsAs (letters : List Char) (piece : Piece) : Prop :=
  ∀ rest, pieces? (letters ++ rest) =
    (pieces? rest).map fun (more, after) => (piece :: more, after)

theorem readsAs_short {letter c : Char} (other : letter ≠ 'u')
    (short : shortEscape? letter = some c) : ReadsAs ['\\', letter] (.char c) := by
  intro rest
  rw [List.cons_append, List.cons_append, List.nil_append, pieces?.eq_def]
  cases more : pieces? rest <;> simp [short, other, more]

theorem readsAs_itself {c : Char} (printed : ¬ c.toNat < 32) (noQuote : c ≠ '"')
    (noEscape : c ≠ '\\') : ReadsAs [c] (.char c) := by
  intro rest
  rw [List.cons_append, List.nil_append, pieces?.eq_def]
  have plain : ¬ (c.toNat < 32 ∨ c = '\\') := fun
    | .inl control => printed control
    | .inr escape => noEscape escape
  split
  · next same => cases same
  · next same => exact absurd (List.cons.inj same).1 noQuote
  · next same => exact absurd (List.cons.inj same).1 noEscape
  · next same => exact absurd (List.cons.inj same).1 noEscape
  · next same =>
    cases same
    rw [if_neg plain]
    cases pieces? rest <;> rfl

theorem readsAs_hex {value : Nat} (small : value < 32) :
    ReadsAs ('\\' :: 'u' :: Text.hexDigits 4 value) (.unit value) := by
  obtain ⟨number, length⟩ := hexNumber?_hexDigits value small
  intro rest
  match digits : Text.hexDigits 4 value with
  | [a, b, c, d] =>
    rw [digits] at number
    simp only [List.cons_append, List.nil_append, pieces?, number]
    cases pieces? rest <;> rfl
  | [] | [_] | [_, _] | [_, _, _] | _ :: _ :: _ :: _ :: _ :: _ => simp [digits] at length

theorem exists_piece (c : Char) : ∃ piece, StandsFor piece c ∧ ReadsAs (escapeChar c) piece := by
  have named {letter : Char} (other : letter ≠ 'u') (short : shortEscape? letter = some c) :
      ∃ piece, StandsFor piece c ∧ ReadsAs ['\\', letter] piece :=
    ⟨.char c, standsFor_char c, readsAs_short other short⟩
  rw [escapeChar]
  split
  · subst c
    exact named (by decide) rfl
  split
  · subst c
    exact named (by decide) rfl
  split
  · subst c
    exact named (by decide) rfl
  split
  · subst c
    exact named (by decide) rfl
  split
  · subst c
    exact named (by decide) rfl
  split
  · next code =>
    obtain rfl : c = Char.ofNat 8 := by rw [← code, Char.ofNat_toNat]
    exact named (by decide) rfl
  split
  · next code =>
    obtain rfl : c = Char.ofNat 12 := by rw [← code, Char.ofNat_toNat]
    exact named (by decide) rfl
  split
  · next small => exact ⟨_, standsFor_unit small, readsAs_hex small⟩
  · exact ⟨_, standsFor_char c, readsAs_itself ‹_› ‹_› ‹_›⟩

theorem pieces?_escaped (letters rest : List Char) :
    ∃ found, pieces? (letters.flatMap escapeChar ++ '"' :: rest) = some (found, rest) ∧
      joinPieces? found = some letters := by
  induction letters with
  | nil => exact ⟨[], rfl, rfl⟩
  | cons c letters ih =>
    obtain ⟨found, read, joined⟩ := ih
    obtain ⟨piece, stands, reads⟩ := exists_piece c
    refine ⟨piece :: found, ?_, ?_⟩
    · rw [List.flatMap_cons, List.append_assoc, reads, read]
      rfl
    · rw [stands, joined]
      rfl

/-- A string in quotes is read after the first quote. -/
theorem readString?_escaped (text : String) (rest : List Char) :
    readString? (text.toList.flatMap escapeChar ++ '"' :: rest) = some (some text, rest) := by
  obtain ⟨found, read, joined⟩ := pieces?_escaped text.toList rest
  simp [readString?, read, joined]

theorem quote_append (text : String) (rest : List Char) :
    quote text ++ rest = '"' :: (text.toList.flatMap escapeChar ++ '"' :: rest) := by
  simp [quote]

/-! ## Blanks -/

theorem skipSpace_of_space {c : Char} (space : isSpace c = true) (rest : List Char) :
    skipSpace (c :: rest) = skipSpace rest := by
  rw [skipSpace, List.dropWhile_cons_of_pos space, skipSpace]

theorem skipSpace_of_not_space {c : Char} (solid : isSpace c = false) (rest : List Char) :
    skipSpace (c :: rest) = c :: rest := by
  rw [skipSpace, List.dropWhile_cons_of_neg (by simp [solid])]

theorem skipSpace_lineBreak (pretty : Bool) (depth : Nat) (rest : List Char) :
    skipSpace (lineBreak pretty depth ++ rest) = skipSpace rest := by
  cases pretty with
  | false => rfl
  | true =>
    have blanks : ∀ count, skipSpace (List.replicate count ' ' ++ rest) = skipSpace rest := by
      intro count
      induction count with
      | zero => rfl
      | succ count ih =>
        rw [List.replicate_succ, List.cons_append, skipSpace_of_space (by decide), ih]
    rw [lineBreak, if_pos rfl, List.cons_append, skipSpace_of_space (by decide), blanks]

/-- Blanks in front of a value are skipped. -/
theorem readValue?_of_skipSpace {first second : List Char}
    (same : skipSpace first = skipSpace second) (fuel : Nat) :
    readValue? fuel first = readValue? fuel second := by
  cases fuel with
  | zero => rfl
  | succ fuel => rw [readValue?, readValue?, same]

theorem readItems?_lineBreak (pretty : Bool) (depth fuel : Nat) (rest : List Char) :
    readItems? fuel (lineBreak pretty depth ++ rest) = readItems? fuel rest := by
  cases fuel with
  | zero => rfl
  | succ fuel =>
    rw [readItems?, readItems?, readValue?_of_skipSpace (skipSpace_lineBreak pretty depth rest)]

theorem readMembers?_lineBreak (pretty : Bool) (depth fuel : Nat) (rest : List Char) :
    readMembers? fuel (lineBreak pretty depth ++ rest) = readMembers? fuel rest := by
  cases fuel with
  | zero => rfl
  | succ fuel => rw [readMembers?, readMembers?, skipSpace_lineBreak]

/-! ## Values -/

/-- A value without numbers. -/
inductive Numberless : Json → Prop
  | null : Numberless .null
  | bool {value : Bool} : Numberless (.bool value)
  | string {value : String} : Numberless (.string value)
  | array {items : List Json} (inner : ∀ item ∈ items, Numberless item) : Numberless (.array items)
  | object {members : List (String × Json)} (inner : ∀ member ∈ members, Numberless member.2) :
      Numberless (.object members)

/-- A value without numbers that is nested at most so deep, with sorted objects. -/
inductive Canonical : Nat → Json → Prop
  | null {depth : Nat} : Canonical depth .null
  | bool {depth : Nat} {value : Bool} : Canonical depth (.bool value)
  | string {depth : Nat} {value : String} : Canonical depth (.string value)
  | array {depth : Nat} {items : List Json} (inner : ∀ item ∈ items, Canonical depth item) :
      Canonical (depth + 1) (.array items)
  | object {depth : Nat} {members : List (String × Json)} (sorted : Keyed.Sorted members)
      (inner : ∀ member ∈ members, Canonical depth member.2) :
      Canonical (depth + 1) (.object members)

theorem Canonical.numberless {depth : Nat} {value : Json} (canonical : Canonical depth value) :
    Numberless value := by
  induction canonical with
  | null => exact .null
  | bool => exact .bool
  | string => exact .string
  | array _ ih => exact .array ih
  | object _ _ ih => exact .object ih

/-- A value is read back from its text, wherever the text stands. -/
def ReadsBack (pretty : Bool) (value : Json) : Prop :=
  ∀ (depth fuel : Nat) (rest : List Char), 2 * (print pretty depth value).length ≤ fuel →
    readValue? fuel (print pretty depth value ++ rest) = some (toDocument value, rest)

theorem print_start {value : Json} (numberless : Numberless value) (pretty : Bool) (indent : Nat) :
    ∃ first more, print pretty indent value = first :: more ∧ isSpace first = false ∧
      first ≠ ']' := by
  cases numberless with
  | null => exact ⟨_, _, by rw [print]; rfl, by decide, by decide⟩
  | @bool value => cases value <;> exact ⟨_, _, by rw [print]; rfl, by decide, by decide⟩
  | string => exact ⟨_, _, by rw [print]; rfl, by decide, by decide⟩
  | @array items _ =>
    cases items with
    | nil => exact ⟨'[', [']'], by rw [print], by decide, by decide⟩
    | cons item items => exact ⟨'[', _, by rw [print]; rfl, by decide, by decide⟩
  | @object members _ =>
    cases members with
    | nil => exact ⟨'{', ['}'], by rw [print], by decide, by decide⟩
    | cons member members => exact ⟨'{', _, by rw [print]; rfl, by decide, by decide⟩

section Print

variable {pretty : Bool} {indent fuel : Nat}

theorem readItems?_print {item : Json} {items : List Json}
    (back : ∀ member ∈ item :: items, ReadsBack pretty member)
    (enough : 2 * ((print pretty indent item).length + (printItems pretty indent items).length) <
      fuel) (below : Nat) (rest : List Char) :
    readItems? fuel (print pretty indent item ++ (printItems pretty indent items ++
        (lineBreak pretty below ++ ']' :: rest))) =
      some (itemsToDocument (item :: items), rest) := by
  induction items generalizing item fuel with
  | nil =>
    obtain ⟨fuel, rfl⟩ := Nat.exists_eq_succ_of_ne_zero (Nat.ne_zero_of_lt enough)
    rw [printItems, List.nil_append, readItems?, back item List.mem_cons_self _ _ _ (by omega)]
    simp only [Option.bind_eq_bind, Option.bind_some, skipSpace_lineBreak]
    rw [skipSpace_of_not_space (by decide)]
    rfl
  | cons next items ih =>
    obtain ⟨fuel, rfl⟩ := Nat.exists_eq_succ_of_ne_zero (Nat.ne_zero_of_lt enough)
    have onward : printItems pretty indent (next :: items) = ',' :: (lineBreak pretty indent ++
        (print pretty indent next ++ printItems pretty indent items)) := by
      simp [printItems]
    rw [onward] at enough ⊢
    simp only [List.length_cons, List.length_append] at enough
    have less : 2 * ((print pretty indent next).length +
        (printItems pretty indent items).length) < fuel := by omega
    have more := ih (fun member listed => back member (List.mem_cons_of_mem _ listed)) less
    rw [readItems?, back item List.mem_cons_self _ _ _ (by omega)]
    simp only [Option.bind_eq_bind, Option.bind_some, List.cons_append, List.append_assoc]
    rw [skipSpace_of_not_space (by decide)]
    simp only [readItems?_lineBreak, more, Option.map_some]
    rfl

/-- Between a key and its value. -/
def colon (pretty : Bool) : List Char :=
  if pretty then [':', ' '] else [':']

theorem skipSpace_colon (rest : List Char) :
    ∃ more, skipSpace (colon pretty ++ rest) = ':' :: more ∧ skipSpace more = skipSpace rest := by
  cases pretty with
  | false => exact ⟨rest, skipSpace_of_not_space (by decide) _, rfl⟩
  | true =>
    exact ⟨' ' :: rest, skipSpace_of_not_space (by decide) _, skipSpace_of_space (by decide) _⟩

/-- One member is read, and what follows it decides how to go on. -/
theorem readMembers?_member {key : String} {value : Json} (back : ReadsBack pretty value)
    (enough : 2 * (print pretty indent value).length ≤ fuel) (rest : List Char) :
    readMembers? (fuel + 1) (quote key ++ (colon pretty ++ (print pretty indent value ++ rest))) =
      match skipSpace rest with
      | ',' :: rest => (readMembers? fuel rest).map fun (members, after) =>
        ((some key, toDocument value) :: members, after)
      | '}' :: rest => some ([(some key, toDocument value)], rest)
      | _ => none := by
  obtain ⟨more, found, same⟩ := @skipSpace_colon pretty (print pretty indent value ++ rest)
  rw [readMembers?, quote_append, skipSpace_of_not_space (by decide)]
  simp only [readString?_escaped, Option.bind_eq_bind, Option.bind_some, found]
  rw [readValue?_of_skipSpace same, back _ _ _ enough]
  rfl

theorem readMembers?_print {key : String} {value : Json} {members : List (String × Json)}
    (back : ∀ member ∈ (key, value) :: members, ReadsBack pretty member.2)
    (enough : 2 * ((print pretty indent value).length +
      (printMembers pretty indent members).length) < fuel) (below : Nat) (rest : List Char) :
    readMembers? fuel (quote key ++ (colon pretty ++ (print pretty indent value ++
        (printMembers pretty indent members ++ (lineBreak pretty below ++ '}' :: rest))))) =
      some (membersToDocument ((key, value) :: members), rest) := by
  induction members generalizing key value fuel with
  | nil =>
    obtain ⟨fuel, rfl⟩ := Nat.exists_eq_succ_of_ne_zero (Nat.ne_zero_of_lt enough)
    have first : ReadsBack pretty value := back (key, value) List.mem_cons_self
    rw [readMembers?_member first (by omega), printMembers, List.nil_append, skipSpace_lineBreak,
      skipSpace_of_not_space (by decide)]
    rfl
  | cons next members ih =>
    obtain ⟨fuel, rfl⟩ := Nat.exists_eq_succ_of_ne_zero (Nat.ne_zero_of_lt enough)
    have onward : printMembers pretty indent (next :: members) =
        ',' :: (lineBreak pretty indent ++ (quote next.1 ++ (colon pretty ++
          (print pretty indent next.2 ++ printMembers pretty indent members)))) := by
      simp [printMembers, colon]
    rw [onward] at enough ⊢
    simp only [List.length_cons, List.length_append] at enough
    have less : 2 * ((print pretty indent next.2).length +
        (printMembers pretty indent members).length) < fuel := by omega
    have more := ih (fun member listed => back member (List.mem_cons_of_mem _ listed)) less
    have first : ReadsBack pretty value := back (key, value) List.mem_cons_self
    rw [readMembers?_member first (by omega)]
    simp only [List.cons_append, List.append_assoc]
    rw [skipSpace_of_not_space (by decide)]
    simp only [readMembers?_lineBreak, more, Option.map_some]
    rfl

end Print

theorem readWord?_append (word : String) (document : Document) (rest : List Char) :
    readWord? word document (word.toList ++ rest) = some (document, rest) := by
  simp [readWord?]

/-- Every value has a first character, so there is fuel to read it. -/
theorem ReadsBack.of_succ {pretty : Bool} {value : Json} (numberless : Numberless value)
    (step : ∀ (indent fuel : Nat) (rest : List Char),
      2 * (print pretty indent value).length ≤ fuel + 1 →
      readValue? (fuel + 1) (print pretty indent value ++ rest) =
        some (toDocument value, rest)) : ReadsBack pretty value := by
  intro indent fuel rest enough
  obtain ⟨first, more, start, -⟩ := print_start numberless pretty indent
  cases fuel with
  | zero => simp [start] at enough
  | succ fuel => exact step indent fuel rest enough

theorem ReadsBack.null (pretty : Bool) : ReadsBack pretty .null := by
  refine .of_succ .null fun indent fuel rest enough => ?_
  have text : print pretty indent .null ++ rest = 'n' :: ("ull".toList ++ rest) := by
    rw [print]
    rfl
  rw [text, readValue?, skipSpace_of_not_space (by decide)]
  simp only [readWord?_append]
  rfl

theorem ReadsBack.bool (pretty value : Bool) : ReadsBack pretty (.bool value) := by
  refine .of_succ .bool fun indent fuel rest enough => ?_
  cases value with
  | false =>
    have text : print pretty indent (.bool false) ++ rest = 'f' :: ("alse".toList ++ rest) := by
      rw [print]
      rfl
    rw [text, readValue?, skipSpace_of_not_space (by decide)]
    simp only [readWord?_append]
    rfl
  | true =>
    have text : print pretty indent (.bool true) ++ rest = 't' :: ("rue".toList ++ rest) := by
      rw [print]
      rfl
    rw [text, readValue?, skipSpace_of_not_space (by decide)]
    simp only [readWord?_append]
    rfl

theorem ReadsBack.string (pretty : Bool) (value : String) : ReadsBack pretty (.string value) := by
  refine .of_succ .string fun indent fuel rest enough => ?_
  rw [print, quote_append, readValue?, skipSpace_of_not_space (by decide)]
  simp only [readString?_escaped, Option.map_some]
  rfl

theorem ReadsBack.array {pretty : Bool} {items : List Json}
    (inner : ∀ item ∈ items, Numberless item)
    (back : ∀ item ∈ items, ReadsBack pretty item) : ReadsBack pretty (.array items) := by
  refine .of_succ (.array inner) fun indent fuel rest enough => ?_
  cases items with
  | nil =>
    have text : print pretty indent (.array []) ++ rest = '[' :: ']' :: rest := by
      rw [print]
      rfl
    rw [text, readValue?, skipSpace_of_not_space (by decide)]
    simp only [skipSpace_of_not_space (by decide : isSpace ']' = false)]
    rfl
  | cons item items =>
    obtain ⟨first, more, start, solid, apart⟩ :=
      print_start (inner item List.mem_cons_self) pretty (indent + 1)
    have text : print pretty indent (.array (item :: items)) = '[' ::
        (lineBreak pretty (indent + 1) ++ (print pretty (indent + 1) item ++
          (printItems pretty (indent + 1) items ++ (lineBreak pretty indent ++ [']'])))) := by
      simp [print]
    rw [text] at enough ⊢
    simp only [List.length_cons, List.length_append, List.length_nil] at enough
    have less : 2 * ((print pretty (indent + 1) item).length +
        (printItems pretty (indent + 1) items).length) < fuel := by omega
    have opened (tail : List Char) : skipSpace (print pretty (indent + 1) item ++ tail) =
        first :: (more ++ tail) := by
      rw [start, List.cons_append, skipSpace_of_not_space solid]
    rw [List.cons_append, readValue?, skipSpace_of_not_space (by decide)]
    simp only [List.append_assoc, List.singleton_append, skipSpace_lineBreak, opened,
      readItems?_lineBreak, readItems?_print back less indent rest]
    split
    · next same => exact absurd (List.cons.inj same).1 apart
    · rfl

theorem ReadsBack.object {pretty : Bool} {members : List (String × Json)}
    (inner : ∀ member ∈ members, Numberless member.2)
    (back : ∀ member ∈ members, ReadsBack pretty member.2) :
    ReadsBack pretty (.object members) := by
  refine .of_succ (.object inner) fun indent fuel rest enough => ?_
  cases members with
  | nil =>
    have text : print pretty indent (.object []) ++ rest = '{' :: '}' :: rest := by
      rw [print]
      rfl
    rw [text, readValue?, skipSpace_of_not_space (by decide)]
    simp only [skipSpace_of_not_space (by decide : isSpace '}' = false)]
    rfl
  | cons member members =>
    obtain ⟨key, value⟩ := member
    have text : print pretty indent (.object ((key, value) :: members)) = '{' ::
        (lineBreak pretty (indent + 1) ++ (quote key ++ (colon pretty ++
          (print pretty (indent + 1) value ++ (printMembers pretty (indent + 1) members ++
            (lineBreak pretty indent ++ ['}'])))))) := by
      simp [print, colon]
    rw [text] at enough ⊢
    simp only [List.length_cons, List.length_append, List.length_nil] at enough
    have less : 2 * ((print pretty (indent + 1) value).length +
        (printMembers pretty (indent + 1) members).length) < fuel := by omega
    have opened (tail : List Char) : skipSpace (quote key ++ tail) = quote key ++ tail := by
      rw [quote_append, skipSpace_of_not_space (by decide)]
    rw [List.cons_append, readValue?, skipSpace_of_not_space (by decide)]
    simp only [List.append_assoc, List.singleton_append, skipSpace_lineBreak, opened,
      readMembers?_lineBreak, readMembers?_print back less indent rest]
    split
    · next same =>
      rw [quote_append] at same
      exact absurd (List.cons.inj same).1 (by decide)
    · rfl

/-- A value is read as its document. -/
theorem readsBack_of_numberless {value : Json} (numberless : Numberless value) (pretty : Bool) :
    ReadsBack pretty value := by
  induction numberless with
  | null => exact .null pretty
  | bool => exact .bool pretty _
  | string => exact .string pretty _
  | array inner ih => exact .array inner ih
  | object inner ih => exact .object inner ih

theorem ofJson?_render {value : Json} (numberless : Numberless value) (pretty : Bool) :
    Document.ofJson? (render pretty value) = some (toDocument value) := by
  have back := readsBack_of_numberless numberless pretty 0
  have text : (render pretty value).toList = print pretty 0 value := by simp [render]
  have read := back (2 * (print pretty 0 value).length + 2) [] (by omega)
  rw [List.append_nil] at read
  rw [Document.ofJson?, text]
  simp only [read, Option.bind_eq_bind, Option.bind_some]
  rfl

/-! ## The value of a document -/

theorem recordOf_eq (members : List (Option String × Document)) :
    ∃ choice, recordOf members = .record choice members := by
  unfold recordOf
  split
  · exact ⟨_, rfl⟩
  · exact ⟨_, rfl⟩

theorem itemsToJson?_toDocument {depth : Nat} {items : List Json}
    (back : ∀ item ∈ items, Document.toJson? depth (toDocument item) = some item) :
    Document.itemsToJson? depth (itemsToDocument items) = some items := by
  induction items with
  | nil => rw [itemsToDocument, Document.itemsToJson?]
  | cons item items ih =>
    rw [itemsToDocument, Document.itemsToJson?, back item List.mem_cons_self,
      ih fun other member => back other (List.mem_cons_of_mem _ member)]
    rfl

theorem membersToJson?_toDocument {depth : Nat} {members : List (String × Json)}
    (back : ∀ member ∈ members, Document.toJson? depth (toDocument member.2) = some member.2) :
    Document.membersToJson? depth (membersToDocument members) = some members := by
  induction members with
  | nil => rw [membersToDocument, Document.membersToJson?]
  | cons member members ih =>
    obtain ⟨key, value⟩ := member
    rw [membersToDocument, Document.membersToJson?, back (key, value) List.mem_cons_self,
      ih fun other member => back other (List.mem_cons_of_mem _ member)]
    rfl

/-- A value that is not nested too deep is the value of its document. -/
theorem toJson?_toDocument {depth : Nat} {value : Json} (canonical : Canonical depth value) :
    Document.toJson? depth (toDocument value) = some value := by
  induction canonical with
  | null | bool | string =>
    rw [toDocument]
    rfl
  | array inner ih =>
    rw [toDocument, Document.toJson?, itemsToJson?_toDocument ih]
    rfl
  | @object depth members sorted inner ih =>
    obtain ⟨choice, record⟩ := recordOf_eq (membersToDocument members)
    rw [toDocument, record, Document.toJson?, membersToJson?_toDocument ih, Option.map_some,
      ofMembers, Keyed.ofList_of_sorted sorted]

/-- A value that is not nested too deep is read back as it was written. -/
theorem parse?_render {value : Json} (canonical : Canonical Document.maxDepth value)
    (pretty : Bool) : parse? (render pretty value) = some value := by
  rw [parse?, ofJson?_render canonical.numberless, Option.bind_some, toJson?_toDocument canonical]

/-! ## Objects of strings -/

/-- The members of an object of strings. -/
def stringMembers (entries : List (String × String)) : List (String × Json) :=
  entries.map fun (key, value) => (key, .string value)

theorem canonical_strings {entries : List (String × String)} (sorted : Keyed.Sorted entries)
    (depth : Nat) : Canonical (depth + 1) (.object (stringMembers entries)) := by
  refine .object (List.pairwise_map.mpr sorted) fun member listed => ?_
  obtain ⟨entry, -, rfl⟩ := List.mem_map.mp listed
  exact .string

theorem mapM_text_strings (entries : List (String × String)) :
    (membersToDocument (stringMembers entries)).mapM (fun (name, value) => do
      some (← name, ← value.text?)) = some entries := by
  induction entries with
  | nil => rfl
  | cons entry entries ih =>
    rw [stringMembers, List.map_cons, membersToDocument, toDocument, List.mapM_cons,
      ← stringMembers, ih]
    rfl

/-- The members of an object of strings are read as texts. -/
theorem textMembers?_strings (entries : List (String × String)) :
    (toDocument (.object (stringMembers entries))).textMembers? = some entries := by
  obtain ⟨choice, record⟩ := recordOf_eq (membersToDocument (stringMembers entries))
  rw [toDocument, record, Document.textMembers?, mapM_text_strings]

end Json

end AnswerGraph
