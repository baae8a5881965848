import AnswerGraph.Proofs.RdfCheck
import AnswerGraph.Proofs.TripleReader

/-!
N-Triples and Turtle lose nothing: reading the text of some statements gives their first
occurrences, in order. IRIs are written without escapes, so this rests on the characters that an
absolute IRI cannot have.
-/

namespace AnswerGraph

namespace Rdf

/-! ## Terms -/

section Reading

variable {closing : Char} {plain : Char → Bool} {short? : Char → Option Char}

/-- A character other than the backslash ends the text, stands for itself or is refused. -/
theorem readUntil?_cons {c : Char} (noEscape : c ≠ '\\') (rest : List Char) :
    readUntil? closing plain short? (c :: rest) =
      if c = closing then some ([], rest)
      else if plain c then consRead (some c) (readUntil? closing plain short? rest)
      else none := by
  rw [readUntil?.eq_def]
  split
  · next same => cases same
  · next same => exact absurd (List.cons.inj same).1 noEscape
  · next same => exact absurd (List.cons.inj same).1 noEscape
  · next same => exact absurd (List.cons.inj same).1 noEscape
  · next same =>
    cases same
    rfl

theorem readUntil?_closing (noEscape : closing ≠ '\\') (rest : List Char) :
    readUntil? closing plain short? (closing :: rest) = some ([], rest) := by
  rw [readUntil?_cons noEscape, if_pos rfl]

theorem readUntil?_itself {c : Char} (noEscape : c ≠ '\\') (inside : c ≠ closing)
    (itself : plain c = true) (rest : List Char) :
    readUntil? closing plain short? (c :: rest) =
      consRead (some c) (readUntil? closing plain short? rest) := by
  rw [readUntil?_cons noEscape, if_neg inside, if_pos itself]

theorem readUntil?_short {letter c : Char} (stands : short? letter = some c) (noCode : letter ≠ 'u')
    (noLongCode : letter ≠ 'U') (rest : List Char) :
    readUntil? closing plain short? ('\\' :: letter :: rest) =
      consRead (some c) (readUntil? closing plain short? rest) := by
  rw [readUntil?.eq_def]
  split
  · next same => cases same
  · next same => exact absurd (List.cons.inj (List.cons.inj same).2).1 noCode
  · next same => exact absurd (List.cons.inj (List.cons.inj same).2).1 noLongCode
  · next same =>
    cases same
    rw [stands]
  · next other same =>
    cases same
    exact absurd rfl (other letter rest rfl)

/-- If every character is read as it was written, then a whole text is. -/
theorem readUntil?_written {write : Char → List Char} (noEscape : closing ≠ '\\') {text : List Char}
    (reads : ∀ c ∈ text, ∀ rest, readUntil? closing plain short? (write c ++ rest) =
      consRead (some c) (readUntil? closing plain short? rest)) (rest : List Char) :
    readUntil? closing plain short? (text.flatMap write ++ closing :: rest) =
      some (text, rest) := by
  induction text with
  | nil => exact readUntil?_closing noEscape rest
  | cons c text ih =>
    rw [List.flatMap_cons, List.append_assoc, reads c List.mem_cons_self,
      ih fun other member => reads other (List.mem_cons_of_mem _ member)]
    rfl

end Reading

/-- The characters of an absolute IRI all stand for themselves. -/
theorem isIriChar_of_sound {value : String} (sound : isAbsoluteIri value = true) :
    ∀ c ∈ value.toList, isIriChar c = true := by
  intro c member
  have allowed := Bool.eq_false_iff.mp (isForbiddenInIri_eq_false sound c member)
  rw [isForbiddenInIri, ne_eq, Bool.or_eq_true, not_or, decide_eq_true_eq, Char.not_le] at allowed
  obtain ⟨above, unlisted⟩ := allowed
  rw [isIriChar, Bool.and_eq_true, decide_eq_true_eq, Bool.not_eq_true']
  exact ⟨above, Bool.eq_false_iff.mpr unlisted⟩

theorem readUntil?_iri {value : List Char} (iri : ∀ c ∈ value, isIriChar c = true)
    (rest : List Char) :
    readUntil? '>' isIriChar (fun _ => none) (value ++ '>' :: rest) = some (value, rest) := by
  have reads : ∀ c ∈ value, ∀ rest,
      readUntil? '>' isIriChar (fun _ => none) ([c] ++ rest) =
        consRead (some c) (readUntil? '>' isIriChar (fun _ => none) rest) := by
    intro c member rest
    have itself := iri c member
    refine readUntil?_itself ?_ ?_ itself rest
    · rintro rfl
      exact absurd itself (by decide)
    · rintro rfl
      exact absurd itself (by decide)
  have written := readUntil?_written (by decide) reads rest
  rwa [List.flatMap_singleton'] at written

/-- A character of a literal stands for itself, or a letter stands for it. -/
theorem escapeLiteralChar_cases (c : Char) :
    isLiteralChar c = true ∧ escapeLiteralChar c = [c] ∨
      ∃ letter, shortEscape? letter = some c ∧ (letter ≠ 'u' ∧ letter ≠ 'U') ∧
        isLineEnd letter = false ∧ escapeLiteralChar c = ['\\', letter] := by
  rw [escapeLiteralChar]
  split
  · subst c
    exact .inr ⟨'n', rfl, by decide, by decide, rfl⟩
  split
  · subst c
    exact .inr ⟨'r', rfl, by decide, by decide, rfl⟩
  split
  · subst c
    exact .inr ⟨'"', rfl, by decide, by decide, rfl⟩
  split
  · subst c
    exact .inr ⟨'\\', rfl, by decide, by decide, rfl⟩
  · next noFeed noReturn noQuote noEscape =>
    refine .inl ⟨?_, rfl⟩
    simp [isLiteralChar, isLineEnd, noFeed, noReturn, noQuote, noEscape]

theorem readUntil?_literal (value rest : List Char) :
    readUntil? '"' isLiteralChar shortEscape? (value.flatMap escapeLiteralChar ++ '"' :: rest) =
      some (value, rest) := by
  refine readUntil?_written (by decide) (fun c _ rest => ?_) rest
  rcases escapeLiteralChar_cases c with ⟨itself, written⟩ | ⟨letter, stands, noCode, -, written⟩
  · rw [written]
    refine readUntil?_itself ?_ ?_ itself rest
    · rintro rfl
      exact absurd itself (by decide)
    · rintro rfl
      exact absurd itself (by decide)
  · rw [written]
    exact readUntil?_short stands noCode.1 noCode.2 rest

theorem nextToken?_iri {value : String} (sound : isAbsoluteIri value = true) (rest : List Char) :
    nextToken? '<' (value.toList ++ '>' :: rest) = some (.term (.iri value), rest) := by
  simp [nextToken?, readUntil?_iri (isIriChar_of_sound sound)]

theorem nextToken?_literal (value : String) (rest : List Char) :
    nextToken? '"' (value.toList.flatMap escapeLiteralChar ++ '"' :: rest) =
      some (.term (.literal value), rest) := by
  simp [nextToken?, readUntil?_literal]

/-! ## Tokens -/

theorem tokens?_blank {c : Char} (blank : isBlank c = true) (rest : List Char) :
    tokens? (c :: rest) = tokens? rest := by
  rw [tokens?, if_pos blank]

theorem tokens?_next {c : Char} {rest after : List Char} {token : Token}
    (solid : isBlank c = false) (noComment : c ≠ '#')
    (read : nextToken? c rest = some (token, after)) :
    tokens? (c :: rest) = (tokens? after).map (token :: ·) := by
  rw [tokens?, if_neg (by simp [solid]), if_neg noComment]
  split
  · next failed =>
    rw [read] at failed
    cases failed
  · next found =>
    rw [read] at found
    cases found
    rfl

/-- A term is read as it was written. -/
theorem tokens?_term {term : Term} (sound : term.isSound = true) (rest : List Char) :
    tokens? (writeTerm term ++ rest) = (tokens? rest).map (.term term :: ·) := by
  cases term with
  | iri value =>
    simp only [writeTerm, List.cons_append, List.append_assoc, List.nil_append]
    exact tokens?_next (by decide) (by decide) (nextToken?_iri sound rest)
  | literal value =>
    simp only [writeTerm, quoteLiteral, List.cons_append, List.append_assoc, List.nil_append]
    exact tokens?_next (by decide) (by decide) (nextToken?_literal value rest)

theorem tokens?_point (rest : List Char) :
    tokens? (' ' :: '.' :: rest) = (tokens? rest).map (.point :: ·) := by
  rw [tokens?_blank (by decide)]
  exact tokens?_next (by decide) (by decide) rfl

end Rdf

/-! ## Lines -/

namespace NTriples

open Rdf

theorem isLineEnd_of_isIriChar {c : Char} (iri : isIriChar c = true) : isLineEnd c = false := by
  rw [Bool.eq_false_iff]
  intro ending
  rw [isLineEnd, Bool.or_eq_true, beq_iff_eq, beq_iff_eq] at ending
  rcases ending with rfl | rfl
  · exact absurd iri (by decide)
  · exact absurd iri (by decide)

theorem noLineEnd_escaped (c : Char) :
    ∀ letter ∈ escapeLiteralChar c, isLineEnd letter = false := by
  rcases escapeLiteralChar_cases c with ⟨itself, written⟩ | ⟨letter, -, -, solid, written⟩
  · rw [isLiteralChar, Bool.and_eq_true, Bool.not_eq_true'] at itself
    rw [written]
    exact List.forall_mem_singleton.mpr itself.2
  · rw [written]
    exact List.forall_mem_cons.mpr ⟨by decide, List.forall_mem_singleton.mpr solid⟩

/-- A term is written on one line. -/
theorem noLineEnd_term {term : Term} (sound : term.isSound = true) :
    ∀ letter ∈ writeTerm term, isLineEnd letter = false := by
  intro letter member
  cases term with
  | iri value =>
    simp only [writeTerm, List.mem_cons, List.mem_append, List.not_mem_nil, or_false] at member
    rcases member with (rfl | inner) | rfl
    · decide
    · exact isLineEnd_of_isIriChar (isIriChar_of_sound sound letter inner)
    · decide
  | literal value =>
    simp only [writeTerm, quoteLiteral, List.mem_cons, List.mem_append, List.mem_flatMap,
      List.not_mem_nil, or_false] at member
    rcases member with (rfl | ⟨c, _, inner⟩) | rfl
    · decide
    · exact noLineEnd_escaped c letter inner
    · decide

/-- The line of a triple without its end. -/
def line (triple : Triple) : List Char :=
  writeTerm triple.subject ++ ' ' :: (writeTerm triple.predicate ++
    ' ' :: (writeTerm triple.object ++ [' ', '.']))

theorem writeTriple_append (triple : Triple) (rest : List Char) :
    writeTriple triple ++ rest = line triple ++ '\n' :: rest := by
  simp [writeTriple, line]

theorem noLineEnd_line {triple : Triple} (sound : triple.Sound) :
    ∀ letter ∈ line triple, isLineEnd letter = false := by
  intro letter member
  simp only [line, List.mem_append, List.mem_cons, List.not_mem_nil, or_false] at member
  rcases member with subject | rfl | predicate | rfl | object | rfl | rfl
  · exact noLineEnd_term sound.subject.2 letter subject
  · decide
  · exact noLineEnd_term sound.predicate.2 letter predicate
  · decide
  · exact noLineEnd_term sound.object letter object
  · decide
  · decide

theorem tokens?_line {triple : Triple} (sound : triple.Sound) :
    tokens? (line triple) =
      some [.term triple.subject, .term triple.predicate, .term triple.object, .point] := by
  have nothing : tokens? [] = some [] := by rw [tokens?]
  rw [line, tokens?_term sound.subject.2, tokens?_blank (by decide),
    tokens?_term sound.predicate.2, tokens?_blank (by decide), tokens?_term sound.object,
    tokens?_point, nothing]
  rfl

theorem ofTokens?_line {triple : Triple} (sound : triple.Sound) :
    ofTokens? [.term triple.subject, .term triple.predicate, .term triple.object, .point] =
      some [triple] := by
  obtain ⟨subject, predicate, object⟩ := triple
  obtain ⟨name, verb, rfl, rfl⟩ := sound.exists_iris
  rfl

/-- The first line is read by itself. -/
theorem read?_line {triple : Triple} (sound : triple.Sound) (rest : List Char) :
    read? (line triple ++ '\n' :: rest) = (read? rest).map (triple :: ·) := by
  rw [read?, List.splitOnP_append_cons_of_forall_mem (noLineEnd_line sound) '\n' rfl,
    List.mapM_cons, tokens?_line sound, Option.bind_some, ofTokens?_line sound, read?]
  cases (rest.splitOnP isLineEnd).mapM fun line => (tokens? line).bind ofTokens? <;> rfl

theorem read?_write {triples : List Triple} (sound : ∀ triple ∈ triples, triple.Sound) :
    read? (write triples) = some triples := by
  induction triples with
  | nil => 
    simp [write, read?, tokens?, ofTokens?]
  | cons triple rest ih =>
    have all := ih fun other member => sound other (List.mem_cons_of_mem _ member)
    rw [write] at all ⊢
    rw [List.flatMap_cons, writeTriple_append, read?_line (sound triple List.mem_cons_self), all]
    rfl

end NTriples

/-! ## Statements that go on -/

namespace Turtle

open Rdf

variable {progress : Progress} {subject predicate object : Term} {rest : List Char}

theorem readFrom?_blank {c : Char} (blank : isBlank c = true) :
    readFrom? progress (c :: rest) = readFrom? progress rest := by
  rw [readFrom?, tokens?_blank blank, readFrom?]

theorem readFrom?_term {term : Term} (sound : term.isSound = true) :
    readFrom? progress (writeTerm term ++ rest) =
      (tokens? rest).bind fun more => ofTokens? progress (.term term :: more) := by
  rw [readFrom?, tokens?_term sound, Option.bind_map]
  rfl

theorem readFrom?_mark {mark : Char} {token : Token} (solid : isBlank mark = false)
    (noComment : mark ≠ '#') (read : nextToken? mark rest = some (token, rest)) :
    readFrom? progress (mark :: rest) =
      (tokens? rest).bind fun more => ofTokens? progress (token :: more) := by
  rw [readFrom?, tokens?_next solid noComment read, Option.bind_map]
  rfl

/-- An object completes a triple. -/
theorem readFrom?_object (sound : object.isSound = true) :
    readFrom? (.predicate subject predicate) (writeTerm object ++ rest) =
      (readFrom? (.object subject predicate) rest).map (⟨subject, predicate, object⟩ :: ·) := by
  rw [readFrom?_term sound, readFrom?, Option.map_bind]
  rfl

theorem readFrom?_predicate (expected : progress = .subject subject ∨ progress = .semicolon subject)
    (sound : predicate.isIri = true ∧ predicate.isSound = true) :
    readFrom? progress (writeTerm predicate ++ ' ' :: rest) =
      readFrom? (.predicate subject predicate) rest := by
  rw [readFrom?_term sound.2, tokens?_blank (by decide), readFrom?]
  cases predicate with
  | literal value => exact absurd sound.1 (by simp [Term.isIri])
  | iri value => rcases expected with rfl | rfl <;> rfl

theorem readFrom?_subject (sound : subject.isIri = true ∧ subject.isSound = true) :
    readFrom? .nothing (writeTerm subject ++ ' ' :: rest) = readFrom? (.subject subject) rest := by
  rw [readFrom?_term sound.2, tokens?_blank (by decide), readFrom?]
  cases subject with
  | literal value => exact absurd sound.1 (by simp [Term.isIri])
  | iri value => rfl

/-- What is to be read after a triple. -/
def after (triple : Triple) : Progress := .object triple.subject triple.predicate

theorem readFrom?_writeFirst {triple : Triple} (sound : triple.Sound) :
    readFrom? .nothing (writeFirst triple ++ rest) =
      (readFrom? (after triple) rest).map (triple :: ·) := by
  simp only [writeFirst, List.append_assoc, List.cons_append]
  rw [readFrom?_subject sound.subject, readFrom?_predicate (.inl rfl) sound.predicate,
    readFrom?_object sound.object]
  rfl

/-- What a triple shares with the one before is repeated by the reader. -/
theorem readFrom?_writeNext {triple : Triple} (sound : triple.Sound) (previous : Triple) :
    readFrom? (after previous) (writeNext previous triple ++ rest) =
      (readFrom? (after triple) rest).map (triple :: ·) := by
  obtain ⟨subject, predicate, object⟩ := triple
  obtain ⟨subject', predicate', object'⟩ := previous
  rw [writeNext]
  split
  · next sameSubject =>
    obtain rfl : subject' = subject := sameSubject
    split
    · next samePredicate =>
      obtain rfl : predicate' = predicate := samePredicate
      simp only [List.cons_append, List.nil_append]
      rw [readFrom?_blank (by decide), readFrom?_mark (by decide) (by decide) rfl,
        tokens?_blank (by decide)]
      exact readFrom?_object sound.object
    · simp only [List.append_assoc, List.cons_append, List.nil_append]
      rw [readFrom?_blank (by decide), readFrom?_mark (by decide) (by decide) rfl,
        tokens?_blank (by decide), tokens?_blank (by decide)]
      exact (readFrom?_predicate (.inr rfl) sound.predicate).trans (readFrom?_object sound.object)
  · simp only [List.cons_append, List.nil_append]
    rw [readFrom?_blank (by decide), readFrom?_mark (by decide) (by decide) rfl,
      tokens?_blank (by decide)]
    exact readFrom?_writeFirst sound

theorem readFrom?_writeRest {triples : List Triple} (sound : ∀ triple ∈ triples, triple.Sound)
    (previous : Triple) :
    readFrom? (after previous) (writeRest previous triples) = some triples := by
  induction triples generalizing previous with
  | nil =>
    have nothing : tokens? [] = some [] := by rw [tokens?]
    rw [writeRest, readFrom?_blank (by decide), readFrom?_mark (by decide) (by decide) rfl,
      tokens?_blank (by decide), nothing]
    rfl
  | cons triple rest ih =>
    rw [writeRest, readFrom?_writeNext (sound triple List.mem_cons_self),
      ih fun other member => sound other (List.mem_cons_of_mem _ member)]
    rfl

theorem read?_write {triples : List Triple} (sound : ∀ triple ∈ triples, triple.Sound) :
    read? (write triples) = some triples := by
  cases triples with
  | nil =>
    have nothing : tokens? [] = some [] := by rw [tokens?]
    rw [write, read?, readFrom?, nothing]
    rfl
  | cons triple rest =>
    rw [write, read?, readFrom?_writeFirst (sound triple List.mem_cons_self),
      readFrom?_writeRest fun other member => sound other (List.mem_cons_of_mem _ member)]
    rfl

end Turtle

namespace Rdf

theorem triples_of_write {namespaces : Namespaces} {format : LinkedFormat} {pretty : Bool}
    {statements : List Statement} {text : String}
    (written : write namespaces format pretty statements = .ok text) :
    ∃ found, triples statements = .ok found := by
  cases accepted : triples statements with
  | ok found => exact ⟨found, rfl⟩
  | error fault =>
    rw [write, accepted] at written
    cases written

theorem toList_writeNTriples {namespaces : Namespaces} {pretty : Bool}
    {statements : List Statement} {found : List Triple} {text : String}
    (accepted : triples statements = .ok found)
    (written : write namespaces .nTriples pretty statements = .ok text) :
    text.toList = NTriples.write found := by
  rw [write, accepted] at written
  cases written
  exact String.toList_ofList

theorem toList_writeTurtle {namespaces : Namespaces} {pretty : Bool}
    {statements : List Statement} {found : List Triple} {text : String}
    (accepted : triples statements = .ok found)
    (written : write namespaces .turtle pretty statements = .ok text) :
    text.toList = Turtle.write found := by
  rw [write, accepted] at written
  cases written
  exact String.toList_ofList

theorem read_nTriples {namespaces : Namespaces} {pretty : Bool} {statements : List Statement}
    {text : String} (written : write namespaces .nTriples pretty statements = .ok text) :
    ∃ found, NTriples.read? text.toList = some found ∧
      found.map Triple.statement = firsts statements := by
  obtain ⟨found, accepted⟩ := triples_of_write written
  obtain ⟨same, sound⟩ := triples_eq_ok accepted
  exact ⟨found, by rw [toList_writeNTriples accepted written, NTriples.read?_write sound], same⟩

theorem read_turtle {namespaces : Namespaces} {pretty : Bool} {statements : List Statement}
    {text : String} (written : write namespaces .turtle pretty statements = .ok text) :
    ∃ found, Turtle.read? text.toList = some found ∧
      found.map Triple.statement = firsts statements := by
  obtain ⟨found, accepted⟩ := triples_of_write written
  obtain ⟨same, sound⟩ := triples_eq_ok accepted
  exact ⟨found, by rw [toList_writeTurtle accepted written, Turtle.read?_write sound], same⟩

/-- Statements that are written as N-Triples or as Turtle are read back: their first occurrences, in
order, term by term. So two lists with one text have the same first occurrences. -/
theorem nTriples_turtle_lossless (namespaces : Namespaces) (pretty : Bool)
    (statements : List Statement) :
    (∀ text, write namespaces .nTriples pretty statements = .ok text →
      ∃ found, NTriples.read? text.toList = some found ∧
        found.map Triple.statement = firsts statements) ∧
    (∀ text, write namespaces .turtle pretty statements = .ok text →
      ∃ found, Turtle.read? text.toList = some found ∧
        found.map Triple.statement = firsts statements) ∧
    ∀ format, format = .nTriples ∨ format = .turtle →
      ∀ text otherNamespaces otherPretty others,
        write namespaces format pretty statements = .ok text →
        write otherNamespaces format otherPretty others = .ok text →
        firsts statements = firsts others := by
  refine ⟨fun text => read_nTriples, fun text => read_turtle, ?_⟩
  rintro format (rfl | rfl) text otherNamespaces otherPretty others written alike
  · obtain ⟨found, read, same⟩ := read_nTriples written
    obtain ⟨found', read', same'⟩ := read_nTriples alike
    cases read.symm.trans read'
    rw [← same, same']
  · obtain ⟨found, read, same⟩ := read_turtle written
    obtain ⟨found', read', same'⟩ := read_turtle alike
    cases read.symm.trans read'
    rw [← same, same']

/-- Statements that share a subject, with every kind of character that is escaped. -/
def quotedStatements : List Statement :=
  [⟨[.iri "urn:a", .iri "urn:p", .literal "\"<a>\" \\\r\n\t."]⟩,
    ⟨[.iri "urn:a", .iri "urn:p", .iri "urn:b"]⟩]

theorem nTriples_quoted :
    write {} .nTriples true quotedStatements = .ok
      ("<urn:a> <urn:p> \"\\\"<a>\\\" \\\\\\r\\n\t.\" .\n" ++
        "<urn:a> <urn:p> <urn:b> .\n") := by
  rfl

theorem turtle_quoted :
    write {} .turtle true quotedStatements = .ok
      "<urn:a> <urn:p> \"\\\"<a>\\\" \\\\\\r\\n\t.\" , <urn:b> .\n" := by
  rfl

theorem nTriples_repeated :
    write {} .nTriples true (quotedStatements ++ quotedStatements) =
      write {} .nTriples true quotedStatements := by
  rfl

/-- Escaped literals and repeated statements are written and read back. -/
theorem nTriples_turtle_lossless_quoted :
    ∃ lines turtle,
      write {} .nTriples true quotedStatements = .ok lines ∧
      write {} .turtle true quotedStatements = .ok turtle ∧
      write {} .nTriples true (quotedStatements ++ quotedStatements) = .ok lines ∧
      (∃ found, NTriples.read? lines.toList = some found ∧
        found.map Triple.statement = firsts quotedStatements) ∧
      (∃ found, Turtle.read? turtle.toList = some found ∧
        found.map Triple.statement = firsts quotedStatements) ∧
      firsts quotedStatements = firsts (quotedStatements ++ quotedStatements) := by
  obtain ⟨lines, turtle, same⟩ := nTriples_turtle_lossless {} true quotedStatements
  exact ⟨_, _, nTriples_quoted, turtle_quoted, nTriples_repeated.trans nTriples_quoted,
    lines _ nTriples_quoted, turtle _ turtle_quoted,
    same _ (.inl rfl) _ {} true _ nTriples_quoted (nTriples_repeated.trans nTriples_quoted)⟩

end Rdf

end AnswerGraph
