import AnswerGraph.Configuration.Check
import AnswerGraph.Proofs.UrlAppend

/-!
Identifiers that are made up from a base and a number. A configuration is accepted if its bases are
absolute URLs; whether the identifiers can be written is up to the characters of a base, and to what
its end makes of the digits.
-/

namespace AnswerGraph

/-- The digits of a number. -/
def numeral (number : Nat) : List Char :=
  (toString number).toList

theorem numeral_eq (number : Nat) : numeral number = Nat.toDigits 10 number :=
  Nat.toList_repr

theorem isDigit_of_mem_numeral {number : Nat} {c : Char} (member : c ∈ numeral number) :
    c.isDigit = true := by
  rw [numeral_eq] at member
  exact Nat.isDigit_of_mem_toDigits (by decide) (by decide) member

theorem numeral_ne_nil (number : Nat) : numeral number ≠ [] := by
  rw [numeral_eq]
  exact Nat.toDigits_ne_nil

/-- Behind one base, different numbers give different identifiers. -/
theorem append_number_injective {base : String} {first second : Nat}
    (same : base ++ toString first = base ++ toString second) : first = second := by
  have digits : numeral first = numeral second :=
    congrArg String.toList ((String.append_right_inj base).mp same)
  have values := congrArg (Nat.ofDigitChars 10 · 0) digits
  simpa only [numeral_eq, Nat.ofDigitChars_ten_toDigits] using values

/-- Whether a number may be appended to a base: nothing in the base has to be escaped, and it does
not end in a port or host that the digits would spoil. -/
def takesNumber (base : String) (number : Nat) : Bool :=
  !base.toList.any isForbiddenInIri && (Url.ending base.toList).takes (numeral number)

theorem isForbiddenInIri_digit {c : Char} (digit : c.isDigit = true) :
    isForbiddenInIri c = false := by
  have solid : ¬ c ≤ ' ' := by
    intro low
    have above := Url.toNat_digit digit
    have below : c.toNat ≤ 32 := low
    omega
  have unlisted : c ∉ "<>\"\x7b\x7d|^`\\".toList := Url.unlisted_of_isDigit rfl digit
  simp only [isForbiddenInIri, List.contains_eq_mem, unlisted, solid, decide_false, Bool.or_false]

/-- The identifier of a number is an IRI if the base takes the number. -/
theorem isAbsoluteIri_append_number {base : String}
    (accepted : (Url.ofText? base.toList).isSome = true) (number : Nat) :
    isAbsoluteIri (base ++ toString number) = takesNumber base number := by
  have digits : ∀ c ∈ numeral number, c.isDigit = true := fun c => isDigit_of_mem_numeral
  have allowed : (numeral number).any isForbiddenInIri = false := by
    simpa using fun c member => isForbiddenInIri_digit (digits c member)
  have text : (base ++ toString number).toList = base.toList ++ numeral number :=
    String.toList_append
  rw [isAbsoluteIri, takesNumber, text, List.any_append, allowed, Bool.or_false]
  cases written : base.toList.any isForbiddenInIri with
  | true => rfl
  | false =>
    have free : ∀ c ∈ base.toList, isForbiddenInIri c = false := by simpa using written
    rw [Url.ofText?_append_digits digits accepted free (numeral_ne_nil number)]

/-- A port does not take every number. -/
theorem Url.not_takes_port (digits : List Char) :
    (Ending.port digits).takes (numeral 65536) = false := by
  have five : numeral 65536 = ['6', '5', '5', '3', '6'] := by decide
  have values : hexValue '6' = 6 ∧ hexValue '5' = 5 ∧ hexValue '3' = 3 := by decide
  have large : 65535 < valueIn 10 (digits ++ numeral 65536) := by
    simp only [five, valueIn, List.foldl_append, List.foldl_cons, List.foldl_nil, values]
    omega
  simpa [Ending.takes] using large

/-- The bases to which all numbers can be appended. -/
theorem takesNumber_all_iff (base : String) :
    (∀ number, takesNumber base number = true) ↔
      (∀ c ∈ base.toList, isForbiddenInIri c = false) ∧
        (Url.ending base.toList = .free ∨
          ∃ host, Url.ending base.toList = .host host ∧
            ∀ number, Url.isWebHost (host ++ numeral number) = true) := by
  simp only [takesNumber, Bool.and_eq_true, Bool.not_eq_true', List.any_eq_false, Bool.not_eq_true]
  constructor
  · intro all
    refine ⟨(all 0).1, ?_⟩
    cases ends : Url.ending base.toList with
    | free => exact .inl rfl
    | port digits =>
      have fits := (all 65536).2
      rw [ends, Url.not_takes_port] at fits
      cases fits
    | host name =>
      refine .inr ⟨name, rfl, fun number => ?_⟩
      have fits := (all number).2
      rw [ends] at fits
      exact fits
    | brackets =>
      have fits := (all 0).2
      rw [ends] at fits
      cases fits
  · rintro ⟨written, free | ⟨host, named, taken⟩⟩ number
    · exact ⟨written, by rw [free]; rfl⟩
    · exact ⟨written, by rw [named]; exact taken number⟩

/-- A statement is refused for a malformed IRI only if it has an IRI that is not absolute. -/
theorem Statement.exists_malformed {statement : Statement}
    (refused : statement.problem? = some .malformedIri) :
    ∃ iri, Term.iri iri ∈ statement.terms ∧ isAbsoluteIri iri = false := by
  obtain ⟨terms⟩ := statement
  match terms with
  | [] | [_] | [_, _] | _ :: _ :: _ :: _ :: _ =>
    simp [Statement.problem?, Statement.triple?] at refused
  | [subject, predicate, object] =>
    have unsound {term : Term} (fails : term.isSound = false) :
        ∃ iri, term = .iri iri ∧ isAbsoluteIri iri = false := by
      cases term with
      | iri value => exact ⟨value, rfl, fails⟩
      | literal value => cases fails
    have some : ∃ term ∈ [subject, predicate, object], term.isSound = false := by
      by_contra none
      simp only [not_exists, not_and, Bool.not_eq_false] at none
      have first := none subject (by simp)
      have second := none predicate (by simp)
      have third := none object (by simp)
      simp only [Statement.problem?, Statement.triple?, first, second, third, Bool.and_self,
        if_true] at refused
      split at refused
      · cases refused
      · split at refused <;> cases refused
    obtain ⟨term, member, fails⟩ := some
    obtain ⟨iri, rfl, malformed⟩ := unsound fails
    exact ⟨iri, member, malformed⟩

namespace Configuration

variable {configuration : Configuration}

theorem of_checkBase {field base : String} (accepted : checkBase field base = .ok ()) :
    (Url.ofText? base.toList).isSome = true := by
  cases found : Url.ofText? base.toList with
  | none =>
    rw [checkBase, found] at accepted
    cases accepted
  | some url => rfl

/-- The checks of identifiers that an accepted configuration has passed. -/
theorem checks_of_check (accepted : configuration.check = .ok ()) :
    checkBase "identifiers.variable_base" configuration.identifiers.variableBase = .ok () ∧
      checkBase "identifiers.subject_base" configuration.identifiers.subjectBase = .ok () ∧
      configuration.identifiers.variableBase ≠ configuration.identifiers.subjectBase := by
  rw [check] at accepted
  cases named : Text.isAllBlank configuration.name.toList with
  | true =>
    simp only [named] at accepted
    cases accepted
  | false =>
    cases first : checkBase "identifiers.variable_base" configuration.identifiers.variableBase with
    | error fault =>
      simp only [named, first] at accepted
      cases accepted
    | ok =>
      cases second : checkBase "identifiers.subject_base" configuration.identifiers.subjectBase with
      | error fault =>
        simp only [named, first, second] at accepted
        cases accepted
      | ok =>
        refine ⟨rfl, rfl, fun same => ?_⟩
        simp only [named, first, second] at accepted
        rw [if_pos same] at accepted
        cases accepted

theorem bases_of_check (accepted : configuration.check = .ok ()) :
    (Url.ofText? configuration.identifiers.variableBase.toList).isSome = true ∧
      (Url.ofText? configuration.identifiers.subjectBase.toList).isSome = true := by
  obtain ⟨first, second, -⟩ := checks_of_check accepted
  exact ⟨of_checkBase first, of_checkBase second⟩

/-- The identifiers of an accepted configuration can be written exactly as far as its bases take
their numbers. So it is not for them that statements are refused, unless a base does not take a
number. -/
theorem identifiers_writable (accepted : configuration.check = .ok ()) :
    let bases := configuration.identifiers
    (∀ table : Variables, table.base = bases.variableBase → ∀ rank,
        isAbsoluteIri (table.iriAt rank) = takesNumber bases.variableBase rank) ∧
      (∀ minter : Minter, minter.base = bases.subjectBase →
        isAbsoluteIri minter.mint.1 = takesNumber bases.subjectBase minter.count) ∧
      ∀ statement : Statement, statement.problem? = some .malformedIri →
        ∃ iri, Term.iri iri ∈ statement.terms ∧ isAbsoluteIri iri = false ∧
          ∀ base ∈ [bases.variableBase, bases.subjectBase], ∀ number,
            iri = base ++ toString number → takesNumber base number = false := by
  intro bases
  obtain ⟨variableBase, subjectBase⟩ := bases_of_check accepted
  refine ⟨fun table same rank => ?_, fun minter same => ?_, fun statement refused => ?_⟩
  · rw [Variables.iriAt, same]
    exact isAbsoluteIri_append_number variableBase rank
  · rw [Minter.mint, Minter.iriAt, same]
    exact isAbsoluteIri_append_number subjectBase minter.count
  · obtain ⟨iri, member, malformed⟩ := Statement.exists_malformed refused
    refine ⟨iri, member, malformed, fun base listed number made => ?_⟩
    have absolute : (Url.ofText? base.toList).isSome = true := by
      simp only [List.mem_cons, List.not_mem_nil, or_false] at listed
      rcases listed with rfl | rfl
      · exact variableBase
      · exact subjectBase
    rw [← isAbsoluteIri_append_number absolute, ← made, malformed]

/-- A base that ends in a port. -/
def onPort : Configuration :=
  { identifiers :=
      { variableBase := "http://[::1]/variable/", subjectBase := "http://[::1]:8080" } }

/-- With that configuration, the variables can be written and the first subject cannot. -/
theorem identifiers_writable_on_port :
    onPort.check = .ok () ∧
      isAbsoluteIri (Variables.iriAt { base := onPort.identifiers.variableBase } 0) = true ∧
      isAbsoluteIri (Minter.mint { base := onPort.identifiers.subjectBase }).1 = false := by
  have accepted : onPort.check = .ok () := rfl
  obtain ⟨variableIris, subjectIris, -⟩ := identifiers_writable accepted
  refine ⟨accepted, (variableIris _ rfl 0).trans ?_, (subjectIris _ rfl).trans ?_⟩
  · decide +kernel
  · decide +kernel

/-- The number of the first subject has become a digit of the port, and so a statement about it
cannot be written. -/
theorem subject_unwritable_on_port :
    onPort.check = .ok () ∧
      (Minter.mint { base := onPort.identifiers.subjectBase }).1 = "http://[::1]:80800" ∧
      isAbsoluteIri "http://[::1]:80800" = false ∧
      Statement.problem? ⟨[.iri "http://[::1]:80800", .iri Vocabulary.rdfsLabel,
        .literal "part"]⟩ = some .malformedIri := by
  refine ⟨rfl, rfl, ?_, ?_⟩
  · decide +kernel
  · decide +kernel

end Configuration

end AnswerGraph
