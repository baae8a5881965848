import AnswerGraph.Proofs.JsonLdReader
import AnswerGraph.Proofs.Keyed
import AnswerGraph.Proofs.RdfCheck
import AnswerGraph.Proofs.TextSearch

/-!
What the identifiers of a JSON-LD document stand for. An IRI is written in full or shortened by a
prefix, and either way what is before its first colon is looked up among the prefixes again.
-/

namespace AnswerGraph

/-! ## Prefixes -/

namespace Prefixes

variable {prefixes : Prefixes} {iri : String}

theorem distinct_declare (distinct : (prefixes.map (·.1)).Nodup) (namePrefix root : String) :
    ((prefixes.declare namePrefix root).map (·.1)).Nodup := by
  rw [declare, List.map_append, List.nodup_append]
  exact ⟨distinct.sublist (List.filter_sublist.map _), by simp, by simp⟩

/-- What holds of the standard prefixes and of every declaration of one more holds of all. -/
theorem ofNamespaces_induction {motive : Prefixes → Prop} (namespaces : Namespaces)
    (start : motive standard)
    (declared : ∀ prefixes, motive prefixes → ∀ entry ∈ namespaces.entries,
      motive (prefixes.declare entry.1 entry.2)) : motive (ofNamespaces namespaces) :=
  List.foldlRecOn namespaces.entries _ start declared

theorem distinct_ofNamespaces (namespaces : Namespaces) :
    ((ofNamespaces namespaces).map (·.1)).Nodup :=
  ofNamespaces_induction (motive := fun prefixes => (prefixes.map (·.1)).Nodup) namespaces
    (by decide) fun _ distinct entry _ => distinct_declare distinct entry.1 entry.2

/-- A prefix is a standard one or declared. -/
theorem mem_ofNamespaces {namespaces : Namespaces} {entry : String × String} :
    entry ∈ ofNamespaces namespaces → entry ∈ standard ∨ entry ∈ namespaces.entries := by
  refine ofNamespaces_induction
    (motive := fun prefixes => entry ∈ prefixes → entry ∈ standard ∨ entry ∈ namespaces.entries)
    namespaces .inl fun prefixes ih added member listed => ?_
  rcases List.mem_append.mp listed with kept | new
  · exact ih (List.mem_filter.mp kept).1
  · obtain rfl := List.mem_singleton.mp new
    exact .inr member

/-- A root that shortens an IRI ends in a delimiter and is followed by something. -/
theorem of_rest? {root : String} {rest : List Char} (found : rest? root iri = some rest) :
    root.toList.getLast?.any isDelimiter = true ∧ iri.toList = root.toList ++ rest ∧
      rest ≠ [] := by
  rw [rest?] at found
  split at found
  · next delimited =>
    cases dropped : Text.dropPrefix? root.toList iri.toList with
    | none =>
      rw [dropped] at found
      cases found
    | some more =>
      cases more with
      | nil =>
        rw [dropped] at found
        cases found
      | cons c more =>
        rw [dropped] at found
        cases found
        exact ⟨delimited, Text.dropPrefix?_eq_some.mp dropped, by simp⟩
  · cases found

theorem of_best? {found : String × String} (best : best? iri prefixes = some found) :
    found ∈ prefixes ∧ ∃ rest, rest? found.2 iri = some rest := by
  induction prefixes generalizing found with
  | nil => cases best
  | cons first others ih =>
    obtain ⟨namePrefix, root⟩ := first
    cases here : rest? root iri with
    | none =>
      cases later : best? iri others <;> rw [best?, here, later] at best
      · cases best
      · obtain ⟨member, shortens⟩ := ih (later.trans best)
        exact ⟨List.mem_cons_of_mem _ member, shortens⟩
    | some rest =>
      cases later : best? iri others with
      | none =>
        rw [best?, here, later] at best
        cases best
        exact ⟨List.mem_cons_self, rest, here⟩
      | some other =>
        obtain ⟨member, shortens⟩ := ih later
        simp only [best?, here, later] at best
        split at best <;> cases best
        · exact ⟨List.mem_cons_self, rest, here⟩
        · exact ⟨List.mem_cons_of_mem _ member, shortens⟩

/-- An IRI is written in full, or shortened by a prefix. -/
theorem compact_cases (prefixes : Prefixes) (iri : String) :
    prefixes.best? iri = none ∧ prefixes.compact iri = iri ∨
      ∃ namePrefix root rest, prefixes.best? iri = some (namePrefix, root) ∧
        (namePrefix, root) ∈ prefixes ∧ root.toList.getLast?.any isDelimiter = true ∧
        iri.toList = root.toList ++ rest ∧
        (prefixes.compact iri).toList = namePrefix.toList ++ ':' :: rest := by
  cases best : prefixes.best? iri with
  | none => exact .inl ⟨rfl, by rw [compact, best]⟩
  | some found =>
    obtain ⟨namePrefix, root⟩ := found
    obtain ⟨member, rest, shortens⟩ := of_best? best
    obtain ⟨delimited, whole, -⟩ := of_rest? shortens
    refine .inr ⟨namePrefix, root, rest, rfl, member, delimited, whole, ?_⟩
    rw [compact, best]
    simp only [shortens]
    simp

end Prefixes

namespace JsonLd

open Prefixes

/-! ## Expansion -/

variable {prefixes : Prefixes}

theorem expand_of_colon (context : List (String × String)) {text : String} {front rest : List Char}
    (split : text.toList = front ++ ':' :: rest) (solid : ':' ∉ front) :
    expand context text =
      if isLiteralIri front rest then text
      else
        match context.lookup (String.ofList front) with
        | some root => if endsInDelim root then root ++ String.ofList rest else text
        | none => text := by
  have found : Text.cutAtChar? ':' text.toList = some (front, rest) := by
    rw [split, Text.cutAtChar?_eq_some solid]
  unfold expand
  generalize Text.cutAtChar? ':' text.toList = cut at found ⊢
  subst found
  rfl

theorem expand_congr {first second : List (String × String)}
    (same : ∀ key, first.lookup key = second.lookup key) (text : String) :
    expand first text = expand second text := by
  simp only [expand, same]

theorem expand_of_mem (distinct : (prefixes.map (·.1)).Nodup) {text namePrefix root : String}
    {rest : List Char} (split : text.toList = namePrefix.toList ++ ':' :: rest)
    (solid : ':' ∉ namePrefix.toList) (member : (namePrefix, root) ∈ prefixes)
    (delimited : endsInDelim root = true) :
    expand prefixes text =
      if isLiteralIri namePrefix.toList rest then text else root ++ String.ofList rest := by
  have found := Keyed.lookup_of_mem_distinct distinct member
  rw [expand_of_colon prefixes split solid, String.ofList_toList, found]
  simp only [delimited, if_true]

/-! ## Full IRIs -/

/-- What is before the first colon of an IRI is not the name of another root. -/
def KeepsFull (prefixes : Prefixes) (iri : String) : Prop :=
  ∀ namePrefix root rest, (namePrefix, root) ∈ prefixes → endsInDelim root = true →
    iri.toList = namePrefix.toList ++ ':' :: rest → ':' ∉ namePrefix.toList →
    isLiteralIri namePrefix.toList rest = false → root = namePrefix ++ ":"

theorem append_rest_eq_iff {text namePrefix root : String} {rest : List Char}
    (split : text.toList = namePrefix.toList ++ ':' :: rest) :
    root ++ String.ofList rest = text ↔ root = namePrefix ++ ":" := by
  have colon : namePrefix.toList ++ ':' :: rest = (namePrefix.toList ++ [':']) ++ rest := by simp
  rw [← String.toList_inj, ← String.toList_inj, split, colon, String.toList_append,
    String.toList_ofList, List.append_left_inj, String.toList_append]
  rfl

theorem expand_full_iff (distinct : (prefixes.map (·.1)).Nodup) (iri : String) :
    expand prefixes iri = iri ↔ KeepsFull prefixes iri := by
  constructor
  · intro same namePrefix root rest member delimited split solid plain
    rw [expand_of_mem distinct split solid member delimited, plain] at same
    exact (append_rest_eq_iff split).mp same
  · intro keeps
    by_cases colon : ':' ∈ iri.toList
    · obtain ⟨front, rest, split, solid⟩ := List.eq_append_cons_of_mem colon
      obtain ⟨name, rfl⟩ : ∃ name : String, front = name.toList := ⟨String.ofList front, by simp⟩
      rw [expand_of_colon prefixes split solid, String.ofList_toList]
      split
      · rfl
      next plain =>
      split
      · next root found =>
        split
        · next delimited =>
          exact (append_rest_eq_iff split).mpr (keeps name root rest (Keyed.mem_of_lookup found)
            delimited split solid (by simpa using plain))
        · rfl
      · rfl
    · rw [expand, Text.cutAtChar?_eq_none colon]

/-! ## Shortened IRIs -/

/-- A shortened IRI does not look like a full one, and one that cannot be shortened keeps its
meaning in full. -/
def KeepsShort (prefixes : Prefixes) (iri : String) : Prop :=
  match prefixes.best? iri with
  | none => KeepsFull prefixes iri
  | some (namePrefix, root) =>
    isLiteralIri namePrefix.toList (iri.toList.drop root.toList.length) = true →
      root = namePrefix ++ ":"

theorem expand_compact_iff (distinct : (prefixes.map (·.1)).Nodup)
    (solid : ∀ entry ∈ prefixes, ':' ∉ entry.1.toList) (iri : String) :
    expand prefixes (prefixes.compact iri) = iri ↔ KeepsShort prefixes iri := by
  rcases compact_cases prefixes iri with ⟨best, same⟩ |
      ⟨namePrefix, root, rest, best, member, delimited, whole, short⟩
  · rw [same, expand_full_iff distinct, KeepsShort, best]
  · rw [expand_of_mem distinct short (solid _ member) member delimited, KeepsShort, best, whole]
    have back : iri = root ++ String.ofList rest := String.toList_inj.mp (by simp [whole])
    simp only [List.drop_left]
    cases isLiteralIri namePrefix.toList rest with
    | false => simp [back]
    | true =>
      simp only [if_true, true_implies, ← append_rest_eq_iff short, ← back]
      exact eq_comm

/-! ## Triples -/

/-- What a triple stands for once it is written and its identifiers are expanded. -/
def expanded (prefixes : Prefixes) (triple : Triple) : Triple :=
  let read (text : String) : Term := .iri (expand prefixes text)
  match triple.object with
  | .iri value =>
    if triple.predicate.text = Vocabulary.rdfType then
      ⟨read triple.subject.text, .iri Vocabulary.rdfType, read (prefixes.compact value)⟩
    else ⟨read triple.subject.text, read (prefixes.compact triple.predicate.text), read value⟩
  | .literal value =>
    ⟨read triple.subject.text, read (prefixes.compact triple.predicate.text), .literal value⟩

/-- Every IRI of a triple keeps its meaning in the place where it is written. -/
def Keeps (prefixes : Prefixes) (triple : Triple) : Prop :=
  KeepsFull prefixes triple.subject.text ∧
    match triple.object with
    | .iri value =>
      if triple.predicate.text = Vocabulary.rdfType then KeepsShort prefixes value
      else KeepsShort prefixes triple.predicate.text ∧ KeepsFull prefixes value
    | .literal _ => KeepsShort prefixes triple.predicate.text

theorem expanded_eq_iff (distinct : (prefixes.map (·.1)).Nodup)
    (solid : ∀ entry ∈ prefixes, ':' ∉ entry.1.toList) {triple : Triple} (sound : triple.Sound) :
    expanded prefixes triple = triple ↔ Keeps prefixes triple := by
  obtain ⟨subject, predicate, object⟩ := triple
  obtain ⟨name, verb, rfl, rfl⟩ := sound.exists_iris
  cases object with
  | literal value =>
    simp [expanded, Keeps, Term.text, expand_full_iff distinct, expand_compact_iff distinct solid]
  | iri value =>
    by_cases type : verb = Vocabulary.rdfType <;>
      simp [expanded, Keeps, Term.text, type, expand_full_iff distinct,
        expand_compact_iff distinct solid]

end JsonLd

end AnswerGraph
