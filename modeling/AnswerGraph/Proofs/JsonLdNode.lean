import AnswerGraph.Proofs.JsonLdReader
import AnswerGraph.Proofs.Keyed
import AnswerGraph.Rdf.JsonLd

/-!
What a node of a JSON-LD document holds: under every key the values that were added to it, in their
order, alone if there is one and in an array if there are several.
-/

namespace AnswerGraph

namespace JsonLd

/-- A value that is no array, so that it can stand alone. -/
def IsItem (value : Json) : Prop :=
  ∀ items, value ≠ .array items

/-- What is kept of the values under a key. -/
def kept : List Json → Option Json
  | [] => none
  | [value] => some value
  | values => some (.array values)

/-- The values that are added under a key. -/
def valuesAt (added : List (String × Json)) (key : String) : List Json :=
  (added.filter (·.1 = key)).map (·.2)

/-- The values are found again in what is kept of them. -/
theorem valuesOf_kept {values : List Json} (items : ∀ value ∈ values, IsItem value)
    {value : Json} (found : kept values = some value) : valuesOf value = values := by
  match values with
  | [] => cases found
  | [single] =>
    cases found
    have item := items value List.mem_cons_self
    cases value with
    | array inner => exact absurd rfl (item inner)
    | null | bool | number | string | object => rfl
  | first :: second :: rest =>
    cases found
    rfl

section Members

variable {members added : List (String × Json)} {key : String} {value : Json} {values : List Json}

/-- A value is added after those that are kept. -/
theorem lookup_addProperty (items : ∀ value ∈ values, IsItem value)
    (before : members.lookup key = kept values) :
    (addProperty members key value).lookup key = kept (values ++ [value]) := by
  match values with
  | [] =>
    rw [kept] at before
    simp only [addProperty, before, Keyed.lookup_insert]
    rfl
  | [single] =>
    rw [kept] at before
    have item := items single List.mem_cons_self
    cases single with
    | array inner => exact absurd rfl (item inner)
    | null | bool | number | string | object =>
      simp only [addProperty, before, Keyed.lookup_insert]
      rfl
  | first :: second :: rest =>
    have several : kept (first :: second :: rest) = some (.array (first :: second :: rest)) := rfl
    rw [several] at before
    simp only [addProperty, before, Keyed.lookup_insert]
    rfl

theorem lookup_addProperty_of_ne {other : String} (different : other ≠ key) :
    (addProperty members key value).lookup other = members.lookup other := by
  unfold addProperty
  split <;> exact Keyed.lookup_insert_of_ne _ _ different

theorem sorted_addProperty (sorted : Keyed.Sorted members) :
    Keyed.Sorted (addProperty members key value) := by
  unfold addProperty
  split <;> exact Keyed.sorted_insert sorted

/-- Adds values under their keys, one after the other. -/
def addAll (added members : List (String × Json)) : List (String × Json) :=
  added.foldl (fun members (key, value) => addProperty members key value) members

theorem sorted_addAll (sorted : Keyed.Sorted members) : Keyed.Sorted (addAll added members) := by
  induction added generalizing members with
  | nil => exact sorted
  | cons entry rest ih => exact ih (sorted_addProperty sorted)

/-- Under a key is what is kept of the values that were there and of those that were added. -/
theorem lookup_addAll (items : ∀ value ∈ values ++ valuesAt added key, IsItem value)
    (before : members.lookup key = kept values) :
    (addAll added members).lookup key = kept (values ++ valuesAt added key) := by
  induction added generalizing members values with
  | nil => simpa [valuesAt, addAll] using before
  | cons entry rest ih =>
    obtain ⟨other, value⟩ := entry
    by_cases same : other = key
    · subst other
      have onward : values ++ valuesAt ((key, value) :: rest) key =
          (values ++ [value]) ++ valuesAt rest key := by
        simp [valuesAt]
      rw [onward] at items ⊢
      have early : ∀ value ∈ values, IsItem value := fun value member =>
        items value (List.mem_append_left _ (List.mem_append_left _ member))
      exact ih items (lookup_addProperty early before)
    · have onward : valuesAt ((other, value) :: rest) key = valuesAt rest key := by
        simp [valuesAt, same]
      rw [onward] at items ⊢
      refine ih items ?_
      rw [lookup_addProperty_of_ne (Ne.symm same), before]

end Members

end JsonLd

end AnswerGraph
