/-!
Lists of entries that are sorted by their keys, each key at most once.
-/

namespace AnswerGraph.Keyed

/-- Puts an entry in its place among sorted entries; an entry of the same key is replaced. -/
def insert (key : String) (value : α) : List (String × α) → List (String × α)
  | [] => [(key, value)]
  | (first, old) :: rest =>
    if key = first then (key, value) :: rest
    else if key < first then (key, value) :: (first, old) :: rest
    else (first, old) :: insert key value rest

/-- The sorted entries of a list; of two with one key the later counts. -/
def ofList (entries : List (String × α)) : List (String × α) :=
  entries.foldl (fun sorted (key, value) => insert key value sorted) []

def erase (key : String) (entries : List (String × α)) : List (String × α) :=
  entries.filter (·.1 != key)

theorem lookup_insert (key : String) (value : α) (entries : List (String × α)) :
    (insert key value entries).lookup key = some value := by
  fun_induction insert with
  | case1 => simp
  | case2 => simp
  | case3 => simp
  | case4 first old rest different _ ih =>
    simp [List.lookup_cons, beq_eq_false_iff_ne.mpr different, ih]

theorem lookup_insert_of_ne {key other : String} (value : α) (entries : List (String × α))
    (different : other ≠ key) : (insert key value entries).lookup other = entries.lookup other := by
  fun_induction insert with
  | case1 => simp [different]
  | case2 => simp [List.lookup_cons, beq_eq_false_iff_ne.mpr different]
  | case3 => simp [List.lookup_cons, beq_eq_false_iff_ne.mpr different]
  | case4 first old rest _ _ ih => simp [List.lookup_cons, ih]

end AnswerGraph.Keyed
