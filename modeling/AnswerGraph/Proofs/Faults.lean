/-!
Readers that stop at their first fault, described by all their faults. A reader that is
`unlessFaulty value faults` on every part of its input is so on the whole input, with the faults of
the parts in order.
-/

namespace AnswerGraph

/-- A value, unless there are faults; then the first of them. -/
def unlessFaulty (value : α) : List ε → Except ε α
  | [] => .ok value
  | fault :: _ => .error fault

theorem exists_ok_iff {result : Except ε α} : (∃ value, result = .ok value) ↔ result.isOk = true := by
  cases result <;> simp [Except.isOk, Except.toBool]

theorem unlessFaulty_bind (value : α) (faults : List ε) (next : α → β) (more : α → List ε) :
    (unlessFaulty value faults >>= fun found => unlessFaulty (next found) (more found)) =
      unlessFaulty (next value) (faults ++ more value) := by
  cases faults <;> rfl

theorem unlessFaulty_map (value : α) (faults : List ε) (next : α → β) :
    (unlessFaulty value faults >>= fun found => .ok (next found)) =
      unlessFaulty (next value) faults := by
  cases faults <;> rfl

/-- Reading every member of a list, when each read has faults and a value of its own. -/
theorem mapM_eq_unlessFaulty {read : α → Except ε β} {value : α → β} {faults : α → List ε}
    (reads : ∀ member, read member = unlessFaulty (value member) (faults member))
    (members : List α) :
    members.mapM read = unlessFaulty (members.map value) (members.flatMap faults) := by
  induction members with
  | nil => rfl
  | cons member rest ih =>
    rw [List.mapM_cons, reads, ih]
    simp only [pure, Except.pure, unlessFaulty_map]
    exact unlessFaulty_bind (value member) (faults member) (· :: rest.map value)
      fun _ => rest.flatMap faults

/-- The fault of a read. -/
def fault? : Except ε α → Option ε
  | .error fault => some fault
  | .ok _ => none

/-- Reading every member of a list, each with a value or a fault. -/
theorem mapM_eq_unlessFaulty_filterMap (read : α → Except ε β) (members : List α) :
    members.mapM read = unlessFaulty (members.filterMap fun member => (read member).toOption)
      (members.filterMap fun member => fault? (read member)) := by
  induction members with
  | nil => rfl
  | cons member rest ih =>
    rw [List.mapM_cons, ih]
    cases found : read member with
    | error fault =>
      simp [found, fault?, unlessFaulty, bind, Except.bind]
    | ok value =>
      simp only [List.filterMap_cons, found, fault?, Except.toOption]
      exact unlessFaulty_map _ _ (value :: ·)

/-- A value that is put into another has the faults that it had. -/
theorem bind_pure_eq_error_iff {result : Except ε α} {next : α → β} {fault : ε} :
    (result >>= fun value => pure (next value)) = .error fault ↔ result = .error fault := by
  cases result <;> simp [bind, Except.bind, pure, Except.pure]

theorem exists_bind_pure_ok_iff {result : Except ε α} {next : α → β} :
    (∃ last, (result >>= fun value => pure (next value)) = .ok last) ↔
      ∃ value, result = .ok value := by
  cases result <;> simp [bind, Except.bind, pure, Except.pure]

theorem fault?_eq_some_iff {result : Except ε α} {fault : ε} :
    fault? result = some fault ↔ result = .error fault := by
  cases result <;> simp [fault?]

theorem fault?_eq_none_iff {result : Except ε α} :
    fault? result = none ↔ ∃ value, result = .ok value := by
  cases result <;> simp [fault?]

theorem unlessFaulty_eq_error_iff {value : α} {faults : List ε} {fault : ε} :
    unlessFaulty value faults = .error fault ↔ faults.head? = some fault := by
  cases faults <;> simp [unlessFaulty]

theorem eq_of_unlessFaulty_eq_ok {value found : α} {faults : List ε}
    (read : unlessFaulty value faults = .ok found) : found = value := by
  cases faults with
  | nil => exact (Except.ok.inj read).symm
  | cons fault more => cases read

/-- Reading every member of a list stops at the first member that cannot be read. -/
theorem mapM_eq_error_iff {read : α → Except ε β} {members : List α} {fault : ε} :
    members.mapM read = .error fault ↔
      ∃ front member back, members = front ++ member :: back ∧ read member = .error fault ∧
        ∀ earlier ∈ front, ∃ value, read earlier = .ok value := by
  rw [mapM_eq_unlessFaulty_filterMap, unlessFaulty_eq_error_iff, List.head?_filterMap,
    List.findSome?_eq_some_iff]
  simp only [fault?_eq_some_iff, fault?_eq_none_iff]

end AnswerGraph
