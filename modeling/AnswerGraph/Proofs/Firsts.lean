import AnswerGraph.Graph.Basic

/-!
First occurrences. What `firstsFrom` keeps depends only on which members were seen before, so a
list may be cut anywhere, and a part that repeats what stands before it can be left out.
-/

namespace AnswerGraph

variable [BEq α] [LawfulBEq α]

theorem firstsFrom_cons_of_mem {seen : List α} {first : α} (known : first ∈ seen) (rest : List α) :
    firstsFrom seen (first :: rest) = firstsFrom seen rest := by
  rw [firstsFrom, if_pos (List.contains_iff_mem.mpr known)]

theorem firstsFrom_cons_of_not_mem {seen : List α} {first : α} (fresh : first ∉ seen)
    (rest : List α) :
    firstsFrom seen (first :: rest) = first :: firstsFrom (first :: seen) rest := by
  rw [firstsFrom, if_neg (mt List.contains_iff_mem.mp fresh)]

theorem firstsFrom_congr {seen other : List α} (same : ∀ x, x ∈ seen ↔ x ∈ other)
    (members : List α) : firstsFrom seen members = firstsFrom other members := by
  induction members generalizing seen other with
  | nil => rfl
  | cons first rest ih =>
    have grown : ∀ x, x ∈ first :: seen ↔ x ∈ first :: other := by
      intro x
      simp only [List.mem_cons, same]
    by_cases known : first ∈ seen
    · simp [firstsFrom, known, (same first).mp known, ih same]
    · have unknown : first ∉ other := fun member => known ((same first).mpr member)
      simp [firstsFrom, known, unknown, ih grown]

theorem firstsFrom_append (seen members more : List α) :
    firstsFrom seen (members ++ more) =
      firstsFrom seen members ++ firstsFrom (members ++ seen) more := by
  induction members generalizing seen with
  | nil => rfl
  | cons first rest ih =>
    by_cases known : first ∈ seen
    · have same : ∀ x, x ∈ rest ++ seen ↔ x ∈ (first :: rest) ++ seen := by
        intro x
        constructor
        · intro member
          exact List.mem_cons_of_mem first member
        · intro member
          rcases List.mem_cons.mp member with head | tail
          · exact List.mem_append_right rest (head ▸ known)
          · exact tail
      simp [firstsFrom, known, ih, firstsFrom_congr same]
    · have same : ∀ x, x ∈ rest ++ first :: seen ↔ x ∈ (first :: rest) ++ seen := by
        intro x
        simp only [List.cons_append, List.mem_append, List.mem_cons]
        exact or_left_comm
      simp [firstsFrom, known, ih, firstsFrom_congr same]

/-- It does not matter whether known members are left out from the start or in the end. -/
theorem filter_firstsFrom (known seen members : List α) :
    (firstsFrom seen members).filter (· ∉ known) = firstsFrom (known ++ seen) members := by
  induction members generalizing seen with
  | nil => rfl
  | cons first rest ih =>
    by_cases old : first ∈ seen
    · rw [firstsFrom_cons_of_mem old, ih, firstsFrom_cons_of_mem (List.mem_append_right known old)]
    rw [firstsFrom_cons_of_not_mem old]
    by_cases here : first ∈ known
    · have same : ∀ x, x ∈ known ++ first :: seen ↔ x ∈ known ++ seen := by
        simp only [List.mem_append, List.mem_cons]
        exact fun x => ⟨fun
          | .inl member => .inl member
          | .inr (.inl last) => .inl (last ▸ here)
          | .inr (.inr member) => .inr member, Or.imp_right .inr⟩
      rw [List.filter_cons_of_neg (by simpa using here), ih, firstsFrom_congr same,
        firstsFrom_cons_of_mem (List.mem_append_left seen here)]
    · have same : ∀ x, x ∈ known ++ first :: seen ↔ x ∈ first :: (known ++ seen) := by
        simp only [List.mem_append, List.mem_cons]
        exact fun x => or_left_comm
      rw [List.filter_cons_of_pos (by simpa using here), ih, firstsFrom_congr same,
        firstsFrom_cons_of_not_mem (by simp [old, here])]

/-- Of what is appended, the first occurrences of members that were not there before are kept. -/
theorem firsts_append (members more : List α) :
    firsts (members ++ more) = firsts members ++ (firsts more).filter (· ∉ members) := by
  rw [firsts, firstsFrom_append, firsts, firsts, filter_firstsFrom]

/-- Nothing is left of a part whose members were all seen before. -/
theorem firstsFrom_eq_nil {seen members : List α} (known : ∀ x ∈ members, x ∈ seen) :
    firstsFrom seen members = [] := by
  induction members with
  | nil => rfl
  | cons first rest ih =>
    have here : first ∈ seen := known first (by simp)
    simp [firstsFrom, here, ih fun x member => known x (by simp [member])]

theorem mem_firstsFrom (seen members : List α) (x : α) :
    x ∈ firstsFrom seen members ↔ x ∈ members ∧ x ∉ seen := by
  induction members generalizing seen with
  | nil => simp [firstsFrom]
  | cons first rest ih =>
    by_cases known : first ∈ seen
    · simp only [firstsFrom, List.contains_iff_mem, known, if_true, ih, List.mem_cons]
      constructor
      · exact fun ⟨member, fresh⟩ => ⟨Or.inr member, fresh⟩
      · rintro ⟨rfl | member, fresh⟩
        · exact absurd known fresh
        · exact ⟨member, fresh⟩
    · simp only [firstsFrom, List.contains_iff_mem, known, if_false, ih, List.mem_cons, not_or]
      by_cases same : x = first
      · subst x; simp [known]
      · simp [same]

theorem mem_firsts (members : List α) (x : α) : x ∈ firsts members ↔ x ∈ members := by
  simp [firsts, mem_firstsFrom]

theorem nodup_firstsFrom (seen members : List α) : (firstsFrom seen members).Nodup := by
  induction members generalizing seen with
  | nil => exact List.nodup_nil
  | cons first rest ih =>
    by_cases known : first ∈ seen
    · simpa [firstsFrom, known] using ih seen
    · simpa [firstsFrom, known, mem_firstsFrom] using ih (first :: seen)

theorem nodup_firsts (members : List α) : (firsts members).Nodup :=
  nodup_firstsFrom [] members

theorem firstsFrom_sublist (seen members : List α) : (firstsFrom seen members).Sublist members := by
  induction members generalizing seen with
  | nil => exact List.Sublist.refl []
  | cons first rest ih =>
    by_cases known : first ∈ seen
    · simpa [firstsFrom, known] using (ih seen).cons first
    · simpa [firstsFrom, known] using ih (first :: seen)

theorem length_firsts_le (members : List α) : (firsts members).length ≤ members.length :=
  (firstsFrom_sublist [] members).length_le

/-- Nothing is left out only if nothing is repeated. -/
theorem length_firsts_eq_iff (members : List α) :
    (firsts members).length = members.length ↔ members.Nodup := by
  constructor
  · intro whole
    rw [← (firstsFrom_sublist [] members).eq_of_length whole]
    exact nodup_firsts members
  · intro distinct
    have same := List.perm_ext_iff_of_nodup (nodup_firsts members) distinct
    exact (same.mpr (mem_firsts members)).length_eq

/-- A part that only repeats earlier members does not count. -/
theorem firsts_append_of_known {members repeated : List α} (known : ∀ x ∈ repeated, x ∈ members)
    (more : List α) : firsts (members ++ repeated ++ more) = firsts (members ++ more) := by
  have same : ∀ x, x ∈ members ++ repeated ++ [] ↔ x ∈ members ++ [] := by
    intro x
    simp only [List.append_nil, List.mem_append]
    exact ⟨fun member => member.elim id (known x), Or.inl⟩
  have nothing : firstsFrom (members ++ []) repeated = [] :=
    firstsFrom_eq_nil (by simpa using known)
  rw [firsts, firstsFrom_append, firstsFrom_append, nothing, firstsFrom_congr same,
    List.append_nil, firsts, firstsFrom_append]

/-- Lists with the same first occurrences stay so when the same is appended to both. -/
theorem firsts_append_congr {members others : List α} (same : firsts members = firsts others)
    (more : List α) : firsts (members ++ more) = firsts (others ++ more) := by
  have alike (x : α) : x ∈ members ↔ x ∈ others := by
    rw [← mem_firsts members, same, mem_firsts]
  simp only [firsts_append, same, alike]

/-- A member that is met again is not kept again. -/
theorem firsts_concat_of_mem {members : List α} {last : α} (known : last ∈ members) :
    firsts (members ++ [last]) = firsts members := by
  have alone : firsts [last] = [last] := rfl
  rw [firsts_append, alone, List.filter_cons_of_neg (by simpa using known), List.filter_nil,
    List.append_nil]

theorem firsts_concat_of_not_mem {members : List α} {last : α} (fresh : last ∉ members) :
    firsts (members ++ [last]) = firsts members ++ [last] := by
  have alone : firsts [last] = [last] := rfl
  rw [firsts_append, alone, List.filter_cons_of_pos (by simpa using fresh), List.filter_nil]

/-- What comes later is put behind the first occurrences so far. -/
theorem prefix_firsts (members more : List α) : firsts members <+: firsts (members ++ more) := by
  rw [firsts_append]
  exact List.prefix_append _ _

/-- A search finds the same in the first occurrences. -/
theorem findSome?_firstsFrom {f : α → Option γ} {seen : List α} (missed : ∀ x ∈ seen, f x = none)
    (members : List α) : (firstsFrom seen members).findSome? f = members.findSome? f := by
  induction members generalizing seen with
  | nil => rfl
  | cons first rest ih =>
    by_cases known : first ∈ seen
    · simp [firstsFrom, known, missed first known, ih missed]
    · cases found : f first with
      | some value => simp [firstsFrom, known, found]
      | none =>
        have more : ∀ x ∈ first :: seen, f x = none := by
          simpa [found] using missed
        simp [firstsFrom, known, found, ih more]

theorem findSome?_firsts (f : α → Option γ) (members : List α) :
    (firsts members).findSome? f = members.findSome? f :=
  findSome?_firstsFrom (by simp) members

section Map

variable [BEq β] [LawfulBEq β] {f : α → β}

theorem firstsFrom_map (injective : ∀ x y, f x = f y → x = y) (seen members : List α) :
    firstsFrom (seen.map f) (members.map f) = (firstsFrom seen members).map f := by
  induction members generalizing seen with
  | nil => rfl
  | cons first rest ih =>
    have same : (seen.map f).contains (f first) = seen.contains first := by
      rw [Bool.eq_iff_iff, List.contains_iff_mem, List.contains_iff_mem]
      constructor
      · intro member
        obtain ⟨x, present, equal⟩ := List.mem_map.mp member
        exact injective x first equal ▸ present
      · exact List.mem_map_of_mem
    rw [List.map_cons, firstsFrom, firstsFrom, same]
    split
    · exact ih seen
    · rw [List.map_cons, ← ih (first :: seen), List.map_cons]

/-- A map that tells all members apart keeps first occurrences. -/
theorem firsts_map (injective : ∀ x y, f x = f y → x = y) (members : List α) :
    firsts (members.map f) = (firsts members).map f :=
  firstsFrom_map injective [] members

/-- What is chosen of a later occurrence was chosen of an earlier one. -/
theorem firstsFrom_filterMap {choose : α → Option β} {seen : List α} {chosen : List β}
    (covered : ∀ x ∈ seen, ∀ y ∈ choose x, y ∈ chosen) (members : List α) :
    firstsFrom chosen ((firstsFrom seen members).filterMap choose) =
      firstsFrom chosen (members.filterMap choose) := by
  induction members generalizing seen chosen with
  | nil => rfl
  | cons first rest ih =>
    by_cases known : first ∈ seen
    · cases found : choose first with
      | none => simp [firstsFrom, known, found, ih covered]
      | some value =>
        have old : value ∈ chosen := covered first known value found
        simp [firstsFrom, known, found, old, ih covered]
    · cases found : choose first with
      | none =>
        have more : ∀ x ∈ first :: seen, ∀ y ∈ choose x, y ∈ chosen := by
          simpa [found] using covered
        simp [firstsFrom, known, found, ih more]
      | some value =>
        by_cases old : value ∈ chosen
        · have more : ∀ x ∈ first :: seen, ∀ y ∈ choose x, y ∈ chosen := by
            simpa [found, old] using covered
          simp [firstsFrom, known, found, old, ih more]
        · have more : ∀ x ∈ first :: seen, ∀ y ∈ choose x, y ∈ value :: chosen := by
            intro x member y picked
            rcases List.mem_cons.mp member with rfl | member
            · rw [found] at picked
              exact Option.some.inj picked ▸ List.mem_cons_self
            · exact List.mem_cons_of_mem value (covered x member y picked)
          simp [firstsFrom, known, found, old, ih more]

/-- Of a repeated choice only the first counts, whether or not the members were repeated. -/
theorem firsts_filterMap (choose : α → Option β) (members : List α) :
    firsts ((firsts members).filterMap choose) = firsts (members.filterMap choose) :=
  firstsFrom_filterMap (by simp) members

end Map

theorem firsts_firsts (members : List α) : firsts (firsts members) = firsts members := by
  simpa using firsts_filterMap some members

end AnswerGraph
