import AnswerGraph.Keyed

/-!
Laws of sorted entries: inserting and erasing keep the order, and the sorted entries of a list that
is sorted already are the list itself.
-/

namespace AnswerGraph.Keyed

/-- The keys of the entries go up. -/
def Sorted (entries : List (String × α)) : Prop :=
  entries.Pairwise fun first second => first.1 < second.1

/-! ## Members -/

theorem mem_insert {key : String} {value : α} {entries : List (String × α)} {entry : String × α}
    (member : entry ∈ insert key value entries) : entry = (key, value) ∨ entry ∈ entries := by
  fun_induction insert with
  | case1 => exact .inl (List.mem_singleton.mp member)
  | case2 old rest =>
    rcases List.mem_cons.mp member with new | member
    · exact .inl new
    · exact .inr (List.mem_cons_of_mem _ member)
  | case3 first old rest =>
    rcases List.mem_cons.mp member with new | member
    · exact .inl new
    · exact .inr member
  | case4 first old rest _ _ ih =>
    rcases List.mem_cons.mp member with rfl | member
    · exact .inr List.mem_cons_self
    · rcases ih member with new | member
      · exact .inl new
      · exact .inr (List.mem_cons_of_mem _ member)

theorem mem_foldl_insert {entries sorted : List (String × α)} {entry : String × α}
    (member : entry ∈ entries.foldl (fun sorted (key, value) => insert key value sorted) sorted) :
    entry ∈ entries ∨ entry ∈ sorted := by
  induction entries generalizing sorted with
  | nil => exact .inr member
  | cons first rest ih =>
    rcases ih member with later | earlier
    · exact .inl (List.mem_cons_of_mem _ later)
    · rcases mem_insert earlier with rfl | earlier
      · exact .inl List.mem_cons_self
      · exact .inr earlier

theorem mem_ofList {entries : List (String × α)} {entry : String × α}
    (member : entry ∈ ofList entries) : entry ∈ entries := by
  rcases mem_foldl_insert member with given | none
  · exact given
  · cases none

theorem mem_erase {key : String} {entries : List (String × α)} {entry : String × α} :
    entry ∈ erase key entries ↔ entry ∈ entries ∧ entry.1 ≠ key := by
  rw [erase, List.mem_filter, bne_iff_ne]

/-! ## Order -/

theorem sorted_insert {key : String} {value : α} {entries : List (String × α)}
    (sorted : Sorted entries) : Sorted (insert key value entries) := by
  fun_induction insert with
  | case1 => exact List.pairwise_singleton _ _
  | case2 old rest =>
    obtain ⟨above, tail⟩ := List.pairwise_cons.mp sorted
    exact List.pairwise_cons.mpr ⟨above, tail⟩
  | case3 first old rest _ below =>
    refine List.pairwise_cons.mpr ⟨fun entry member => ?_, sorted⟩
    rcases List.mem_cons.mp member with rfl | member
    · exact below
    · exact String.lt_trans below ((List.pairwise_cons.mp sorted).1 entry member)
  | case4 first old rest different notBelow ih =>
    obtain ⟨above, tail⟩ := List.pairwise_cons.mp sorted
    refine List.pairwise_cons.mpr ⟨fun entry member => ?_, ih tail⟩
    rcases mem_insert member with rfl | member
    · have atMost : first ≤ key := String.not_lt.mp notBelow
      exact String.not_le.mp fun back => different (String.le_antisymm back atMost)
    · exact above entry member

theorem sorted_erase {key : String} {entries : List (String × α)} (sorted : Sorted entries) :
    Sorted (erase key entries) :=
  List.Pairwise.filter _ sorted

theorem insert_of_above {key : String} {value : α} {entries : List (String × α)}
    (above : ∀ entry ∈ entries, entry.1 < key) :
    insert key value entries = entries ++ [(key, value)] := by
  induction entries with
  | nil => rfl
  | cons first rest ih =>
    have below := above first List.mem_cons_self
    have different : key ≠ first.1 := fun same => String.lt_irrefl _ (same ▸ below)
    have notBelow : ¬ key < first.1 := String.lt_asymm below
    rw [insert, if_neg different, if_neg notBelow,
      ih fun entry member => above entry (List.mem_cons_of_mem _ member), List.cons_append]

theorem foldl_insert_of_sorted {entries sorted : List (String × α)}
    (ordered : Sorted (sorted ++ entries)) :
    entries.foldl (fun sorted (key, value) => insert key value sorted) sorted =
      sorted ++ entries := by
  induction entries generalizing sorted with
  | nil => simp
  | cons first rest ih =>
    have above : ∀ entry ∈ sorted, entry.1 < first.1 := fun entry member =>
      (List.pairwise_append.mp ordered).2.2 entry member first List.mem_cons_self
    have step : insert first.1 first.2 sorted = sorted ++ [first] := insert_of_above above
    rw [List.foldl_cons]
    simp only [step]
    rw [ih (by simpa using ordered)]
    simp

theorem ofList_of_sorted {entries : List (String × α)} (sorted : Sorted entries) :
    ofList entries = entries :=
  @foldl_insert_of_sorted α entries [] sorted

/-! ## Lookup -/

theorem lookup_erase (key : String) (entries : List (String × α)) :
    (erase key entries).lookup key = none := by
  rw [List.lookup_eq_none_iff]
  intro entry kept
  exact bne_iff_ne.mpr (Ne.symm (mem_erase.mp kept).2)

theorem lookup_erase_of_ne {key other : String} (different : other ≠ key)
    (entries : List (String × α)) : (erase key entries).lookup other = entries.lookup other := by
  induction entries with
  | nil => rfl
  | cons entry rest ih =>
    obtain ⟨name, value⟩ := entry
    rw [erase] at ih ⊢
    by_cases same : name = key
    · have unequal : (other == name) = false := beq_eq_false_iff_ne.mpr (same ▸ different)
      rw [List.filter_cons_of_neg (by simpa using same), List.lookup_cons, unequal, ih]
    · rw [List.filter_cons_of_pos (by simpa using same), List.lookup_cons, List.lookup_cons, ih]

theorem mem_of_lookup {key : String} {value : α} {entries : List (String × α)}
    (found : entries.lookup key = some value) : (key, value) ∈ entries := by
  obtain ⟨front, back, split, _⟩ := List.lookup_eq_some_iff.mp found
  exact split ▸ List.mem_append_right front List.mem_cons_self

theorem lookup_map (change : α → β) (key : String) (entries : List (String × α)) :
    (entries.map fun (name, value) => (name, change value)).lookup key =
      (entries.lookup key).map change := by
  induction entries with
  | nil => rfl
  | cons entry rest ih =>
    obtain ⟨name, value⟩ := entry
    rw [List.map_cons, List.lookup_cons, List.lookup_cons, ih]
    cases key == name <;> rfl

/-- Every entry is found by its key if no two have the same. -/
theorem lookup_of_mem_distinct {entries : List (String × α)}
    (distinct : (entries.map (·.1)).Nodup) {entry : String × α} (member : entry ∈ entries) :
    entries.lookup entry.1 = some entry.2 := by
  induction entries with
  | nil => cases member
  | cons first rest ih =>
    obtain ⟨fresh, others⟩ := List.nodup_cons.mp distinct
    obtain ⟨name, value⟩ := first
    rcases List.mem_cons.mp member with rfl | later
    · simp
    · have different : entry.1 ≠ name := by
        rintro rfl
        exact fresh (List.mem_map.mpr ⟨entry, later, rfl⟩)
      have unequal : (entry.1 == name) = false := beq_eq_false_iff_ne.mpr different
      rw [List.lookup_cons, unequal, ih others later]

theorem distinct_of_sorted {entries : List (String × α)} (sorted : Sorted entries) :
    (entries.map (·.1)).Nodup := by
  refine List.pairwise_map.mpr (sorted.imp fun {first second} above same => ?_)
  exact String.lt_irrefl _ (same ▸ above)

/-- In sorted entries every entry is found by its key. -/
theorem lookup_of_mem {entries : List (String × α)} (sorted : Sorted entries)
    {entry : String × α} (member : entry ∈ entries) : entries.lookup entry.1 = some entry.2 :=
  lookup_of_mem_distinct (distinct_of_sorted sorted) member

/-! ## Entries of a list -/

theorem sorted_ofList (entries : List (String × α)) : Sorted (ofList entries) := by
  have grown : ∀ sorted : List (String × α), Sorted sorted →
      Sorted (entries.foldl (fun sorted (key, value) => insert key value sorted) sorted) := by
    induction entries with
    | nil => exact fun _ sorted => sorted
    | cons first rest ih => exact fun _ sorted => ih _ (sorted_insert sorted)
  exact grown [] .nil

theorem lookup_foldl_insert {entries : List (String × α)} (distinct : (entries.map (·.1)).Nodup)
    (sorted : List (String × α)) (key : String) :
    (entries.foldl (fun sorted (key, value) => insert key value sorted) sorted).lookup key =
      (entries.lookup key).or (sorted.lookup key) := by
  induction entries generalizing sorted with
  | nil => rfl
  | cons first rest ih =>
    obtain ⟨name, value⟩ := first
    obtain ⟨fresh, others⟩ := List.nodup_cons.mp distinct
    rw [List.foldl_cons, ih others, List.lookup_cons]
    by_cases same : key = name
    · subst key
      have absent : rest.lookup name = none := by
        rw [List.lookup_eq_none_iff]
        intro entry member
        exact bne_iff_ne.mpr fun equal => fresh (List.mem_map.mpr ⟨entry, member, equal.symm⟩)
      simp [absent, lookup_insert]
    · simp [beq_eq_false_iff_ne.mpr same, lookup_insert_of_ne _ _ same]

/-- Sorting entries of distinct keys keeps what is found. -/
theorem lookup_ofList {entries : List (String × α)} (distinct : (entries.map (·.1)).Nodup)
    (key : String) : (ofList entries).lookup key = entries.lookup key := by
  rw [ofList, lookup_foldl_insert distinct]
  simp

/-- A key of the list, or one that was there before, is found. -/
theorem isSome_lookup_foldl_insert {entries sorted : List (String × α)} {key : String}
    (present : key ∈ entries.map (·.1) ∨ (sorted.lookup key).isSome = true) :
    ((entries.foldl (fun sorted (key, value) => insert key value sorted) sorted).lookup
      key).isSome = true := by
  induction entries generalizing sorted with
  | nil => exact present.resolve_left List.not_mem_nil
  | cons first rest ih =>
    obtain ⟨name, value⟩ := first
    refine ih ?_
    by_cases same : key = name
    · subst key
      exact .inr (by rw [lookup_insert]; rfl)
    · rw [lookup_insert_of_ne _ _ same]
      exact present.imp_left fun member => (List.mem_cons.mp member).resolve_left same

/-- Sorting entries keeps their keys. -/
theorem mem_keys_ofList {entries : List (String × α)} {key : String} :
    key ∈ (ofList entries).map (·.1) ↔ key ∈ entries.map (·.1) := by
  constructor
  · intro member
    obtain ⟨entry, sorted, named⟩ := List.mem_map.mp member
    exact List.mem_map.mpr ⟨entry, mem_ofList sorted, named⟩
  · intro member
    have kept : ((ofList entries).lookup key).isSome = true :=
      isSome_lookup_foldl_insert (.inl member)
    obtain ⟨value, found⟩ := Option.isSome_iff_exists.mp kept
    exact List.mem_map.mpr ⟨_, mem_of_lookup found, rfl⟩

/-- Entries that agree where they have the same key are all among the sorted ones. -/
theorem mem_ofList_iff {entries : List (String × α)}
    (agreeing : ∀ entry ∈ entries, ∀ other ∈ entries, entry.1 = other.1 → entry = other)
    {entry : String × α} : entry ∈ ofList entries ↔ entry ∈ entries := by
  refine ⟨mem_ofList, fun member => ?_⟩
  have listed : entry.1 ∈ entries.map (·.1) := List.mem_map.mpr ⟨entry, member, rfl⟩
  have kept : ((ofList entries).lookup entry.1).isSome = true :=
    isSome_lookup_foldl_insert (.inl listed)
  obtain ⟨value, found⟩ := Option.isSome_iff_exists.mp kept
  have sorted := mem_of_lookup found
  rw [agreeing entry member _ (mem_ofList sorted) rfl]
  exact sorted

/-- Sorted entries are known by their members. -/
theorem eq_of_mem_iff {first second : List (String × α)} (sorted : Sorted first)
    (other : Sorted second) (same : ∀ entry, entry ∈ first ↔ entry ∈ second) : first = second := by
  have distinct {entries : List (String × α)} (sorted : Sorted entries) : entries.Nodup := by
    refine sorted.imp fun {first second} below equal => ?_
    subst second
    exact String.lt_irrefl _ below
  have permuted : first.Perm second :=
    (List.perm_ext_iff_of_nodup (distinct sorted) (distinct other)).mpr same
  exact permuted.eq_of_pairwise
    (fun _ _ _ _ below above => absurd (String.lt_trans below above) (String.lt_irrefl _))
    sorted other

theorem insert_map (f : α → β) (key : String) (value : α) (entries : List (String × α)) :
    insert key (f value) (entries.map fun (key, value) => (key, f value)) =
      (insert key value entries).map fun (key, value) => (key, f value) := by
  fun_induction insert key value entries with
  | case1 => rfl
  | case2 => simp [insert]
  | case3 first old rest different below => simp [insert, different, below]
  | case4 first old rest different notBelow ih => simp [insert, different, notBelow, ih]

theorem ofList_map (f : α → β) (entries : List (String × α)) :
    ofList (entries.map fun (key, value) => (key, f value)) =
      (ofList entries).map fun (key, value) => (key, f value) := by
  have moved : ∀ sorted : List (String × α),
      (entries.map fun (key, value) => (key, f value)).foldl
          (fun sorted (key, value) => insert key value sorted)
          (sorted.map fun (key, value) => (key, f value)) =
        (entries.foldl (fun sorted (key, value) => insert key value sorted) sorted).map
          fun (key, value) => (key, f value) := by
    induction entries with
    | nil => exact fun _ => rfl
    | cons first rest ih =>
      obtain ⟨key, value⟩ := first
      intro sorted
      simp only [List.map_cons, List.foldl_cons, insert_map, ih]
  exact moved []

end AnswerGraph.Keyed
