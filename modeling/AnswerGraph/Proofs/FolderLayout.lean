import AnswerGraph.Proofs.FileTree
import AnswerGraph.Proofs.Path

/-!
A folder that holds folders of files. Names in it are followed one by one, through whatever links
the path of the folder leads, and a file is written at the place that its names say.
-/

namespace AnswerGraph

namespace FileTree

/-! ## Names in a folder -/

theorem follow_last {tree : FileTree} {here : Location} {name : String} (plain : StepName name)
    (solid : ∀ target, tree.entry? (here ++ [name]) ≠ some (.link target)) (through : Bool)
    (links : Nat) : tree.follow through links here [name] = .ok (here ++ [name]) :=
  follow_of_leads (.last plain solid)

theorem follow_into {tree : FileTree} {here : Location} {name : String} (plain : StepName name)
    (found : tree.entry? (here ++ [name]) = some .folder) (through : Bool) (links : Nat)
    (rest : List String) :
    tree.follow through links here (name :: rest) =
      tree.follow through links (here ++ [name]) rest :=
  follow_step plain found

theorem follow_absent {tree : FileTree} {here : Location} {name : String} (plain : StepName name)
    (absent : tree.entry? (here ++ [name]) = none) (through : Bool) (links : Nat)
    {rest : List String} (filled : rest ≠ []) :
    tree.follow through links here (name :: rest) = .error .notFound := by
  rw [follow_step plain absent]
  simp [filled]

theorem follow_long {tree : FileTree} {here : Location} {name : String} (plain : PlainName name)
    (long : maxName < name.utf8ByteSize) (through : Bool) (links : Nat) (rest : List String) :
    tree.follow through links here (name :: rest) = .error .nameTooLong := by
  rw [follow, if_neg plain.notDot, if_neg plain.notDots, if_pos long]

/-- Steps that lead to a folder may be followed by more; what is left of the links stays the
same. -/
theorem Leads.follow_append {tree : FileTree} {links : Nat} {here place : Location}
    {first : List String} (leads : Leads tree true links here first place)
    (folder : tree.entry? place = some .folder) :
    ∃ left, ∀ through rest, rest ≠ [] →
      tree.follow through links here (first ++ rest) = tree.follow through left place rest := by
  induction leads with
  | @here links here => exact ⟨links, fun _ _ _ => rfl⟩
  | stay onward ih =>
    obtain ⟨left, same⟩ := ih folder
    refine ⟨left, fun through rest filled => ?_⟩
    rw [List.cons_append, follow, if_pos rfl, same through rest filled]
  | up onward ih =>
    obtain ⟨left, same⟩ := ih folder
    refine ⟨left, fun through rest filled => ?_⟩
    rw [List.cons_append, follow, if_neg (by decide), if_pos rfl, same through rest filled]
  | missing plain found =>
    rw [found] at folder
    cases folder
  | file plain found =>
    rw [found] at folder
    cases folder
  | enter plain found onward ih =>
    obtain ⟨left, same⟩ := ih folder
    refine ⟨left, fun through rest filled => ?_⟩
    rw [List.cons_append, follow_into plain found, same through rest filled]
  | link plain found stops => cases stops
  | jump plain found goes onward ih =>
    obtain ⟨left, same⟩ := ih folder
    refine ⟨left, fun through rest filled => ?_⟩
    rw [List.cons_append, follow, if_neg plain.notDot, if_neg plain.notDots,
      if_neg (Nat.not_lt.mpr plain.short)]
    simp [found, filled, ← same through rest filled, List.append_assoc]

/-! ## The place of a folder -/

/-- The path of a folder leads to a place, perhaps through links. -/
structure FolderAt (tree : FileTree) (path : String) (place : Location) : Prop where
  leads : Leads tree true maxLinks (tree.startOf path) (steps path) place
  folder : tree.entry? place = some .folder

theorem FolderAt.keep {before after : FileTree} {path : String} {place : Location}
    (lies : FolderAt before path place) (keeps : Keeps before after) :
    FolderAt after path place := by
  refine ⟨?_, keeps.folder lies.folder⟩
  simpa [startOf, keeps.working] using lies.leads.keep keeps

/-- A path that goes on from a folder is followed from its place. -/
theorem FolderAt.locate {tree : FileTree} {folder path : String} {place : Location}
    (lies : FolderAt tree folder place) {rest : List String} (filled : rest ≠ [])
    (absolute : Path.isAbsolute path = Path.isAbsolute folder)
    (onward : steps path = steps folder ++ rest) (ends : Path.endsWithSlash path = false)
    (usable : UsablePath path) :
    ∃ left, ∀ through, tree.locate through path = tree.follow through left place rest := by
  obtain ⟨left, same⟩ := lies.leads.follow_append lies.folder
  refine ⟨left, fun through => ?_⟩
  rw [FileTree.locate, if_neg (by simpa using usable.filled), if_neg (by simpa using usable.noZero),
    if_neg (Nat.not_lt.mpr usable.short), onward, ends, absolute]
  simpa [startOf] using same through rest filled

theorem locate_of_unusable {path : String} (filled : path ≠ "") (unusable : ¬ UsablePath path) :
    ∃ fault, fault ≠ .notFound ∧
      ∀ (tree : FileTree) (through : Bool), tree.locate through path = .error fault := by
  by_cases noZero : Char.ofNat 0 ∈ path.toList
  · refine ⟨.invalidPath, by simp, fun tree through => ?_⟩
    rw [FileTree.locate, if_neg (by simpa using filled), if_pos (by simpa using noZero)]
  · have long : maxPath < path.utf8ByteSize :=
      Nat.not_le.mp fun short => unusable ⟨filled, noZero, short⟩
    refine ⟨.nameTooLong, by simp, fun tree through => ?_⟩
    rw [FileTree.locate, if_neg (by simpa using filled), if_neg (by simpa using noZero),
      if_pos long]

theorem UsablePath.of_append {front back : String} (usable : UsablePath (front ++ back))
    (filled : front ≠ "") : UsablePath front := by
  refine ⟨filled, fun zero => usable.noZero ?_, Nat.le_trans ?_ usable.short⟩
  · rw [String.toList_append]
    exact List.mem_append_left _ zero
  · rw [String.utf8ByteSize_append]
    exact Nat.le_add_right _ _

/-- A name that is followed as one step. -/
structure Followed (name : String) : Prop extends PlainName name where
  short : name.utf8ByteSize ≤ maxName

theorem Followed.step {name : String} (followed : Followed name) : StepName name :=
  ⟨followed.notDot, followed.notDots, followed.short⟩

section FolderAt

variable {tree : FileTree} {root name file : String} {place : Location}

theorem FolderAt.locate_name (lies : FolderAt tree root place) (followed : Followed name)
    (usable : UsablePath (Path.join root name))
    (solid : ∀ target, tree.entry? (place ++ [name]) ≠ some (.link target)) (through : Bool) :
    tree.locate through (Path.join root name) = .ok (place ++ [name]) := by
  obtain ⟨left, same⟩ := lies.locate (by simp)
    (Path.isAbsolute_join followed.toPlainName) (Path.steps_join followed.toPlainName)
    (Path.endsWithSlash_join followed.toPlainName root) usable
  rw [same through]
  exact follow_last followed.step solid through left

theorem isFolder_of_located {path : String} (located : tree.locate true path = .ok place) :
    tree.isFolder path = (tree.entry? place == some .folder) := by
  rw [isFolder, located]

theorem FolderAt.makeFolders_absent (lies : FolderAt tree root place) (followed : Followed name)
    (usable : UsablePath (Path.join root name)) (absent : tree.entry? (place ++ [name]) = none) :
    tree.makeFolders (Path.join root name) = (tree.set (place ++ [name]) .folder, .ok ()) := by
  have located := lies.locate_name followed usable (by simp [absent])
  have whole := Path.dropSlashes_of_name (Path.endsWithSlash_join followed.toPlainName root)
  rw [makeFolders]
  refine makeFoldersUpTo_of_made usable.filled ?_ _
  simp [makeFolder, whole, located, absent, Bind.bind, Except.bind]

/-- Where there is something that is not a link, there is a folder or none can be made. -/
theorem FolderAt.makeFolders_present (lies : FolderAt tree root place)
    (followed : Followed name) (usable : UsablePath (Path.join root name)) {entry : Entry}
    (present : tree.entry? (place ++ [name]) = some entry)
    (solid : ∀ target, entry ≠ .link target) :
    tree.makeFolders (Path.join root name) =
      (tree, if entry = .folder then .ok () else .error .alreadyExists) := by
  have located := lies.locate_name followed usable (by simpa [present] using solid)
  have whole := Path.dropSlashes_of_name (Path.endsWithSlash_join followed.toPlainName root)
  have failed : tree.makeFolder (Path.join root name) = .error .alreadyExists := by
    simp [makeFolder, whole, located, present, Bind.bind, Except.bind]
  rw [makeFolders, makeFoldersUpTo_of_fault usable.filled failed (by simp),
    isFolder_of_located (located true)]
  simp [present]

/-- The path of a file in a folder in a folder. -/
def innerPath (root name file : String) : String :=
  Path.join (Path.join root name) file

theorem innerPath_eq (plain : PlainName name) (noSlash : '/' ∉ file.toList) :
    innerPath root name file = Path.join root name ++ "/" ++ file := by
  have filled : (Path.join root name).isEmpty = false := by
    simpa using Path.join_ne_empty plain root
  rw [innerPath, Path.join_eq noSlash, Path.lead, filled, Path.endsWithSlash_join plain root]
  rfl

theorem usable_outer (plain : PlainName name) (noSlash : '/' ∉ file.toList)
    (usable : UsablePath (innerPath root name file)) : UsablePath (Path.join root name) := by
  rw [innerPath_eq plain noSlash, String.append_assoc] at usable
  exact usable.of_append (Path.join_ne_empty plain root)

/-- A path of two names is followed from the outer folder. -/
theorem FolderAt.follow_inner (lies : FolderAt tree root place) (plain : PlainName name)
    (plainFile : PlainName file) (usable : UsablePath (innerPath root name file)) :
    ∃ left, ∀ through, tree.locate through (innerPath root name file) =
      tree.follow through left place [name, file] := by
  refine lies.locate (by simp) ?_ ?_ (Path.endsWithSlash_join plainFile _) usable
  · rw [innerPath, Path.isAbsolute_join plainFile, Path.isAbsolute_join plain]
  · rw [innerPath, Path.steps_join plainFile, Path.steps_join plain, List.append_assoc]
    rfl

theorem FolderAt.locate_inner (lies : FolderAt tree root place) (followed : Followed name)
    (followedFile : Followed file) (usable : UsablePath (innerPath root name file))
    (folder : tree.entry? (place ++ [name]) = some .folder)
    (solid : ∀ target, tree.entry? (place ++ [name, file]) ≠ some (.link target))
    (through : Bool) :
    tree.locate through (innerPath root name file) = .ok (place ++ [name, file]) := by
  obtain ⟨left, same⟩ :=
    lies.follow_inner followed.toPlainName followedFile.toPlainName usable
  have joined : place ++ [name] ++ [file] = place ++ [name, file] := by simp
  rw [same through, follow_into followed.step folder,
    follow_last followedFile.step (joined ▸ solid), joined]

end FolderAt

/-! ## Paths without links -/

theorem LinkFree.leads_append {tree : FileTree} (free : tree.LinkFree) {links : Nat}
    {here place : Location} {first rest : List String} (filled : rest ≠ [])
    (leads : Leads tree true links here (first ++ rest) place) :
    ∃ middle, Leads tree true links here first middle ∧
      Leads tree true links middle rest place := by
  induction first generalizing here with
  | nil => exact ⟨here, .here, leads⟩
  | cons step first ih =>
    generalize steps : (step :: first) ++ rest = todo at leads
    cases leads with
    | here => cases steps
    | stay onward =>
      obtain ⟨rfl, rfl⟩ := List.cons.inj steps
      obtain ⟨middle, before, after⟩ := ih onward
      exact ⟨middle, .stay before, after⟩
    | up onward =>
      obtain ⟨rfl, rfl⟩ := List.cons.inj steps
      obtain ⟨middle, before, after⟩ := ih onward
      exact ⟨middle, .up before, after⟩
    | enter plain found onward =>
      obtain ⟨rfl, rfl⟩ := List.cons.inj steps
      obtain ⟨middle, before, after⟩ := ih onward
      exact ⟨middle, .enter plain found before, after⟩
    | missing => exact absurd (List.append_eq_nil_iff.mp (List.cons.inj steps).2).2 filled
    | file => exact absurd (List.append_eq_nil_iff.mp (List.cons.inj steps).2).2 filled
    | link _ found => exact absurd found (free _ _)
    | jump _ found => exact absurd found (free _ _)

theorem LinkFree.leads_last {tree : FileTree} (free : tree.LinkFree) {links : Nat}
    {here place : Location} {name : String} (plain : PlainName name)
    (leads : Leads tree true links here [name] place) : place = here ++ [name] := by
  cases leads with
  | stay => exact absurd rfl plain.notDot
  | up => exact absurd rfl plain.notDots
  | missing => rfl
  | file => rfl
  | link => rfl
  | enter _ _ onward =>
    cases onward
    rfl
  | jump _ found => exact absurd found (free _ _)

/-- Without links, the paths into the folders of a folder lead from one place to what they name. -/
theorem LinkFree.locate_inner {tree : FileTree} (free : tree.LinkFree) {root name file : String}
    {place : Location} (plain : PlainName name) (plainFile : PlainName file)
    (located : tree.locate true (innerPath root name file) = .ok place) :
    ∃ middle, tree.follow true maxLinks (tree.startOf root) (steps root) = .ok middle ∧
      place = middle ++ [name, file] := by
  obtain ⟨-, leads⟩ := locate_eq_ok_iff.mp located
  have start : tree.startOf (innerPath root name file) = tree.startOf root := by
    rw [startOf, startOf, innerPath, Path.isAbsolute_join plainFile, Path.isAbsolute_join plain]
  have onward : stepsOf (innerPath root name file) = steps root ++ ([name] ++ [file]) := by
    simp [stepsOf, innerPath, Path.endsWithSlash_join plainFile, Path.steps_join plainFile,
      Path.steps_join plain]
  rw [start, onward] at leads
  obtain ⟨middle, outer, inner⟩ := free.leads_append (by simp) leads
  obtain ⟨folder, first, last⟩ := free.leads_append (by simp) inner
  obtain rfl := free.leads_last plain first
  refine ⟨middle, follow_of_leads outer, ?_⟩
  rw [free.leads_last plainFile last, List.append_assoc]
  rfl

/-! ## Folders of files -/

/-- At a place there is a folder, which holds nothing but folders of files. Of what may lie deeper
nothing is said. -/
structure Layout (tree : FileTree) (root : String) (place : Location) : Prop where
  lies : FolderAt tree root place
  outer : ∀ name, tree.entry? (place ++ [name]) = none ∨
    tree.entry? (place ++ [name]) = some .folder
  inner : ∀ name file, tree.Writable (place ++ [name, file])
  closed : ∀ {name}, tree.entry? (place ++ [name]) = none →
    ∀ file, tree.entry? (place ++ [name, file]) = none

section Layout

variable {tree : FileTree} {root name file : String} {place : Location}

theorem Layout.locate_outer (layout : Layout tree root place) (followed : Followed name)
    (usable : UsablePath (Path.join root name)) (through : Bool) :
    tree.locate through (Path.join root name) = .ok (place ++ [name]) := by
  refine layout.lies.locate_name followed usable (fun target linked => ?_) through
  rcases layout.outer name with absent | folder
  · rw [absent] at linked
    cases linked
  · rw [folder] at linked
    cases linked

theorem Layout.locate_outer_long (layout : Layout tree root place) (plain : PlainName name)
    (long : maxName < name.utf8ByteSize) (usable : UsablePath (Path.join root name))
    (through : Bool) : tree.locate through (Path.join root name) = .error .nameTooLong := by
  obtain ⟨left, same⟩ := layout.lies.locate (by simp) (Path.isAbsolute_join plain)
    (Path.steps_join plain) (Path.endsWithSlash_join plain root) usable
  rw [same through, follow_long plain long]

theorem Layout.locate_inner (layout : Layout tree root place) (followed : Followed name)
    (followedFile : Followed file) (usable : UsablePath (innerPath root name file))
    (folder : tree.entry? (place ++ [name]) = some .folder) (through : Bool) :
    tree.locate through (innerPath root name file) = .ok (place ++ [name, file]) :=
  layout.lies.locate_inner followed followedFile usable folder (layout.inner name file).not_link
    through

theorem Layout.locate_inner_long (layout : Layout tree root place) (followed : Followed name)
    (plainFile : PlainName file) (long : maxName < file.utf8ByteSize)
    (usable : UsablePath (innerPath root name file))
    (folder : tree.entry? (place ++ [name]) = some .folder) (through : Bool) :
    tree.locate through (innerPath root name file) = .error .nameTooLong := by
  obtain ⟨left, same⟩ := layout.lies.follow_inner followed.toPlainName plainFile usable
  rw [same through, follow_into followed.step folder, follow_long plainFile long]

theorem Layout.locate_inner_absent (layout : Layout tree root place) (followed : Followed name)
    (plainFile : PlainName file) (usable : UsablePath (innerPath root name file))
    (absent : tree.entry? (place ++ [name]) = none) (through : Bool) :
    tree.locate through (innerPath root name file) = .error .notFound := by
  obtain ⟨left, same⟩ := layout.lies.follow_inner followed.toPlainName plainFile usable
  rw [same through, follow_absent followed.step absent through left (by simp)]

/-! ## Writing into a folder -/

/-- The tree with a folder at a place where there is one or nothing. -/
def withFolder (tree : FileTree) (place : Location) : FileTree :=
  match tree.entry? place with
  | none => tree.set place .folder
  | some _ => tree

/-- The tree with a file in a folder in the folder at a place. -/
def putFile (tree : FileTree) (place : Location) (name file : String) (contents : Contents) :
    FileTree :=
  (tree.withFolder (place ++ [name])).set (place ++ [name, file]) (.file contents)

theorem entry?_withFolder (layout : Layout tree root place) (name : String) (other : Location) :
    FileTree.entry? (tree.withFolder (place ++ [name])) other =
      if other = place ++ [name] then some .folder else tree.entry? other := by
  rcases layout.outer name with absent | folder
  · simp only [withFolder, absent]
    rw [ entry?_set tree (by simp)]
  · simp only [withFolder, folder]
    split
    · subst other
      exact folder
    · rfl

theorem entry?_putFile (layout : Layout tree root place) (name file : String)
    (contents : Contents) (other : Location) :
    FileTree.entry? (tree.putFile place name file contents) other =
      if other = place ++ [name, file] then some (.file contents)
      else if other = place ++ [name] then some .folder
      else tree.entry? other := by
  rw [putFile, entry?_set _ (by simp), entry?_withFolder layout]

theorem extends_putFile (layout : Layout tree root place) (name file : String)
    (contents : Contents) :
    Extends (· = place ++ [name, file]) tree (tree.putFile place name file contents) := by
  refine ⟨?_, fun other => ?_⟩
  · rw [putFile, set, withFolder]
    split <;> rfl
  rw [ entry?_putFile layout]
  split
  · subst other
    exact .inr (.inr ⟨rfl, layout.inner name file, contents, rfl⟩)
  · split
    · subst other
      rcases layout.outer name with absent | folder
      · exact .inr (.inl ⟨absent, rfl⟩)
      · exact .inl folder.symm
    · exact .inl rfl

theorem keeps_withFolder (layout : Layout tree root place) (name : String) :
    Keeps tree (tree.withFolder (place ++ [name])) := by
  rcases layout.outer name with absent | folder
  · simp only [withFolder, absent]
    exact (extends_set_folder absent fun _ => False).keeps
  · simp only [withFolder, folder]
    exact .refl tree

theorem Layout.withFolder (layout : Layout tree root place) (name : String) :
    Layout (tree.withFolder (place ++ [name])) root place := by
  have entry := entry?_withFolder layout name
  refine ⟨layout.lies.keep (keeps_withFolder layout name), fun other => ?_, fun other inner => ?_,
    fun {other} absent inner => ?_⟩
  · rw [entry]
    split
    · exact .inr rfl
    · exact layout.outer other
  · rw [Writable, entry, if_neg (by simp)]
    exact layout.inner other inner
  · rw [entry] at absent
    split at absent
    · cases absent
    · rw [entry, if_neg (by simp)]
      exact layout.closed absent inner

theorem Layout.set_file (layout : Layout tree root place)
    (folder : tree.entry? (place ++ [name]) = some .folder) (file : String)
    (contents : Contents) :
    Layout (tree.set (place ++ [name, file]) (.file contents)) root place := by
  have entry := @entry?_set tree (place ++ [name, file]) (by simp) (.file contents)
  refine ⟨layout.lies.keep (extends_set_file (layout.inner name file) contents).keeps,
    fun other => ?_, fun other inner => ?_, fun {other} absent inner => ?_⟩
  · rw [entry, if_neg (by simp)]
    exact layout.outer other
  · rw [Writable, entry]
    split
    · exact .inr ⟨contents, rfl⟩
    · exact layout.inner other inner
  · rw [entry, if_neg (by simp)] at absent
    have elsewhere : place ++ [other, inner] ≠ place ++ [name, file] := by
      intro same
      simp only [List.append_cancel_left_eq, List.cons.injEq] at same
      rw [same.1, folder] at absent
      cases absent
    rw [entry, if_neg elsewhere]
    exact layout.closed absent inner

theorem Layout.putFile (layout : Layout tree root place) (name file : String)
    (contents : Contents) : Layout (tree.putFile place name file contents) root place :=
  (layout.withFolder name).set_file (by rw [ entry?_withFolder layout, if_pos rfl]) file contents

theorem Layout.erase (layout : Layout tree root place) (name file : String) :
    Layout (tree.erase (place ++ [name, file])) root place := by
  refine ⟨layout.lies.keep (keeps_erase (layout.inner name file) (by simp)), fun other => ?_,
    fun other inner => ?_, fun {other} absent inner => ?_⟩
  · rw [ entry?_erase _ (by simp), if_neg (by simp)]
    exact layout.outer other
  · rw [Writable, entry?_erase _ (by simp)]
    split
    · exact .inl rfl
    · exact layout.inner other inner
  · rw [ entry?_erase _ (by simp), if_neg (by simp)] at absent
    rw [ entry?_erase _ (by simp)]
    split
    · rfl
    · exact layout.closed absent inner

/-! ## Making a folder and writing a file -/

theorem Layout.makeFolders_outer (layout : Layout tree root place) (followed : Followed name)
    (usable : UsablePath (Path.join root name)) :
    tree.makeFolders (Path.join root name) = (tree.withFolder (place ++ [name]), .ok ()) := by
  rw [FileTree.withFolder]
  rcases layout.outer name with absent | folder
  · rw [absent]
    exact layout.lies.makeFolders_absent followed usable absent
  · rw [folder]
    exact layout.lies.makeFolders_present followed usable folder (by simp)

/-- Where a path cannot be followed no folder is made. -/
theorem makeFolders_of_stuck {path : String} (filled : path ≠ "")
    (whole : dropSlashes path = path) {fault : FileError} (other : fault ≠ .notFound)
    (failed : ∀ through, tree.locate through path = .error fault) :
    tree.makeFolders path = (tree, .error fault) := by
  have stuck : tree.makeFolder path = .error fault := by
    simp [makeFolder, whole, failed, Bind.bind, Except.bind]
  rw [makeFolders, makeFoldersUpTo_of_fault filled stuck other]
  simp [isFolder, failed]

/-- Only a folder whose name can be followed is made. -/
theorem Layout.followed_of_makeFolders (layout : Layout tree root place) (plain : PlainName name)
    (made : (tree.makeFolders (Path.join root name)).2 = .ok ()) :
    Followed name ∧ UsablePath (Path.join root name) := by
  have filled := Path.join_ne_empty plain root
  have whole := Path.dropSlashes_of_name (Path.endsWithSlash_join plain root)
  have unmade {fault : FileError} (other : fault ≠ .notFound)
      (failed : ∀ through, tree.locate through (Path.join root name) = .error fault) : False := by
    rw [makeFolders_of_stuck filled whole other failed] at made
    cases made
  by_cases usable : UsablePath (Path.join root name)
  · by_cases short : name.utf8ByteSize ≤ maxName
    · exact ⟨⟨plain, short⟩, usable⟩
    · exact (unmade (by simp)
        (layout.locate_outer_long plain (Nat.not_le.mp short) usable)).elim
  · obtain ⟨fault, other, failed⟩ := locate_of_unusable filled usable
    exact (unmade other (failed tree)).elim

/-- Making a folder makes that folder at most. -/
theorem Layout.makeFolders_files (layout : Layout tree root place) (plain : PlainName name) :
    (tree.makeFolders (Path.join root name)).1 = tree ∨
      (tree.makeFolders (Path.join root name)).1 = tree.withFolder (place ++ [name]) := by
  have filled := Path.join_ne_empty plain root
  have whole := Path.dropSlashes_of_name (Path.endsWithSlash_join plain root)
  have unmade {fault : FileError} (other : fault ≠ .notFound)
      (failed : ∀ through, tree.locate through (Path.join root name) = .error fault) :
      (tree.makeFolders (Path.join root name)).1 = tree :=
    congrArg Prod.fst (makeFolders_of_stuck filled whole other failed)
  by_cases usable : UsablePath (Path.join root name)
  · by_cases short : name.utf8ByteSize ≤ maxName
    · exact .inr (congrArg Prod.fst (layout.makeFolders_outer ⟨plain, short⟩ usable))
    · exact .inl (unmade (by simp)
        (layout.locate_outer_long plain (Nat.not_le.mp short) usable))
  · obtain ⟨fault, other, failed⟩ := locate_of_unusable filled usable
    exact .inl (unmade other (failed tree))

theorem Layout.write_inner (layout : Layout tree root place) (followed : Followed name)
    (followedFile : Followed file) (usable : UsablePath (innerPath root name file))
    (folder : tree.entry? (place ++ [name]) = some .folder) (contents : Contents) :
    tree.write (innerPath root name file) contents =
      .ok (tree.set (place ++ [name, file]) (.file contents)) :=
  write_of_located (layout.locate_inner followed followedFile usable folder true)
    (layout.inner name file).not_folder contents

/-- Only a file with a name that can be followed is written. -/
theorem Layout.followed_of_write (layout : Layout tree root place) (followed : Followed name)
    (plainFile : PlainName file) (folder : tree.entry? (place ++ [name]) = some .folder)
    {contents : Contents} {after : FileTree}
    (written : tree.write (innerPath root name file) contents = .ok after) :
    Followed file ∧ UsablePath (innerPath root name file) := by
  obtain ⟨found, located, _, _⟩ := located_of_write written
  have usable := (locate_eq_ok_iff.mp located).1
  refine ⟨⟨plainFile, ?_⟩, usable⟩
  by_cases short : file.utf8ByteSize ≤ maxName
  · exact short
  · rw [layout.locate_inner_long followed plainFile (Nat.not_le.mp short) usable folder] at located
    cases located

end Layout

end FileTree

end AnswerGraph
