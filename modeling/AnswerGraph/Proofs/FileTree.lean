import AnswerGraph.Files.Tree

/-!
Laws of file trees. Following a path is described by a relation with one rule for every kind of
step. Operations that keep folders and links keep every path that can be followed, so a file is
read as before unless it is the one that was written.
-/

namespace AnswerGraph

namespace FileTree

/-! ## Entries -/

@[simp] theorem entry?_root (tree : FileTree) : tree.entry? [] = some .folder := rfl

theorem lookup_filter_ne {location place : Location} (different : place ≠ location)
    (entries : List (Location × Entry)) :
    (entries.filter (·.1 != location)).lookup place = entries.lookup place := by
  induction entries with
  | nil => rfl
  | cons entry rest ih =>
    obtain ⟨key, value⟩ := entry
    by_cases same : key = location
    · have other : (place == key) = false := beq_eq_false_iff_ne.mpr (same ▸ different)
      rw [List.filter_cons_of_neg (by simpa using same), List.lookup_cons, other, ih]
    · rw [List.filter_cons_of_pos (by simpa using same), List.lookup_cons, List.lookup_cons, ih]

theorem lookup_filter_self (location : Location) (entries : List (Location × Entry)) :
    (entries.filter (·.1 != location)).lookup location = none := by
  rw [List.lookup_eq_none_iff]
  intro entry kept
  have other : entry.1 ≠ location := by simpa using (List.mem_filter.mp kept).2
  exact bne_iff_ne.mpr other.symm

theorem entry?_set (tree : FileTree) {location : Location} (inner : location ≠ [])
    (entry : Entry) (place : Location) :
    FileTree.entry? (tree.set location entry) place =
      if place = location then some entry else tree.entry? place := by
  by_cases same : place = location
  · subst place
    simp [ entry?, set, inner]
  · by_cases root : place = []
    · simp [root, Ne.symm inner]
    · have other : (place == location) = false := beq_eq_false_iff_ne.mpr same
      simp [ entry?, set, root, same, other, List.lookup_cons, lookup_filter_ne same]

theorem entry?_erase (tree : FileTree) {location : Location} (inner : location ≠ [])
    (place : Location) :
    FileTree.entry? (tree.erase location) place =
      if place = location then none else tree.entry? place := by
  by_cases same : place = location
  · subst place
    simp [ entry?, erase, inner, lookup_filter_self]
  · by_cases root : place = []
    · simp [root, Ne.symm inner]
    · simp [ entry?, erase, root, same, lookup_filter_ne same]

/-! ## Following a path -/

/-- A step that goes into a folder, or to its entry of that name. -/
structure StepName (name : String) : Prop where
  notDot : name ≠ "."
  notDots : name ≠ ".."
  short : name.utf8ByteSize ≤ maxName

/-- The steps lead from a folder to a location, through at most so many links. -/
inductive Leads (tree : FileTree) (through : Bool) : Nat → Location → List String → Location → Prop
  | here {links : Nat} {here : Location} : Leads tree through links here [] here
  | stay {links : Nat} {here location : Location} {rest : List String}
      (onward : Leads tree through links here rest location) :
      Leads tree through links here ("." :: rest) location
  | up {links : Nat} {here location : Location} {rest : List String}
      (onward : Leads tree through links here.dropLast rest location) :
      Leads tree through links here (".." :: rest) location
  | missing {links : Nat} {here : Location} {name : String} (plain : StepName name)
      (found : tree.entry? (here ++ [name]) = none) :
      Leads tree through links here [name] (here ++ [name])
  | file {links : Nat} {here : Location} {name : String} {contents : Contents}
      (plain : StepName name) (found : tree.entry? (here ++ [name]) = some (.file contents)) :
      Leads tree through links here [name] (here ++ [name])
  | enter {links : Nat} {here location : Location} {name : String} {rest : List String}
      (plain : StepName name) (found : tree.entry? (here ++ [name]) = some .folder)
      (onward : Leads tree through links (here ++ [name]) rest location) :
      Leads tree through links here (name :: rest) location
  | link {links : Nat} {here : Location} {name target : String} (plain : StepName name)
      (found : tree.entry? (here ++ [name]) = some (.link target)) (stops : through = false) :
      Leads tree through links here [name] (here ++ [name])
  | jump {links : Nat} {here location : Location} {name target : String} {rest : List String}
      (plain : StepName name) (found : tree.entry? (here ++ [name]) = some (.link target))
      (goes : (rest.isEmpty && !through) = false)
      (onward : Leads tree through links (if Path.isAbsolute target then [] else here)
        (steps target ++ rest) location) :
      Leads tree through (links + 1) here (name :: rest) location

/-- A step by a name goes where the entry of that name leads. -/
theorem follow_step {tree : FileTree} {here : Location} {name : String} (plain : StepName name)
    {entry : Option Entry} {through : Bool} {links : Nat} {rest : List String} :
    tree.entry? (here ++ [name]) = entry → tree.follow through links here (name :: rest) =
      match entry with
      | none => if rest.isEmpty then .ok (here ++ [name]) else .error .notFound
      | some (.file _) => if rest.isEmpty then .ok (here ++ [name]) else .error .notAFolder
      | some .folder => tree.follow through links (here ++ [name]) rest
      | some (.link target) =>
        if rest.isEmpty && !through then .ok (here ++ [name])
        else
          match links with
          | 0 => .error .tooManyLinks
          | links + 1 =>
            tree.follow through links (if Path.isAbsolute target then [] else here)
              (steps target ++ rest) := by
  rintro rfl
  rw [follow, if_neg plain.notDot, if_neg plain.notDots]
  exact if_neg (Nat.not_lt.mpr plain.short)

theorem follow_of_leads {tree : FileTree} {through : Bool} {links : Nat} {here location : Location}
    {todo : List String} (leads : Leads tree through links here todo location) :
    tree.follow through links here todo = .ok location := by
  induction leads with
  | here => rw [follow]
  | stay onward ih => rw [follow, if_pos rfl, ih]
  | up onward ih => rw [follow, if_neg (by decide), if_pos rfl, ih]
  | missing plain found => exact follow_step plain found
  | file plain found => exact follow_step plain found
  | enter plain found onward ih => exact (follow_step plain found).trans ih
  | link plain found stops =>
    rw [follow_step plain found]
    simp [stops]
  | jump plain found goes onward ih =>
    rw [follow_step plain found]
    simpa [goes] using ih

theorem leads_of_follow {tree : FileTree} {through : Bool} {links : Nat} {here location : Location}
    {todo : List String} (followed : tree.follow through links here todo = .ok location) :
    Leads tree through links here todo location := by
  induction links, here, todo using follow.induct tree through with
  | case1 links here =>
    rw [follow] at followed
    cases followed
    exact .here
  | case2 links here rest ih =>
    rw [follow, if_pos rfl] at followed
    exact .stay (ih followed)
  | case3 links here rest _ ih =>
    rw [follow, if_neg (by decide), if_pos rfl] at followed
    exact .up (ih followed)
  | case4 links here name rest notDot notDots long =>
    rw [follow, if_neg notDot, if_neg notDots, if_pos long] at followed
    cases followed
  | case5 links here name rest notDot notDots short next found last =>
    have plain : StepName name := ⟨notDot, notDots, Nat.not_lt.mp short⟩
    obtain rfl := List.isEmpty_iff.mp last
    rw [follow_step plain found] at followed
    cases followed
    exact .missing plain found
  | case6 links here name rest notDot notDots short next found more =>
    rw [follow_step ⟨notDot, notDots, Nat.not_lt.mp short⟩ found] at followed
    cases (if_neg more).symm.trans followed
  | case7 links here name rest notDot notDots short next contents found last =>
    have plain : StepName name := ⟨notDot, notDots, Nat.not_lt.mp short⟩
    obtain rfl := List.isEmpty_iff.mp last
    rw [follow_step plain found] at followed
    cases followed
    exact .file plain found
  | case8 links here name rest notDot notDots short next contents found more =>
    rw [follow_step ⟨notDot, notDots, Nat.not_lt.mp short⟩ found] at followed
    cases (if_neg more).symm.trans followed
  | case9 links here name rest notDot notDots short next found ih =>
    have plain : StepName name := ⟨notDot, notDots, Nat.not_lt.mp short⟩
    rw [follow_step plain found] at followed
    exact .enter plain found (ih followed)
  | case10 links here name rest notDot notDots short next target found stops =>
    have plain : StepName name := ⟨notDot, notDots, Nat.not_lt.mp short⟩
    rw [follow_step plain found] at followed
    obtain ⟨last, halts⟩ := Bool.and_eq_true_iff.mp stops
    obtain rfl := List.isEmpty_iff.mp last
    cases (if_pos stops).symm.trans followed
    exact .link plain found (by simpa using halts)
  | case11 here name rest notDot notDots short next target found goes =>
    -- No more links may be followed.
    rw [follow_step ⟨notDot, notDots, Nat.not_lt.mp short⟩ found] at followed
    cases (if_neg goes).symm.trans followed
  | case12 here name rest notDot notDots short next target found goes links ih =>
    have plain : StepName name := ⟨notDot, notDots, Nat.not_lt.mp short⟩
    rw [follow_step plain found] at followed
    have onward := ih ((if_neg goes).symm.trans followed)
    exact .jump plain found (by simpa using goes) onward

theorem follow_eq_ok_iff {tree : FileTree} {through : Bool} {links : Nat}
    {here location : Location} {todo : List String} :
    tree.follow through links here todo = .ok location ↔
      Leads tree through links here todo location :=
  ⟨leads_of_follow, follow_of_leads⟩

/-- A path that can be given to the file system. -/
structure UsablePath (path : String) : Prop where
  filled : path ≠ ""
  noZero : Char.ofNat 0 ∉ path.toList
  short : path.utf8ByteSize ≤ maxPath

/-- The folder where a path starts. -/
def startOf (tree : FileTree) (path : String) : Location :=
  if Path.isAbsolute path then [] else tree.working

/-- The steps of a path; a slash at its end asks for a folder. -/
def stepsOf (path : String) : List String :=
  steps path ++ if Path.endsWithSlash path then ["."] else []

theorem locate_eq_ok_iff {tree : FileTree} {through : Bool} {path : String} {place : Location} :
    tree.locate through path = .ok place ↔
      UsablePath path ∧
        Leads tree through maxLinks (tree.startOf path) (stepsOf path) place := by
  rw [← follow_eq_ok_iff, locate, startOf, stepsOf]
  constructor
  · intro located
    by_cases empty : path.isEmpty
    · rw [if_pos empty] at located
      cases located
    by_cases zero : path.toList.contains (Char.ofNat 0)
    · rw [if_neg empty, if_pos zero] at located
      cases located
    by_cases long : maxPath < path.utf8ByteSize
    · rw [if_neg empty, if_neg zero, if_pos long] at located
      cases located
    rw [if_neg empty, if_neg zero, if_neg long] at located
    exact ⟨⟨by simpa using empty, by simpa using zero, Nat.not_lt.mp long⟩, located⟩
  · rintro ⟨⟨filled, noZero, short⟩, followed⟩
    rw [if_neg (by simpa using filled), if_neg (by simpa using noZero),
      if_neg (Nat.not_lt.mpr short), followed]

/-! ## Changes that keep paths -/

/-- No entry is a link. -/
def LinkFree (tree : FileTree) : Prop :=
  ∀ place target, tree.entry? place ≠ some (.link target)

/-- The second tree has the folders and the links of the first one, and no other links. -/
structure Keeps (before after : FileTree) : Prop where
  working : after.working = before.working
  folder : ∀ {place}, before.entry? place = some .folder → after.entry? place = some .folder
  link : ∀ {place target},
    after.entry? place = some (.link target) ↔ before.entry? place = some (.link target)

theorem Keeps.refl (tree : FileTree) : Keeps tree tree :=
  ⟨rfl, id, Iff.rfl⟩

theorem Keeps.trans {first second third : FileTree} (early : Keeps first second)
    (late : Keeps second third) : Keeps first third :=
  ⟨late.working.trans early.working, late.folder ∘ early.folder, late.link.trans early.link⟩

theorem Keeps.linkFree {before after : FileTree} (keeps : Keeps before after)
    (free : before.LinkFree) : after.LinkFree :=
  fun place target found => free place target (keeps.link.mp found)

/-- A last step leads to an entry of any kind but a link. -/
theorem Leads.last {tree : FileTree} {through : Bool} {links : Nat} {here : Location}
    {name : String} (plain : StepName name)
    (solid : ∀ target, tree.entry? (here ++ [name]) ≠ some (.link target)) :
    Leads tree through links here [name] (here ++ [name]) := by
  cases found : tree.entry? (here ++ [name]) with
  | none => exact .missing plain found
  | some entry =>
    cases entry with
    | file contents => exact .file plain found
    | folder => exact .enter plain found .here
    | link target => exact absurd found (solid target)

theorem Leads.keep {before after : FileTree} (keeps : Keeps before after) {through : Bool}
    {links : Nat} {here location : Location} {todo : List String}
    (leads : Leads before through links here todo location) :
    Leads after through links here todo location := by
  induction leads with
  | here => exact .here
  | stay onward ih => exact .stay ih
  | up onward ih => exact .up ih
  | missing plain found =>
    refine Leads.last plain fun target linked => ?_
    rw [keeps.link, found] at linked
    cases linked
  | file plain found =>
    refine Leads.last plain fun target linked => ?_
    rw [keeps.link, found] at linked
    cases linked
  | enter plain found onward ih => exact .enter plain (keeps.folder found) ih
  | link plain found stops => exact .link plain (keeps.link.mpr found) stops
  | jump plain found goes onward ih => exact .jump plain (keeps.link.mpr found) goes ih

/-- A path that can be followed leads to the same place after a change that keeps folders and
links. -/
theorem Keeps.locate {before after : FileTree} (keeps : Keeps before after) {through : Bool}
    {path : String} {place : Location} (located : before.locate through path = .ok place) :
    after.locate through path = .ok place := by
  obtain ⟨usable, leads⟩ := locate_eq_ok_iff.mp located
  refine locate_eq_ok_iff.mpr ⟨usable, ?_⟩
  simpa [startOf, keeps.working] using leads.keep keeps

/-- A file can be written at a place where there is a file, or nothing. -/
def Writable (tree : FileTree) (place : Location) : Prop :=
  tree.entry? place = none ∨ ∃ contents, tree.entry? place = some (.file contents)

theorem Writable.not_folder {tree : FileTree} {place : Location} (writable : tree.Writable place) :
    tree.entry? place ≠ some .folder := by
  rcases writable with absent | ⟨contents, found⟩
  · simp [absent]
  · simp [found]

theorem Writable.not_link {tree : FileTree} {place : Location} (writable : tree.Writable place)
    (target : String) : tree.entry? place ≠ some (.link target) := by
  rcases writable with absent | ⟨contents, found⟩
  · simp [absent]
  · simp [found]

/-- Neither a folder nor one of those above it is a link. -/
def Solid (tree : FileTree) (folder : Location) : Prop :=
  ∀ place, place <+: folder → ∀ target, tree.entry? place ≠ some (.link target)

/-- The working folder is reached through no link. -/
def Grounded (tree : FileTree) : Prop :=
  tree.Solid tree.working

theorem LinkFree.grounded {tree : FileTree} (free : tree.LinkFree) : tree.Grounded :=
  fun place _ target => free place target

theorem Keeps.grounded {before after : FileTree} (keeps : Keeps before after)
    (grounded : before.Grounded) : after.Grounded := by
  intro place above target linked
  exact grounded place (keeps.working ▸ above) target (keeps.link.mp linked)

theorem solid_root (tree : FileTree) : tree.Solid [] := by
  intro place above target linked
  rw [List.prefix_nil.mp above, entry?_root] at linked
  cases linked

theorem Solid.dropLast {tree : FileTree} {folder : Location} (solid : tree.Solid folder) :
    tree.Solid folder.dropLast :=
  fun place above => solid place (above.trans (List.dropLast_prefix folder))

theorem Solid.append {tree : FileTree} {folder : Location} (solid : tree.Solid folder)
    {name : String} (other : ∀ target, tree.entry? (folder ++ [name]) ≠ some (.link target)) :
    tree.Solid (folder ++ [name]) := by
  intro place above
  rcases List.prefix_concat_iff.mp above with rfl | above
  · exact other
  · exact solid place above

/-- A path whose links are all followed does not lead to one. -/
theorem Leads.solid {tree : FileTree} {links : Nat} {here location : Location} {todo : List String}
    (leads : Leads tree true links here todo location) (solid : tree.Solid here) :
    tree.Solid location := by
  induction leads with
  | here => exact solid
  | stay onward ih => exact ih solid
  | up onward ih => exact ih solid.dropLast
  | missing plain found => exact solid.append (by simp [found])
  | file plain found => exact solid.append (by simp [found])
  | enter plain found onward ih => exact ih (solid.append (by simp [found]))
  | link plain found stops => cases stops
  | jump plain found goes onward ih =>
    apply ih
    split
    · exact solid_root _
    · exact solid

theorem Grounded.locate {tree : FileTree} (grounded : tree.Grounded) {path : String}
    {place : Location} (located : tree.locate true path = .ok place) : tree.Solid place := by
  obtain ⟨-, leads⟩ := locate_eq_ok_iff.mp located
  apply leads.solid
  rw [startOf]
  split
  · exact solid_root tree
  · exact grounded

theorem Solid.writable {tree : FileTree} {place : Location} (solid : tree.Solid place)
    (noFolder : tree.entry? place ≠ some .folder) : tree.Writable place := by
  cases found : tree.entry? place with
  | none => exact .inl found
  | some entry =>
    cases entry with
    | file contents => exact .inr ⟨contents, found⟩
    | folder => exact absurd found noFolder
    | link target => exact absurd found (solid place (List.prefix_refl place) target)

theorem writable_of_linkFree {tree : FileTree} (free : tree.LinkFree) {place : Location}
    (noFolder : tree.entry? place ≠ some .folder) : tree.Writable place :=
  Solid.writable (fun other _ => free other) noFolder

/-- The second tree has the entries of the first one, but for folders where nothing was and for
files at the places that were written. -/
structure Extends (written : Location → Prop) (before after : FileTree) : Prop where
  working : after.working = before.working
  entry : ∀ place, after.entry? place = before.entry? place ∨
    before.entry? place = none ∧ after.entry? place = some .folder ∨
    written place ∧ before.Writable place ∧ ∃ new, after.entry? place = some (.file new)

theorem Extends.refl (written : Location → Prop) (tree : FileTree) : Extends written tree tree :=
  ⟨rfl, fun _ => .inl rfl⟩

theorem Extends.mono {some more : Location → Prop} (weaker : ∀ place, some place → more place)
    {before after : FileTree} (grown : Extends some before after) : Extends more before after := by
  refine ⟨grown.working, fun place => ?_⟩
  rcases grown.entry place with same | made | ⟨wrote, old, new⟩
  · exact .inl same
  · exact .inr (.inl made)
  · exact .inr (.inr ⟨weaker place wrote, old, new⟩)

theorem Extends.trans {written : Location → Prop} {first second third : FileTree}
    (early : Extends written first second) (late : Extends written second third) :
    Extends written first third := by
  refine ⟨late.working.trans early.working, fun place => ?_⟩
  rcases late.entry place with same | ⟨absent, made⟩ | ⟨wrote, old, new⟩
  · rw [same]
    exact early.entry place
  · rcases early.entry place with same | ⟨_, made'⟩ | ⟨_, _, new', wrote'⟩
    · exact .inr (.inl ⟨same ▸ absent, made⟩)
    · rw [absent] at made'
      cases made'
    · rw [absent] at wrote'
      cases wrote'
  · rcases early.entry place with same | ⟨_, made⟩ | ⟨_, old', _⟩
    · rw [Writable, same] at old
      exact .inr (.inr ⟨wrote, old, new⟩)
    · exact absurd made old.not_folder
    · exact .inr (.inr ⟨wrote, old', new⟩)

theorem Extends.keeps {written : Location → Prop} {before after : FileTree}
    (grown : Extends written before after) : Keeps before after := by
  refine ⟨grown.working, fun {place} found => ?_, fun {place target} => ?_⟩
  · rcases grown.entry place with same | ⟨absent, _⟩ | ⟨_, old, _⟩
    · rw [same, found]
    · rw [found] at absent
      cases absent
    · exact absurd found old.not_folder
  · rcases grown.entry place with same | ⟨absent, made⟩ | ⟨_, old, new, wrote⟩
    · rw [same]
    · simp [absent, made]
    · rcases old with absent | ⟨old, found⟩
      · simp [absent, wrote]
      · simp [found, wrote]

/-! ## Operations -/

theorem inner_of_not_folder (tree : FileTree) {place : Location}
    (other : tree.entry? place ≠ some .folder) : place ≠ [] := by
  rintro rfl
  exact other tree.entry?_root

theorem extends_set_file {tree : FileTree} {place : Location}
    (writable : tree.Writable place) (contents : Contents) :
    Extends (· = place) tree (tree.set place (.file contents)) := by
  have inner : place ≠ [] := inner_of_not_folder tree writable.not_folder
  refine ⟨rfl, fun other => ?_⟩
  rw [ entry?_set tree inner]
  by_cases same : other = place
  · subst other
    exact .inr (.inr ⟨rfl, writable, contents, by simp⟩)
  · exact .inl (by simp [same])

theorem extends_set_folder {tree : FileTree} {place : Location}
    (absent : tree.entry? place = none) (written : Location → Prop) :
    Extends written tree (tree.set place .folder) := by
  have inner : place ≠ [] := inner_of_not_folder tree (by simp [absent])
  refine ⟨rfl, fun other => ?_⟩
  rw [ entry?_set tree inner]
  by_cases same : other = place
  · subst other
    exact .inr (.inl ⟨absent, by simp⟩)
  · exact .inl (by simp [same])

theorem write_of_located {tree : FileTree} {path : String} {place : Location}
    (located : tree.locate true path = .ok place) (free : tree.entry? place ≠ some .folder)
    (contents : Contents) : tree.write path contents = .ok (tree.set place (.file contents)) := by
  cases found : tree.entry? place with
  | none => simp [write, located, found, Bind.bind, Except.bind]
  | some entry =>
    cases entry with
    | folder => exact absurd found free
    | file old => simp [write, located, found, Bind.bind, Except.bind]
    | link target => simp [write, located, found, Bind.bind, Except.bind]

theorem located_of_write {tree after : FileTree} {path : String} {contents : Contents}
    (written : tree.write path contents = .ok after) :
    ∃ place, tree.locate true path = .ok place ∧ tree.entry? place ≠ some .folder ∧
      after = tree.set place (.file contents) := by
  cases located : tree.locate true path with
  | error fault =>
    simp [write, located, Bind.bind, Except.bind] at written
  | ok place =>
    by_cases folder : tree.entry? place = some .folder
    · simp [write, located, folder, Bind.bind, Except.bind] at written
    · rw [write_of_located located folder] at written
      cases written
      exact ⟨place, rfl, folder, rfl⟩

theorem readText_of_located {tree : FileTree} {path text : String} {place : Location}
    (located : tree.locate true path = .ok place)
    (held : tree.entry? place = some (.file (.text text))) : tree.readText path = .ok text := by
  simp [readText, read, located, held, Bind.bind, Except.bind]

theorem readText_of_missing {tree : FileTree} {path : String} {place : Location}
    (located : tree.locate true path = .ok place) (missing : tree.entry? place = none) :
    tree.readText path = .error .notFound := by
  simp [readText, read, located, missing, Bind.bind, Except.bind]

theorem readText_of_unlocated {tree : FileTree} {path : String} {fault : FileError}
    (nowhere : tree.locate true path = .error fault) : tree.readText path = .error fault := by
  simp [readText, read, nowhere, Bind.bind, Except.bind]

/-- A link is only arrived at on the way back from a place below it: every other step to it goes
through it. -/
theorem Leads.prefix_of_link {tree : FileTree} {links : Nat} {here location : Location}
    {todo : List String} (leads : Leads tree true links here todo location) {target : String}
    (linked : tree.entry? location = some (.link target)) : location <+: here := by
  induction leads with
  | here => exact List.prefix_refl _
  | stay _ ih => exact ih linked
  | up _ ih => exact (ih linked).trans (List.dropLast_prefix _)
  | missing _ found =>
    rw [found] at linked
    cases linked
  | file _ found =>
    rw [found] at linked
    cases linked
  | enter _ found _ ih =>
    rcases List.prefix_concat_iff.mp (ih linked) with rfl | above
    · rw [found] at linked
      cases linked
    · exact above
  | link _ _ stops => cases stops
  | jump _ _ _ _ ih =>
    have above := ih linked
    split at above
    · exact above.trans List.nil_prefix
    · exact above

/-- A path leads to a file that is written where it led. -/
theorem Leads.set_file {tree : FileTree} {links : Nat} {here location : Location}
    {todo : List String} (leads : Leads tree true links here todo location)
    (other : tree.entry? location ≠ some .folder) (contents : Contents) :
    Leads (tree.set location (.file contents)) true links here todo location := by
  have inner := inner_of_not_folder tree other
  have written := tree.entry?_set inner (.file contents)
  induction leads with
  | here => exact .here
  | stay _ ih => exact .stay (ih other inner written)
  | up _ ih => exact .up (ih other inner written)
  | missing plain _ => exact .file plain (by rw [written, if_pos rfl])
  | file plain _ => exact .file plain (by rw [written, if_pos rfl])
  | enter plain found _ ih =>
    refine .enter plain ?_ (ih other inner written)
    rw [written, if_neg, found]
    rintro rfl
    exact other found
  | link _ _ stops => cases stops
  | jump plain found goes onward ih =>
    refine .jump plain ?_ goes (ih other inner written)
    rw [written, if_neg, found]
    -- A place that the path leaves through a link is not where it ends.
    rintro rfl
    have above := (onward.prefix_of_link found).length_le
    rw [List.length_append, List.length_singleton] at above
    split at above
    · cases above
    · exact Nat.not_succ_le_self _ above

/-- What was written to a path is read from it. -/
theorem readText_of_writeText {tree after : FileTree} {path text : String}
    (written : tree.writeText path text = .ok after) : after.readText path = .ok text := by
  obtain ⟨place, located, other, rfl⟩ := located_of_write written
  obtain ⟨usable, leads⟩ := locate_eq_ok_iff.mp located
  have still : locate (tree.set place (.file (.text text))) true path = .ok place :=
    locate_eq_ok_iff.mpr ⟨usable, leads.set_file other _⟩
  apply readText_of_located still
  rw [ entry?_set tree (inner_of_not_folder tree other), if_pos rfl]

theorem makeFolder_extends {tree after : FileTree} {path : String}
    (made : tree.makeFolder path = .ok after) (written : Location → Prop) :
    Extends written tree after := by
  cases located : tree.locate false (dropSlashes path) with
  | error fault => simp [makeFolder, located, Bind.bind, Except.bind] at made
  | ok place =>
    cases found : tree.entry? place with
    | some entry => simp [makeFolder, located, found, Bind.bind, Except.bind] at made
    | none =>
      simp only [makeFolder, located, found, Bind.bind, Except.bind] at made
      cases made
      exact extends_set_folder found written

theorem makeFoldersUpTo_of_made {tree after : FileTree} {path : String} (filled : path ≠ "")
    (made : tree.makeFolder path = .ok after) (depth : Nat) :
    makeFoldersUpTo depth tree path = (after, .ok ()) := by
  have given : path.isEmpty = false := by simpa using filled
  unfold makeFoldersUpTo
  simp only [given, Bool.false_eq_true, if_false, made]

theorem makeFoldersUpTo_of_fault {tree : FileTree} {path : String} (filled : path ≠ "")
    {fault : FileError} (failed : tree.makeFolder path = .error fault)
    (other : fault ≠ .notFound) (depth : Nat) :
    makeFoldersUpTo depth tree path =
      (tree, if tree.isFolder path then .ok () else .error fault) := by
  have given : path.isEmpty = false := by simpa using filled
  unfold makeFoldersUpTo
  simp only [given, Bool.false_eq_true, if_false, failed]

theorem makeFoldersUpTo_extends (written : Location → Prop) (depth : Nat) (tree : FileTree)
    (path : String) : Extends written tree (tree.makeFoldersUpTo depth path).1 := by
  fun_induction makeFoldersUpTo depth tree path with
  | case1 => exact .refl written _
  | case2 => exact makeFolder_extends ‹_› written
  | case3 path _ _ depth above _ lower lowered made success ih =>
    rw [lowered] at ih
    exact ih.trans (makeFolder_extends success written)
  | case4 path _ _ _ depth above _ lower lowered fault _ ih =>
    rw [lowered] at ih
    exact ih
  | case5 _ _ _ _ _ _ _ ih => exact ih
  | case6 => exact .refl written _
  | case7 => exact .refl written _

theorem makeFolders_extends (written : Location → Prop) (tree : FileTree) (path : String) :
    Extends written tree (tree.makeFolders path).1 :=
  makeFoldersUpTo_extends written _ tree path

theorem keeps_erase {tree : FileTree} {place : Location} (writable : tree.Writable place)
    (inner : place ≠ []) : Keeps tree (tree.erase place) := by
  refine ⟨rfl, fun {other} kept => ?_, fun {other target} => ?_⟩
  · have different : other ≠ place := by
      rintro rfl
      exact writable.not_folder kept
    rw [ entry?_erase tree inner, if_neg different, kept]
  · rw [ entry?_erase tree inner]
    split
    · subst other
      simp [writable.not_link target]
    · rfl

theorem removeFile_of_located {tree : FileTree} {path : String} {place : Location}
    (located : tree.locate false path = .ok place) {contents : Contents}
    (found : tree.entry? place = some (.file contents)) :
    tree.removeFile path = .ok (tree.erase place) := by
  simp [removeFile, located, found, Bind.bind, Except.bind]

theorem keeps_of_removeFile {tree after : FileTree} (free : tree.LinkFree) {path : String}
    (removed : tree.removeFile path = .ok after) : Keeps tree after := by
  cases located : tree.locate false path with
  | error fault => simp [removeFile, located, Bind.bind, Except.bind] at removed
  | ok place =>
    by_cases folder : tree.entry? place = some .folder
    · simp [removeFile, located, folder, Bind.bind, Except.bind] at removed
    · have writable := writable_of_linkFree free folder
      rcases writable with absent | ⟨contents, found⟩
      · simp [removeFile, located, absent, Bind.bind, Except.bind] at removed
      · rw [removeFile_of_located located found] at removed
        cases removed
        exact keeps_erase (.inr ⟨contents, found⟩) (inner_of_not_folder tree folder)

end FileTree

end AnswerGraph
