import AnswerGraph.Files.Path

/-!
A tree of files, folders and symbolic links. The tree is a map from locations, which are lists of
names, to entries; a path is a text that is followed to a location, part by part. Relative paths
start at the working folder.
-/

namespace AnswerGraph

/-- The bytes of a file: a text, or bytes that are not the encoding of any text. -/
inductive Contents where
  | text (value : String)
  | binary (bytes : List UInt8)
  deriving DecidableEq, Repr

namespace Contents

/-- The contents that are stored as the given bytes. -/
def ofBytes (bytes : ByteArray) : Contents :=
  match String.fromUTF8? bytes with
  | some value => .text value
  | none => .binary bytes.toList

def toBytes : Contents → ByteArray
  | text value => value.toUTF8
  | binary bytes => ⟨bytes.toArray⟩

end Contents

inductive Entry where
  | file (contents : Contents)
  | folder
  | link (target : String)
  deriving DecidableEq, Repr

/-- Why a file operation fails. -/
inductive FileError where
  | notFound
  | notAFolder
  | isAFolder
  | alreadyExists
  /-- A path with a zero character. -/
  | invalidPath
  | nameTooLong
  | tooManyLinks
  /-- The bytes of a file are not a text. -/
  | notText
  /-- A link leads back to a folder that is being walked. -/
  | loop
  deriving DecidableEq, Repr

abbrev Location := List String

structure FileTree where
  entries : List (Location × Entry) := []
  /-- The working folder, where relative paths start. -/
  working : Location := []
  deriving Repr

namespace FileTree

/-- A tree that has only the working folder and the folders above it. -/
def empty (working : Location) : FileTree :=
  { entries := (List.range working.length).map fun count => (working.take (count + 1), .folder)
    working }

/-- The entry at a location; the root is a folder. -/
def entry? (tree : FileTree) (location : Location) : Option Entry :=
  if location.isEmpty then some .folder else tree.entries.lookup location

def set (tree : FileTree) (location : Location) (entry : Entry) : FileTree :=
  { tree with entries := (location, entry) :: tree.entries.filter (·.1 != location) }

def erase (tree : FileTree) (location : Location) : FileTree :=
  { tree with entries := tree.entries.filter (·.1 != location) }

/-! ## Following paths -/

/-- The longest name in bytes, and the longest path. -/
def maxName : Nat := 255

def maxPath : Nat := 4095

/-- The links that one path may lead through. -/
def maxLinks : Nat := 40

/-- The parts of a path that move somewhere, or stay. -/
def steps (path : String) : List String :=
  (Path.parts path).filter (· != "")

/-- Follows steps from a folder. The last step may lead to a location without entry. A link at the
last step is followed if `through` is set. -/
def follow (tree : FileTree) (through : Bool) (links : Nat) (here : Location) (todo : List String) :
    Except FileError Location :=
  match todo with
  | [] => .ok here
  | name :: rest =>
    if name = "." then tree.follow through links here rest
    else if name = ".." then tree.follow through links here.dropLast rest
    else if maxName < name.utf8ByteSize then .error .nameTooLong
    else
      let next := here ++ [name]
      match tree.entry? next with
      | none => if rest.isEmpty then .ok next else .error .notFound
      | some (.file _) => if rest.isEmpty then .ok next else .error .notAFolder
      | some .folder => tree.follow through links next rest
      | some (.link target) =>
        if rest.isEmpty && !through then .ok next
        else
          match links with
          | 0 => .error .tooManyLinks
          | links + 1 =>
            tree.follow through links (if Path.isAbsolute target then [] else here)
              (steps target ++ rest)
termination_by (links, todo.length)

/-- The location that a path leads to. A slash at its end asks for a folder. -/
def locate (tree : FileTree) (through : Bool) (path : String) : Except FileError Location :=
  if path.isEmpty then .error .notFound
  else if path.toList.contains (Char.ofNat 0) then .error .invalidPath
  else if maxPath < path.utf8ByteSize then .error .nameTooLong
  else
    tree.follow through maxLinks (if Path.isAbsolute path then [] else tree.working)
      (steps path ++ if Path.endsWithSlash path then ["."] else [])

/-! ## Operations -/

/-- The bytes of a file. -/
def read (tree : FileTree) (path : String) : Except FileError Contents := do
  let location ← tree.locate true path
  match tree.entry? location with
  | some (.file contents) => .ok contents
  | some .folder => .error .isAFolder
  | _ => .error .notFound

/-- The text of a file. -/
def readText (tree : FileTree) (path : String) : Except FileError String := do
  match ← tree.read path with
  | .text value => .ok value
  | .binary _ => .error .notText

/-- Writes a file, over an old one if there is one. -/
def write (tree : FileTree) (path : String) (contents : Contents) : Except FileError FileTree := do
  let location ← tree.locate true path
  match tree.entry? location with
  | some .folder => .error .isAFolder
  | _ => .ok (tree.set location (.file contents))

def writeText (tree : FileTree) (path text : String) : Except FileError FileTree :=
  tree.write path (.text text)

/-- Deletes a file or a link. -/
def removeFile (tree : FileTree) (path : String) : Except FileError FileTree := do
  let location ← tree.locate false path
  match tree.entry? location with
  | some .folder => .error .isAFolder
  | some _ => .ok (tree.erase location)
  | none => .error .notFound

def isFolder (tree : FileTree) (path : String) : Bool :=
  match tree.locate true path with
  | .ok location => tree.entry? location == some .folder
  | .error _ => false

/-- The path without the slashes at its end. -/
def dropSlashes (path : String) : String :=
  let kept := (path.toList.reverse.dropWhile (· == '/')).reverse
  if kept.isEmpty then path else String.ofList kept

/-- Makes one folder in a folder that exists. -/
def makeFolder (tree : FileTree) (path : String) : Except FileError FileTree := do
  let location ← tree.locate false (dropSlashes path)
  match tree.entry? location with
  | some _ => .error .alreadyExists
  | none => .ok (tree.set location .folder)

/-- Makes a folder and those above it, at most `depth` of them. Folders that were made stay even if
a later one cannot be made. -/
def makeFoldersUpTo (depth : Nat) (tree : FileTree) (path : String) :
    FileTree × Except FileError Unit :=
  let given (tree : FileTree) (fault : FileError) : FileTree × Except FileError Unit :=
    (tree, if tree.isFolder path then .ok () else .error fault)
  if path.isEmpty then (tree, .ok ())
  else
    match tree.makeFolder path with
    | .ok made => (made, .ok ())
    | .error .notFound =>
      match depth, Path.parent? path with
      | depth + 1, some above =>
        match makeFoldersUpTo depth tree above with
        | (tree, .ok ()) =>
          match tree.makeFolder path with
          | .ok made => (made, .ok ())
          | .error fault => given tree fault
        | failed => failed
      | _, _ => (tree, .error .notFound)
    | .error fault => given tree fault

/-- Makes a folder and all folders above it. -/
def makeFolders (tree : FileTree) (path : String) : FileTree × Except FileError Unit :=
  makeFoldersUpTo (Path.parts path).length tree path

/-- Puts a symbolic link at a path. -/
def makeLink (tree : FileTree) (target path : String) : Except FileError FileTree := do
  let location ← tree.locate false path
  match tree.entry? location with
  | some _ => .error .alreadyExists
  | none => .ok (tree.set location (.link target))

/-- Names and entries in a folder, in the order of the names. -/
def children (tree : FileTree) (location : Location) : List (String × Entry) :=
  let found := tree.entries.filterMap fun (place, entry) =>
    if place.dropLast = location then place.getLast?.map (·, entry) else none
  found.mergeSort fun a b => a.1 ≤ b.1

/-- The files below the working folder, by their paths from it. -/
def workingFiles (tree : FileTree) : List (String × Contents) :=
  tree.entries.filterMap fun (place, entry) =>
    match entry with
    | .file contents =>
      if tree.working.isPrefixOf place then
        some ("/".intercalate (place.drop tree.working.length), contents)
      else none
    | _ => none

end FileTree

end AnswerGraph
