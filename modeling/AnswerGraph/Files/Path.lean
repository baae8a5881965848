/-!
Paths as texts. A path is cut at its slashes; empty parts and dots say nothing, except that a path
that starts with a slash is absolute. The text of a parent is a piece of the path's own text.
-/

namespace AnswerGraph

namespace Path

/-- The parts between the slashes. -/
def splitSlashes : List Char → List (List Char)
  | [] => [[]]
  | c :: rest =>
    if c = '/' then [] :: splitSlashes rest
    else
      match splitSlashes rest with
      | [] => [[c]]
      | part :: parts => (c :: part) :: parts

def parts (path : String) : List String :=
  (splitSlashes path.toList).map String.ofList

def isAbsolute (path : String) : Bool :=
  path.toList.head? == some '/'

def endsWithSlash (path : String) : Bool :=
  path.toList.getLast? == some '/'

/-- The parts that name something. -/
def names (path : String) : List String :=
  (parts path).filter fun part => part != "" && part != "."

/-- The path that leads from `folder` along `path`. -/
def join (folder path : String) : String :=
  if isAbsolute path || folder.isEmpty then path
  else if endsWithSlash folder then folder ++ path
  else folder ++ "/" ++ path

/-- The last name of a path, unless it leads upwards. -/
def fileName? (path : String) : Option String :=
  match (names path).getLast? with
  | some ".." => none
  | last => last

/-- A file name before and after its last dot. A dot at the start is part of the name. -/
def splitExtension (name : String) : String × Option String :=
  let letters := name.toList
  let after := (letters.reverse.takeWhile (· != '.')).reverse
  let before := letters.take (letters.length - after.length - 1)
  if before.isEmpty then (name, none)
  else (String.ofList before, some (String.ofList after))

def extension? (path : String) : Option String :=
  (fileName? path).bind fun name => (splitExtension name).2

def fileStem? (path : String) : Option String :=
  (fileName? path).map fun name => (splitExtension name).1

/-- Removes slashes and single dots from the end of a path, given from its end. -/
def dropTail : List Char → List Char
  | '/' :: rest => dropTail rest
  | '.' :: '/' :: rest => dropTail rest
  | other => other

/-- The text of a path up to the end of its last name. -/
def body (path : String) : List Char :=
  (dropTail path.toList.reverse).reverse

/-- The path without its last name. The root and the empty path have no parent. -/
def parent? (path : String) : Option String :=
  let text := body path
  if text.isEmpty then none
  else
    let above := dropTail (text.reverse.dropWhile (· != '/'))
    some (if above.isEmpty && isAbsolute path then "/" else String.ofList above.reverse)

/-- The path with an extension in the place of its own. -/
def withExtension (path extension : String) : String :=
  match fileName? path, fileStem? path with
  | some name, some stem =>
    let text := body path
    String.ofList (text.take (text.length - name.length)) ++ stem ++ "." ++ extension
  | _, _ => path

end Path

end AnswerGraph
