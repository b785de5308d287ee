import NetworkTwin.Dictionary
import NetworkTwin.Text.Blank

/-!
Files and directories held in memory, for runs that are to leave no trace. A path that starts with a
slash starts at the root, any other at the working directory. Dots in it are followed as they stand,
so each directory on the way has to exist; the root is its own parent.
-/

namespace NetworkTwin

/-- Files and directories. Both are named by their path from the root, without dots and without a
slash at either end; the root itself is not listed. -/
structure FileTree where
  files : Dictionary ByteArray
  directories : Dictionary Unit
  workingDirectory : List String

/-- A place that a path leads to: names from the root, and whether the path insists on a
directory. -/
structure Place where
  names : List String
  mustBeDirectory : Bool

namespace FileTree

def pathOf (names : List String) : String := Text.joinWith "/" names

def hasDirectory (tree : FileTree) (names : List String) : Bool :=
  names.isEmpty || tree.directories.contains (pathOf names)

/-- The beginnings of a list of names, but for the empty one. -/
def ancestry : List String → List (List String)
  | [] => []
  | name :: rest => [name] :: (ancestry rest).map (name :: ·)

def addDirectory (tree : FileTree) (names : List String) : FileTree :=
  let add (directories : Dictionary Unit) (above : List String) : Dictionary Unit :=
    directories.insert (pathOf above) ()
  { tree with directories := (ancestry names).foldl add tree.directories }

def empty : FileTree :=
  let names := ["home", "work"]
  addDirectory ⟨.empty, .empty, names⟩ names

def parts (path : String) : List String := (Text.splitAt '/' path.toList).map String.ofList

def startOf (tree : FileTree) (path : String) : List String :=
  if path.startsWith "/" then [] else tree.workingDirectory

/-- Adds a file by a path without dots, with the directories on the way. -/
def addFile (tree : FileTree) (path : String) (content : ByteArray) : FileTree :=
  let names := tree.startOf path ++ (parts path).filter (!·.isEmpty)
  let grown := tree.addDirectory names.dropLast
  { grown with files := grown.files.insert (pathOf names) content }

/-- Follows the parts of a path, given the names so far. Each part but the last has to lead to a
directory. -/
def follow? (tree : FileTree) (names : List String) : List String → Option (List String)
  | [] => some names
  | part :: rest =>
      if !tree.hasDirectory names then none
      else if part.isEmpty || part = "." then follow? tree names rest
      else if part = ".." then follow? tree names.dropLast rest
      else follow? tree (names ++ [part]) rest

def insistsOnDirectory (parts : List String) : Bool :=
  match parts.getLast? with
  | some last => last.isEmpty || last = "." || last = ".."
  | none => false

def place? (tree : FileTree) (path : String) : Option Place := do
  if path.isEmpty then none
  else some ⟨← tree.follow? (tree.startOf path) (parts path), insistsOnDirectory (parts path)⟩

def read? (tree : FileTree) (path : String) : Option ByteArray := do
  let place ← tree.place? path
  if place.mustBeDirectory then none else tree.files.get? (pathOf place.names)

/-- Writes a file, over one that is there. The directory has to exist. -/
def write? (tree : FileTree) (path : String) (content : ByteArray) : Option FileTree := do
  let place ← tree.place? path
  if place.mustBeDirectory || tree.hasDirectory place.names then none
  else some { tree with files := tree.files.insert (pathOf place.names) content }

def isPresent (tree : FileTree) (path : String) : Bool :=
  match tree.place? path with
  | some place =>
      tree.hasDirectory place.names ||
        (!place.mustBeDirectory && tree.files.contains (pathOf place.names))
  | none => false

def makeParts? (tree : FileTree) (names : List String) : List String → Option FileTree
  | [] => some tree
  | part :: rest =>
      if part.isEmpty || part = "." then makeParts? tree names rest
      else if part = ".." then makeParts? tree names.dropLast rest
      else
        let deeper := names ++ [part]
        if tree.files.contains (pathOf deeper) then none
        else makeParts? (tree.addDirectory deeper) deeper rest

/-- Makes a directory and those above it, as far as they do not exist. The empty path stands for
the working directory. -/
def makeDirectories? (tree : FileTree) (path : String) : Option FileTree :=
  if path.isEmpty then some tree else tree.makeParts? (tree.startOf path) (parts path)

/-- The path of a file as it is seen from the working directory, if the file is below it. -/
def shownPath (tree : FileTree) (path : String) : String :=
  let names := parts path
  if tree.workingDirectory.isPrefixOf names then pathOf (names.drop tree.workingDirectory.length)
  else "/" ++ path

def changesSince (tree earlier : FileTree) : List (String × ByteArray) :=
  let isChanged (entry : String × ByteArray) : Bool :=
    match earlier.files.get? entry.1 with
    | some content => !(content == entry.2)
    | none => true
  (tree.files.entries.filter isChanged).map fun entry => (tree.shownPath entry.1, entry.2)

end FileTree

end NetworkTwin
