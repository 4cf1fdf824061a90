import MetaParity.Model

/-!
# Paths and files

A path is text whose segments are separated by slashes. An empty segment, or one that is a single dot, names nothing,
except for a leading dot of a relative path and for the empty segment in front of an absolute one. Files form a tree, as
a program sees it from its working directory, that is looked into by reading a file, listing a directory and creating a
file.
-/

namespace MetaParity

/-! ## Paths -/

namespace Path

/-- The segments of a path, the empty ones included; there is at least one. -/
def segments (path : String) : List String :=
  go path.toList
where
  go : List Char → List String
    | [] => [""]
    | c :: rest =>
      match go rest with
      | [] => [""]
      | first :: others => if c = '/' then "" :: first :: others else String.ofList (c :: first.toList) :: others

def ofSegments (segments : List String) : String :=
  if segments = [""] then "/" else String.intercalate "/" segments

def isAbsolute (path : String) : Bool :=
  path.toList.head? = some '/'

/-- Segments, last first, without those at the end that name nothing; the first segment of a path is kept. -/
def trimReversed : List String → List String
  | segment :: before :: rest =>
    if segment = "" ∨ segment = "." then trimReversed (before :: rest) else segment :: before :: rest
  | segments => segments

/-- The path without its last segment. A path of one segment lies in the directory with the empty name; the root and the
empty path lie in none. -/
def parent? (path : String) : Option String :=
  match trimReversed (segments path).reverse with
  | [] => none
  | [segment] => if segment = "" then none else some ""
  | _ :: before => some (ofSegments (trimReversed before).reverse)

/-- The path of a name in a directory; an absolute name stands for itself. -/
def join (directory name : String) : String :=
  if isAbsolute name ∨ directory = "" then name
  else if directory.toList.getLast? = some '/' then directory ++ name
  else directory ++ "/" ++ name

end Path

/-! ## Files -/

inductive FileError where
  | notFound
  | notADirectory
  | isADirectory
  | permissionDenied
  | nameTooLong
  | invalidName
  | notText
deriving DecidableEq, Inhabited, Repr

def FileError.message : FileError → String
  | notFound => "No such file or directory (os error 2)"
  | notADirectory => "Not a directory (os error 20)"
  | isADirectory => "Is a directory (os error 21)"
  | permissionDenied => "Permission denied (os error 13)"
  | nameTooLong => "File name too long (os error 36)"
  | invalidName => "file name contained an unexpected NUL byte"
  | notText => "stream did not contain valid UTF-8"

abbrev Place := List String

inductive Node where
  | directory
  | file (bytes : Bytes)
  /-- A file that may be neither read nor written. -/
  | locked
deriving DecidableEq, Inhabited

/-- Files and directories by place, and the place that relative paths start from. Every directory on the way to an entry
exists. -/
structure Files where
  workingDirectory : Place := ["work"]
  entries : List (Place × Node) := []
deriving DecidableEq, Inhabited

namespace Files

def node? (files : Files) (place : Place) : Option Node :=
  match files.entries.lookup place with
  | some node => some node
  | none =>
    if place.isPrefixOf files.workingDirectory || files.entries.any (place.isPrefixOf ·.1) then some .directory
    else none

def requireDirectory (files : Files) (place : Place) : Except FileError Unit :=
  match files.node? place with
  | none => .error .notFound
  | some .directory => .ok ()
  | some _ => .error .notADirectory

def maxNameLength : Nat := 255

def maxPathLength : Nat := 4095

/-- The place one segment further on. Every segment is looked up in a directory. -/
def step (files : Files) (place : Place) (segment : String) : Except FileError Place := do
  files.requireDirectory place
  if segment = "" ∨ segment = "." then return place
  else if segment = ".." then return place.dropLast
  else if maxNameLength < segment.utf8ByteSize then throw .nameTooLong
  else return place ++ [segment]

/-- The place that the segments of a path lead to, whether or not anything stands there. -/
def walk (files : Files) (place : Place) (segments : List String) : Except FileError Place :=
  segments.foldlM files.step place

/-- Where a path starts, once its text is acceptable. -/
def origin (files : Files) (path : String) : Except FileError Place :=
  if path.toList.contains '\x00' then .error .invalidName
  else if path = "" then .error .notFound
  else if maxPathLength < path.utf8ByteSize then .error .nameTooLong
  else .ok (if Path.isAbsolute path then [] else files.workingDirectory)

def resolve (files : Files) (path : String) : Except FileError (Place × Node) := do
  let place ← files.walk (← files.origin path) (Path.segments path)
  match files.node? place with
  | none => throw .notFound
  | some node => return (place, node)

def contains (files : Files) (path : String) : Bool :=
  (files.resolve path).isOk

def isDirectory (files : Files) (path : String) : Bool :=
  match files.resolve path with
  | .ok (_, .directory) => true
  | _ => false

def read (files : Files) (path : String) : Except FileError Bytes := do
  match (← files.resolve path).2 with
  | .file bytes => return bytes
  | .directory => throw .isADirectory
  | .locked => throw .permissionDenied

def readText (files : Files) (path : String) : Except FileError String := do
  match String.fromUTF8? ⟨(← files.read path).toArray⟩ with
  | some text => return text
  | none => throw .notText

/-- The names of the files directly inside the directory at a path, in ascending order. -/
def filesIn (files : Files) (path : String) : Except FileError (List String) := do
  match ← files.resolve path with
  | (place, .directory) =>
    let names := files.entries.filterMap fun (there, node) =>
      if node ≠ .directory ∧ there.dropLast = place then there.getLast? else none
    return names.mergeSort (· ≤ ·)
  | _ => throw .notADirectory

def put (files : Files) (place : Place) (bytes : Bytes) : Files :=
  { files with entries := files.entries.filter (·.1 ≠ place) ++ [(place, .file bytes)] }

/-- The place at which a path lets a file be created; a path that ends in a slash or in dots names a directory. -/
def target (files : Files) (path : String) : Except FileError Place := do
  let segments := Path.segments path
  let named := (segments.reverse.dropWhile (· = "")).reverse
  let place ← files.walk (← files.origin path) named.dropLast
  files.requireDirectory place
  match named.getLast? with
  | none | some "." | some ".." => throw .isADirectory
  | some name =>
    if named.length < segments.length then throw .isADirectory
    let place ← files.step place name
    match files.node? place with
    | some .directory => throw .isADirectory
    | some .locked => throw .permissionDenied
    | _ => return place

def write (files : Files) (path : String) (bytes : Bytes) : Except FileError Files := do
  return files.put (← files.target path) bytes

def ofLists (directories : List String) (contents : List (String × Bytes)) : Files :=
  let place (path : String) : Place :=
    ({} : Files).workingDirectory ++ (Path.segments path).filter fun name => name ≠ "" ∧ name ≠ "."
  contents.foldl (fun files (path, bytes) => files.put (place path) bytes)
    { entries := directories.map fun path => (place path, .directory) }

end Files

end MetaParity
