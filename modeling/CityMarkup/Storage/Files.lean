import CityMarkup.Failure

/-!
# Files

A tree of files and directories below one directory, from which all paths
start.  This directory is the root of all that the process sees: a slash at the
front of a path leads to it as well, and the two dots do not lead above it.  A
file is saved by filling a temporary file in the directory of the target and
then moving it to the target, so either the target holds everything or nothing
has changed.
-/

namespace CityMarkup

/-- A file with its content, or a directory. -/
inductive FileEntry where
  | file (bytes : List UInt8)
  | directory
deriving DecidableEq, Repr

/-- Files and directories, each at its path from the starting directory, the
path of the starting directory itself, and the size of the largest file that
still finds room. -/
structure Files where
  start : String
  entries : List (List String × FileEntry)
  room : Option Nat
deriving DecidableEq, Repr

namespace Files

/-- The names that a path is made of, with the dots and the empty names. -/
def parts (path : String) : List String :=
  (path.toList.splitOn '/').map String.ofList

/-- The names of a path that lead somewhere.  Nothing stands before the first
slash of an absolute path, which is thus a path from the start like others. -/
def steps (parts : List String) : List String :=
  parts.filter fun name => name != "" && name != "."

/-- The parts of a path, the last one first, without those at its end that
lead nowhere.  A dot at the start of a path stays. -/
def trimmed : List String → List String
  | [] => []
  | ["."] => ["."]
  | part :: outer =>
    if part = "" ∨ part = "." then trimmed outer else part :: outer

/-- The path of the directory in which a path ends, empty for the starting
directory. -/
def parentPath (path : String) : String :=
  "/".intercalate (trimmed (trimmed (parts path).reverse).tail).reverse

/-- No files at all below a directory, and room for any. -/
def below (start : String) : Files :=
  ⟨start, [], none⟩

/-- No files at all. -/
def empty : Files :=
  below "/"

instance : Inhabited Files := ⟨empty⟩

/-- What stands at a place.  The starting directory is always there. -/
def get? (files : Files) (place : List String) : Option FileEntry :=
  if place.isEmpty then
    some .directory
  else
    (files.entries.find? fun entry => entry.1 == place).map (·.2)

/-- Puts an entry at a place, instead of anything that was there. -/
def put (files : Files) (place : List String) (entry : FileEntry) : Files :=
  { files with
    entries :=
      files.entries.filter (fun other => other.1 != place) ++
        [(place, entry)] }

/-- Takes away what stands at a place. -/
def remove (files : Files) (place : List String) : Files :=
  { files with
    entries := files.entries.filter fun other => other.1 != place }

/-- Whether a file of so many bytes finds room. -/
def hasRoom (files : Files) (size : Nat) : Bool :=
  files.room.all fun room => decide (size ≤ room)

/-- The longest name, in bytes, that an entry may have. -/
def longestName : Nat := 255

/-- The longest path, in bytes, that may be asked for. -/
def longestPath : Nat := 4095

/-- The number of bytes in the name of a temporary file. -/
def temporaryNameSize : Nat := 10

/-- Whether a text holds the character that ends a name, which no path may
hold. -/
def holdsNul (text : String) : Bool :=
  text.toList.contains '\x00'

/-- Whether a path may be asked for at all. -/
def isUsable (path : String) : Bool :=
  !holdsNul path && decide (path.utf8ByteSize ≤ longestPath)

/-- Whether a path ends with the name of an entry. -/
def endsWithName (path : String) : Bool :=
  (parts path).getLast?.any fun last => last ∉ ["", ".", ".."]

/-- The directory that one step leads to.  Two dots lead one level up, and
from the starting directory, which is the root, they lead nowhere. -/
def step (files : Files) (place : List String) (name : String) :
    Except IoFault (List String) :=
  if name = ".." then
    .ok place.dropLast
  else if longestName < name.utf8ByteSize then
    .error .nameTooLong
  else
    match files.get? (place ++ [name]) with
    | none => .error .notFound
    | some (.file _) => .error .notDirectory
    | some .directory => .ok (place ++ [name])

/-- The directory that some steps lead to. -/
def walk (files : Files) (names : List String) : Except IoFault (List String) :=
  names.foldlM (files.step ·) []

/-- Where a finished file goes when it is moved to a path.  The last name may
be followed by no slash and must not be that of a directory. -/
def target (files : Files) (path : String) : Except IoFault (List String) :=
  if holdsNul path then
    .error .invalidArgument
  else if path = "" then
    .error .notFound
  else if longestPath < path.utf8ByteSize then
    .error .nameTooLong
  else
    let reversed := (parts path).reverse
    let names := reversed.dropWhile (· == "")
    match names with
    | [] => .error .busy
    | last :: outer =>
      match files.walk (steps outer.reverse) with
      | .error fault => .error fault
      | .ok directory =>
        if last = "." ∨ last = ".." then .error .busy
        else if longestName < last.utf8ByteSize then .error .nameTooLong
        else if reversed.head? = some "" then .error .notDirectory
        else if files.get? (directory ++ [last]) = some .directory then
          .error .isDirectory
        else .ok (directory ++ [last])

/-- The directory for the temporary file of a path.  The temporary file is
asked for by its full path, which must not be too long. -/
def temporaryDirectory (files : Files) (path : String) :
    Except IoFault (List String) :=
  let parent := parentPath path
  let parent := if parent = "" then "." else parent
  let size := files.start.utf8ByteSize + 1 + parent.utf8ByteSize + 1
  if holdsNul parent then .error .nulInName
  else if longestPath < size + temporaryNameSize then .error .nameTooLong
  else files.walk (steps (parts path)).dropLast

/-- A name that is longer than every name in a path and every name in use, so
that it is the name of nothing else. -/
def freshName (files : Files) (path : String) : String :=
  let names := parts path ++ files.entries.flatMap fun entry => entry.1
  String.ofList ('.' :: (names.flatMap String.toList).map fun _ => 't')

/-- Moves a filled temporary file to a path, or takes it away again. -/
def persist (path : String) (temporary : List String) (bytes : List UInt8)
    (files : Files) : Except IoFault Unit × Files :=
  match files.target path with
  | .error fault => (.error fault, files.remove temporary)
  | .ok place =>
    (.ok (), (files.remove temporary).put place (.file bytes))

/-- Saves bytes at a path. -/
def save (path : String) (bytes : List UInt8) (files : Files) :
    Except IoFault Unit × Files :=
  match files.temporaryDirectory path with
  | .error fault => (.error fault, files)
  | .ok directory =>
    let temporary := directory ++ [files.freshName path]
    let created := files.put temporary (.file [])
    if files.hasRoom bytes.length then
      persist path temporary bytes (created.put temporary (.file bytes))
    else
      (.error .noSpace, created.remove temporary)

/-- The place that some steps lead to, which may be empty. -/
def locate (files : Files) (names : List String) :
    Except IoFault (List String) :=
  match files.walk names.dropLast, names.getLast? with
  | .error fault, _ => .error fault
  | .ok directory, none => .ok directory
  | .ok directory, some last =>
    if last = ".." then .ok directory.dropLast
    else if longestName < last.utf8ByteSize then .error .nameTooLong
    else .ok (directory ++ [last])

/-- The place of the file that a path names, if it may name a file. -/
def filePlace? (files : Files) (path : String) : Option (List String) :=
  if isUsable path && endsWithName path then
    (files.locate (steps (parts path))).toOption
  else
    none

/-- Writes a file directly, if its directory is there. -/
def placeContent (files : Files) (path : String) (bytes : List UInt8) : Files :=
  match files.filePlace? path with
  | none => files
  | some place =>
    if files.get? place = some .directory then files
    else files.put place (.file bytes)

/-- The names of the directories to make for a path.  A directory is not made
by the dot inside it. -/
def directoryNames (path : String) : List String :=
  let names := steps (parts path)
  if ((parts path).reverse.dropWhile (· == "")).head? = some "." then
    names.dropLast
  else
    names

/-- Makes a directory and the directories that lead to it. -/
def makeDirectory (files : Files) (path : String) : Files :=
  if isUsable path then
    let names := directoryNames path
    (List.range names.length).foldl (fun files i =>
      match files.locate (names.take (i + 1)) with
      | .error _ => files
      | .ok place =>
        if (files.get? place).isSome then files
        else files.put place .directory)
      files
  else
    files

/-- The content of a file. -/
def contentAt? (files : Files) (path : String) : Option (List UInt8) :=
  match (files.filePlace? path).bind files.get? with
  | some (.file bytes) => some bytes
  | _ => none

/-- The paths of all entries in increasing order, those of directories with a
slash at their end. -/
def listing (files : Files) : List String :=
  let paths := files.entries.map fun entry =>
    let path := "/".intercalate entry.1
    match entry.2 with
    | .file _ => path
    | .directory => path ++ "/"
  paths.mergeSort fun a b => decide (a ≤ b)

end Files

end CityMarkup
