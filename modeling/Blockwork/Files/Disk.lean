import Blockwork.Failure
import Blockwork.Files.Path

/-!
# The disk

A disk is a tree of directories with files in them, given by what stands at each location. A
location is the list of names on the way from the root. Operations are given the text of a path and
a working directory, follow the text name by name, and fail as a file system does.
-/

namespace Blockwork

/-- The names on the way from the root to a file or directory. -/
abbrev Location := List Bytes

/-- What stands at a location. -/
inductive Entry where
  /-- A file with its content. -/
  | file (content : Bytes)
  /-- A directory. -/
  | directory
deriving DecidableEq, Repr

/-- A tree of directories with files in them. -/
structure Disk where
  /-- What stands at each location below the root. -/
  entries : List (Location × Entry) := []
deriving DecidableEq, Repr

namespace Disk

/-- What stands at a location. The root is a directory. -/
def get? (disk : Disk) (location : Location) : Option Entry :=
  if location = [] then some .directory else disk.entries.lookup location

/-- Replaces the entry of a location, or adds it. -/
def replace (location : Location) (entry : Entry) :
    List (Location × Entry) → List (Location × Entry)
  | [] => [(location, entry)]
  | (other, old) :: rest =>
    if other = location then (location, entry) :: rest
    else (other, old) :: replace location entry rest

/-- The disk with something at a location. -/
def put (disk : Disk) (location : Location) (entry : Entry) : Disk :=
  ⟨replace location entry disk.entries⟩

/-- The disk without anything at a location or below it. -/
def erase (disk : Disk) (location : Location) : Disk :=
  ⟨disk.entries.filter fun entry => !location.isPrefixOf entry.1⟩

/-- The disk with everything at a location or below it moved to another. -/
def move (disk : Disk) (source target : Location) : Disk :=
  ⟨(disk.entries.filter fun entry => source = target || !target.isPrefixOf entry.1).map
    fun (location, entry) =>
      match source.isPrefixOf? location with
      | some rest => (target ++ rest, entry)
      | none => (location, entry)⟩

/-- The names of what stands directly in a directory, in order. -/
def names (disk : Disk) (location : Location) : List Bytes :=
  (disk.entries.filterMap fun (other, _) =>
    match location.isPrefixOf? other with
    | some [name] => some name
    | _ => none).mergeSort Bytes.precedes

/-- The longest name that is allowed. -/
def maxName : Nat := 255

/-- The longest path that is allowed. -/
def maxPath : Nat := 4095

/-- Follows elements from a location; every location that is left has to be a directory. -/
def walk (disk : Disk) (location : Location) : List Bytes → Except FileReason Location
  | [] => .ok location
  | element :: rest =>
    match disk.get? location with
    | none => .error .notFound
    | some (.file _) => .error .notDirectory
    | some .directory =>
      if element = Path.here then disk.walk location rest
      else if element = Path.above then disk.walk location.dropLast rest
      else if maxName < element.length then .error .nameTooLong
      else disk.walk (location ++ [element]) rest

/-- Whether the text of a path can only mean a directory. -/
def meansDirectory (path : Bytes) : Bool :=
  let last := (Path.split path).2
  last = [] || last = Path.here || last = Path.above

/-- The location that a path means. Everything before the last element is there. -/
def locate (disk : Disk) (workingDirectory : Location) (path : Bytes) :
    Except FileReason Location :=
  if path = [] then .error .notFound
  else if path.contains 0 then .error .invalidArgument
  else if maxPath < path.length then .error .nameTooLong
  else disk.walk (if Path.isAbsolute path then [] else workingDirectory) (Path.elements path)

/-- What stands at the location that a path means. -/
def find (disk : Disk) (workingDirectory : Location) (path : Bytes) :
    Except FileReason (Location × Entry) := do
  let location ← disk.locate workingDirectory path
  match disk.get? location with
  | none => .error .notFound
  | some (.file content) =>
    if meansDirectory path then .error .notDirectory else .ok (location, .file content)
  | some .directory => .ok (location, .directory)

/-- The content of a file. -/
def content (disk : Disk) (workingDirectory : Location) (path : Bytes) :
    Except FileError Bytes :=
  match disk.find workingDirectory path with
  | .error reason => .error ⟨"open", path, reason⟩
  | .ok (_, .directory) => .error ⟨"read", path, .isDirectory⟩
  | .ok (_, .file content) => .ok content

/-- The disk with a file of the given content; an old file is replaced. -/
def writeFile (disk : Disk) (workingDirectory : Location) (path content : Bytes) :
    Except FileError Disk :=
  match disk.locate workingDirectory path with
  | .error reason => .error ⟨"open", path, reason⟩
  | .ok location =>
    match disk.get? location with
    | some .directory => .error ⟨"open", path, .isDirectory⟩
    | some (.file _) =>
      if meansDirectory path then .error ⟨"open", path, .notDirectory⟩
      else .ok (disk.put location (.file content))
    | none =>
      if meansDirectory path then .error ⟨"open", path, .isDirectory⟩
      else .ok (disk.put location (.file content))

/-- The disk with text added at the end of a file that is there. -/
def appendFile (disk : Disk) (workingDirectory : Location) (path text : Bytes) : Disk :=
  match disk.find workingDirectory path with
  | .ok (location, .file content) => disk.put location (.file (content ++ text))
  | _ => disk

/-- The disk with one more directory. -/
def makeDirectory (disk : Disk) (workingDirectory : Location) (path : Bytes) :
    Except FileError Disk :=
  match disk.locate workingDirectory path with
  | .error reason => .error ⟨"mkdir", path, reason⟩
  | .ok location =>
    match disk.get? location with
    | some _ => .error ⟨"mkdir", path, .exists⟩
    | none => .ok (disk.put location .directory)

/-- The text of a path before its last element, with the slash. -/
def parentText (path : Bytes) : Bytes :=
  ((path.reverse.dropWhile (· = Path.slash)).dropWhile (· ≠ Path.slash)).reverse

/-- The disk with a directory and all those above it, as far as they are missing. `steps` bounds
the number of directories above. -/
def makeDirectoriesWithin (workingDirectory : Location) :
    Nat → Disk → Bytes → Except FileError Disk
  | 0, disk, path => disk.makeDirectory workingDirectory path
  | steps + 1, disk, path =>
    match disk.find workingDirectory path with
    | .ok (_, .directory) => .ok disk
    | .ok (_, .file _) => .error ⟨"mkdir", path, .notDirectory⟩
    | .error _ => do
      let parent := parentText path
      let disk ← if parent = [] then .ok disk
        else makeDirectoriesWithin workingDirectory steps disk parent
      match disk.makeDirectory workingDirectory path with
      | .ok disk => .ok disk
      | .error error =>
        match disk.find workingDirectory path with
        | .ok (_, .directory) => .ok disk
        | _ => .error error

/-- The disk with a directory and all those above it, as far as they are missing. -/
def makeDirectories (disk : Disk) (workingDirectory : Location) (path : Bytes) :
    Except FileError Disk :=
  makeDirectoriesWithin workingDirectory (path.length + 1) disk path

/-- Whether a path has no name of its own for what it means. -/
def isUnnamed (path : Bytes) : Bool :=
  match (Path.elements path).getLast? with
  | none => true
  | some last => last = Path.here || last = Path.above

/-- The disk with what stands at one path moved to another. The place of a directory is not taken,
a directory takes no place but a free one, and nothing goes below itself or takes the place of what
it is in. -/
def rename (disk : Disk) (workingDirectory : Location) (old new : Bytes) :
    Except FileReason Disk := do
  let (source, entry) ← disk.find workingDirectory old
  let target ← disk.locate workingDirectory new
  let taken := disk.get? target
  if taken = some .directory then .error .exists
  else if isUnnamed old then .error .busy
  else if entry ≠ .directory ∧ meansDirectory new then .error .notDirectory
  else if source = target then .ok disk
  else if source.isPrefixOf target then .error .invalidArgument
  else if target.isPrefixOf source then .error .notEmpty
  else if entry = .directory ∧ taken ≠ none then .error .notDirectory
  else .ok (disk.move source target)

/-- The disk without what a path means and without all below it. It may be gone already. -/
def removeAll (disk : Disk) (workingDirectory : Location) (path : Bytes) : Except FileError Disk :=
  match disk.locate workingDirectory path with
  | .ok location => .ok (disk.erase location)
  | .error .notFound => .ok disk
  | .error reason => .error ⟨"unlinkat", path, reason⟩

/-- The disk with more files, each with the directories above it. A path with a slash at its end
stands for a directory. What cannot be made is left out. -/
def fill (disk : Disk) (workingDirectory : Location) (files : List (Bytes × Bytes)) : Disk :=
  files.foldl (fun disk (path, content) =>
    let isDirectory := path.getLast? = some Path.slash
    let wanted := if isDirectory then path else Path.directory path
    let disk := (disk.makeDirectories workingDirectory wanted).toOption.getD disk
    if isDirectory then disk
    else (disk.writeFile workingDirectory path content).toOption.getD disk) disk

/-- What a disk has that another has not, or has otherwise. -/
def changes (before after : Disk) : List (Location × Entry) :=
  after.entries.filter fun (location, entry) => before.get? location ≠ some entry

/-- Where a disk had files of which another has nothing left. -/
def losses (before after : Disk) : List Location :=
  before.entries.filterMap fun (location, entry) =>
    match entry with
    | .file _ => if after.get? location = none then some location else none
    | .directory => none

/-- Every file below a location, with the rest of its location. -/
def filesBelow (disk : Disk) (location : Location) : List (Location × Bytes) :=
  disk.entries.filterMap fun (other, entry) =>
    match location.isPrefixOf? other, entry with
    | some rest, .file content => some (rest, content)
    | _, _ => none

end Disk

/-- The text of a location. -/
def Location.text (location : Location) : Bytes := Path.render true location

end Blockwork
