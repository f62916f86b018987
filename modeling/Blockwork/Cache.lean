import Blockwork.Cache.Entry
import Blockwork.Cache.Sha256
import Blockwork.Session

/-!
# The snapshot cache

Snapshots are kept in a directory, one file for each source text, named by the digest of the text.
An entry is written to a temporary file first and moved to its place then, so that nobody reads half
of it.
-/

namespace Blockwork

/-- A cache in a directory. -/
structure Cache where
  /-- The path of the directory. -/
  directory : Bytes
deriving DecidableEq, Repr

/-- Why an entry cannot be read. -/
inductive CacheError where
  /-- The file cannot be read. -/
  | file (error : FileError)
  /-- The file holds no entry. -/
  | undecodable
deriving DecidableEq, Repr

namespace CacheError

/-- An error of the cache as a failure. -/
def toFailure : CacheError → Failure
  | .file error => .file error
  | .undecodable => .text (utf8 "undecodable cache entry")

end CacheError

namespace Cache

/-- The digest by which a source text is found. The version of the layout is part of it, so that
another layout finds nothing. -/
def key (source : Bytes) : Bytes :=
  Sha256.digest (Bytes.bigEndian 2 Snapshot.currentSchema.toNat ++ source)

/-- The directory of the entries. -/
def entries (cache : Cache) : Bytes := Path.join [cache.directory, utf8 "ir"]

/-- The file of an entry. -/
def path (cache : Cache) (key : Bytes) : Bytes :=
  Path.join [cache.directory, utf8 "ir", key.hexText ++ utf8 ".mp"]

/-- Opens a cache, making its directory. -/
def openAt (directory : Bytes) : Work (Except Failure Cache) := do
  match ← Work.makeDirectories directory with
  | .error failure => pure (.error failure)
  | .ok () => pure (.ok ⟨directory⟩)

/-- Opens the cache of an application in the usual place. -/
def openFor (application : String) : Work (Except Failure Cache) := do
  let session ← get
  if session.cacheHome ≠ [] then openAt (Path.join [session.cacheHome, utf8 application])
  else if session.home ≠ [] then
    openAt (Path.join [session.home, utf8 ".cache", utf8 application])
  else pure (.error (.text (utf8 "$HOME is not defined")))

/-- The name of a temporary file that is not there yet. -/
def temporaryName (taken : List Bytes) : Bytes :=
  let candidate (number : Nat) := utf8 "tmp-" ++ Bytes.decimal number
  let free := (List.range (taken.length + 1)).find? fun number => !taken.contains (candidate number)
  candidate (free.getD 0)

/-- Moves a file to a place where there is none or another file. -/
def moveFile (disk : Disk) (source target : Location) : Except FileReason Disk :=
  match disk.get? target with
  | some .directory => .error .exists
  | _ => .ok (disk.move source target)

/-- A step of storing an entry at which the system can give out. -/
inductive Step where
  /-- Making the directory of the entries. -/
  | directory
  /-- Making the temporary file. -/
  | temporary
  /-- Writing the entry. Some bytes may have been written. -/
  | encoding (written : Bytes)
  /-- Closing the temporary file. -/
  | closing
  /-- Moving the temporary file to its place. -/
  | renaming
deriving DecidableEq, Repr

/-- That the system gives out when an entry is stored. -/
structure Trouble where
  /-- The step at which it does. -/
  step : Step
  /-- How it does. -/
  failure : Failure
deriving DecidableEq, Repr

/-- Writes an entry to a temporary file and moves that to its place. If this fails then the
temporary file is still there. -/
def fill (trouble : Option Trouble) (disk : Disk) (temporary target : Location) (path : Bytes)
    (entry : CacheEntry) : Disk × Except Failure Unit :=
  let written := disk.put temporary (.file entry.encode)
  match trouble with
  | some ⟨.encoding part, failure⟩ => (disk.put temporary (.file part), .error failure)
  | some ⟨.closing, failure⟩ => (written, .error failure)
  | some ⟨.renaming, failure⟩ => (written, .error failure)
  | _ =>
    match moveFile written temporary target with
    | .ok disk => (disk, .ok ())
    | .error reason => (written, .error (.file ⟨"rename", path, reason⟩))

/-- Stores an entry: the directory is made, the entry is written to a temporary file there, and the
file is moved to its place or, if anything is in the way, removed again. -/
def store (trouble : Option Trouble) (disk : Disk) (workingDirectory : Location) (cache : Cache)
    (key : Bytes) (entry : CacheEntry) : Disk × Except Failure Unit :=
  match trouble with
  | some ⟨.directory, failure⟩ => (disk, .error failure)
  | _ =>
    match disk.makeDirectories workingDirectory cache.entries with
    | .error error => (disk, .error (.file error))
    | .ok disk =>
      match disk.locate workingDirectory (cache.path key), trouble with
      | .error reason, _ => (disk, .error (.file ⟨"open", cache.path key, reason⟩))
      | .ok _, some ⟨.temporary, failure⟩ => (disk, .error failure)
      | .ok target, trouble =>
        let directory := target.dropLast
        let temporary := directory ++ [temporaryName (disk.names directory)]
        match fill trouble disk temporary target (cache.path key) entry with
        | (disk, .ok ()) => (disk, .ok ())
        | (disk, .error failure) => (disk.erase temporary, .error failure)

/-- Stores an entry in a cache that may be absent. -/
def put (cache : Option Cache) (key : Bytes) (entry : CacheEntry)
    (trouble : Option Trouble := none) : Work (Except Failure Unit) := do
  match cache with
  | none => pure (.ok ())
  | some cache =>
    let session ← get
    let (disk, outcome) :=
      store trouble session.disk session.workingDirectory cache key (entry.stamped session.now)
    set { session with disk }
    pure outcome

/-- Finds the entry of a source text. An entry that is missing, has no snapshot or was written in
another layout is not found. -/
def find (disk : Disk) (workingDirectory : Location) (cache : Cache) (key : Bytes) :
    Except CacheError (Option (CacheEntry × Snapshot)) :=
  match disk.content workingDirectory (cache.path key) with
  | .error error => if error.reason = .notFound then .ok none else .error (.file error)
  | .ok bytes =>
    match CacheEntry.decode? bytes with
    | none => .error .undecodable
    | some entry =>
      match entry.snapshot with
      | none => .ok none
      | some snapshot =>
        .ok (if snapshot.schema = Snapshot.currentSchema then some (entry, snapshot) else none)

/-- Finds the entry of a source text in a cache that may be absent. -/
def get (cache : Option Cache) (key : Bytes) :
    Work (Except CacheError (Option (CacheEntry × Snapshot))) := do
  match cache with
  | none => pure (.ok none)
  | some cache =>
    let session ← MonadState.get
    pure (find session.disk session.workingDirectory cache key)

/-- The path to which the directory of a cache is moved before it is erased. -/
def oldDirectory (cache : Cache) (now : Instant) : Bytes :=
  cache.directory ++ utf8 ".old-" ++ now.digits

/-- Removes every entry: the directory is moved away, made anew, and the old one erased. If this
fails then the entries may be left in the old directory. -/
def clear (disk : Disk) (workingDirectory : Location) (now : Instant) (cache : Cache) :
    Disk × Except Failure Unit :=
  let old := cache.oldDirectory now
  match disk.rename workingDirectory cache.directory old with
  | .error reason =>
    (disk, .error (.file ⟨"rename", cache.directory ++ utf8 " " ++ old, reason⟩))
  | .ok disk =>
    match disk.makeDirectories workingDirectory cache.directory with
    | .error error => (disk, .error (.file error))
    | .ok disk =>
      match disk.removeAll workingDirectory old with
      | .error error => (disk, .error (.file error))
      | .ok disk => (disk, .ok ())

/-- Removes every entry of a cache that may be absent. -/
def dropAll (cache : Option Cache) : Work (Except Failure Unit) := do
  match cache with
  | none => pure (.ok ())
  | some cache =>
    let session ← MonadState.get
    let (disk, outcome) := clear session.disk session.workingDirectory session.now cache
    set { session with disk }
    pure outcome

end Cache
end Blockwork
