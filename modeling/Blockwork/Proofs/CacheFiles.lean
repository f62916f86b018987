import Blockwork.Proofs.Disks
import Blockwork.Proofs.Paths

/-!
# The files of a cache

What a cache keeps under a key is the content of one file. Storing an entry changes the file of its
key only, and either the whole entry gets there or nothing of it.
-/

namespace Blockwork
namespace Cache

/-- The location of the directory of the entries. -/
def shelf (cache : Cache) (workingDirectory : Location) : Location :=
  Location.follow (if Path.isAbsolute cache.directory then [] else workingDirectory) cache.trail

/-- The content of the file of a key, if there is one. -/
def kept? (cache : Cache) (disk : Disk) (workingDirectory : Location) (key : Bytes) :
    Option Bytes :=
  match disk.get? (Disk.destination workingDirectory (cache.path key)) with
  | some (.file content) => some content
  | _ => none

variable {cache : Cache} {disk disk' : Disk} {workingDirectory : Location} {key content : Bytes}

theorem destination_path (cache : Cache) (workingDirectory : Location) (key : Bytes) :
    Disk.destination workingDirectory (cache.path key) =
      cache.shelf workingDirectory ++ [entryName key] := by
  obtain ⟨elements, rooted⟩ := cache.elements_path key
  have notHere : entryName key ≠ Path.here := entryName_ne_of_length_lt (by decide)
  have notAbove : entryName key ≠ Path.above := entryName_ne_of_length_lt (by decide)
  rw [Disk.destination, elements, rooted, Location.follow_append, Location.follow,
    if_neg notHere, if_neg notAbove]
  rfl

theorem kept?_eq_some_iff : cache.kept? disk workingDirectory key = some content ↔
    disk.get? (cache.shelf workingDirectory ++ [entryName key]) = some (.file content) := by
  rw [kept?, destination_path]
  split
  · rename_i held
    rw [held]
    simp
  · rename_i other
    constructor
    · intro same
      cases same
    · intro held
      exact absurd held (other content)

/-- What can be read is what is kept. -/
theorem kept?_of_content (read : disk.content workingDirectory (cache.path key) = .ok content) :
    cache.kept? disk workingDirectory key = some content := by
  rw [kept?, (Disk.get?_of_content read).1]

theorem kept?_of_appended (appended : disk.Appended disk')
    (kept : cache.kept? disk' workingDirectory key = some content) :
    ∃ old, cache.kept? disk workingDirectory key = some old ∧ old <+: content := by
  obtain ⟨old, held, grown⟩ := appended _ content (kept?_eq_some_iff.mp kept)
  exact ⟨old, kept?_eq_some_iff.mpr held, grown⟩

theorem not_prefix_of_ne (shelf : Location) {left right : Bytes} (differ : left ≠ right) :
    ¬ shelf ++ [left] <+: shelf ++ [right] := by
  intro begins
  rw [List.prefix_append_right_inj] at begins
  have same := begins.eq_of_length rfl
  exact differ (List.singleton_inj.mp same)

section Beside

variable {name : Bytes} (fresh : ∀ key, entryName key ≠ name)
include fresh

theorem kept?_put (entry : Entry) (key : Bytes) :
    cache.kept? (disk.put (cache.shelf workingDirectory ++ [name]) entry) workingDirectory key =
      cache.kept? disk workingDirectory key := by
  have differ : cache.shelf workingDirectory ++ [entryName key] ≠
      cache.shelf workingDirectory ++ [name] := by
    simpa using fresh key
  rw [kept?, kept?, destination_path, Disk.get?_put (by simp), if_neg differ]

theorem kept?_erase (key : Bytes) :
    cache.kept? (disk.erase (cache.shelf workingDirectory ++ [name])) workingDirectory key =
      cache.kept? disk workingDirectory key := by
  rw [kept?, kept?, destination_path, Disk.get?_erase (not_prefix_of_ne _ (fresh key).symm)]

/-- A file that is moved to the place of an entry is kept under the key of that entry. -/
theorem kept?_moveFile
    (moved : moveFile disk (cache.shelf workingDirectory ++ [name])
      (cache.shelf workingDirectory ++ [entryName key]) = .ok disk')
    (held : disk.get? (cache.shelf workingDirectory ++ [name]) = some (.file content))
    (other : Bytes) :
    cache.kept? disk' workingDirectory other =
      if other = key then some content else cache.kept? disk workingDirectory other := by
  unfold moveFile at moved
  split at moved
  · cases moved
  · cases moved
    by_cases same : other = key
    · subst same
      have moved := disk.get?_move_target
        (not_prefix_of_ne (cache.shelf workingDirectory) (fresh other).symm)
        (not_prefix_of_ne _ (fresh other)) []
      rw [List.append_nil, List.append_nil, held] at moved
      rw [if_pos rfl, kept?_eq_some_iff]
      exact moved
    · have differ : entryName key ≠ entryName other :=
        fun equal => same (entryName_injective equal).symm
      rw [if_neg same, kept?, kept?, destination_path,
        Disk.get?_move (not_prefix_of_ne _ (fresh other).symm) (not_prefix_of_ne _ differ)]

end Beside

/-- What can come of storing an entry: it is given up before there is a temporary file, the temporary
file is removed again, or it is moved to its place. -/
inductive Stores (cache : Cache) (disk : Disk) (workingDirectory : Location) (key : Bytes)
    (entry : CacheEntry) : Disk → Except Failure Unit → Prop
  /-- The directory cannot be made. -/
  | refused (failure : Failure) : Stores cache disk workingDirectory key entry disk (.error failure)
  /-- The directory is made, but there is no temporary file. -/
  | abandoned {middle : Disk}
    (made : disk.makeDirectories workingDirectory cache.entries = .ok middle) (failure : Failure) :
    Stores cache disk workingDirectory key entry middle (.error failure)
  /-- The temporary file is removed. -/
  | removed {middle : Disk}
    (made : disk.makeDirectories workingDirectory cache.entries = .ok middle) {name : Bytes}
    (fresh : ∀ key, entryName key ≠ name) (written : Bytes) (failure : Failure) :
    Stores cache disk workingDirectory key entry
      ((middle.put (cache.shelf workingDirectory ++ [name]) (.file written)).erase
        (cache.shelf workingDirectory ++ [name])) (.error failure)
  /-- The temporary file is moved to the place of the entry. -/
  | moved {middle disk' : Disk}
    (made : disk.makeDirectories workingDirectory cache.entries = .ok middle) {name : Bytes}
    (fresh : ∀ key, entryName key ≠ name)
    (placed : moveFile
      (middle.put (cache.shelf workingDirectory ++ [name]) (.file entry.encode))
      (cache.shelf workingDirectory ++ [name])
      (cache.shelf workingDirectory ++ [entryName key]) = .ok disk') :
    Stores cache disk workingDirectory key entry disk' (.ok ())

/-- A temporary file that is not moved is still there. -/
theorem fill_cases (trouble : Option Trouble) (disk : Disk) (temporary target : Location)
    (path : Bytes) (entry : CacheEntry) :
    (∃ written failure, fill trouble disk temporary target path entry =
        (disk.put temporary (.file written), .error failure)) ∨
      ∃ disk', moveFile (disk.put temporary (.file entry.encode)) temporary target = .ok disk' ∧
        fill trouble disk temporary target path entry = (disk', .ok ()) := by
  unfold fill
  dsimp only
  split
  · exact .inl ⟨_, _, rfl⟩
  · exact .inl ⟨_, _, rfl⟩
  · exact .inl ⟨_, _, rfl⟩
  · cases placed : moveFile (disk.put temporary (.file entry.encode)) temporary target with
    | ok disk' => exact .inr ⟨disk', rfl, rfl⟩
    | error reason => exact .inl ⟨_, _, rfl⟩

theorem stores_store (trouble : Option Trouble) (disk : Disk) (workingDirectory : Location)
    (cache : Cache) (key : Bytes) (entry : CacheEntry) :
    Stores cache disk workingDirectory key entry
      (store trouble disk workingDirectory cache key entry).1
      (store trouble disk workingDirectory cache key entry).2 := by
  unfold store
  split
  · exact .refused _
  · split
    · exact .refused _
    · rename_i middle made
      split
      · exact .abandoned made _
      · exact .abandoned made _
      · rename_i _ target located _ _
        have place := (Disk.destination_of_locate located).1
        rw [destination_path] at place
        subst place
        dsimp only
        rw [List.dropLast_concat]
        -- The temporary file stands beside the entries, and none of them has its name.
        have fresh : ∀ key, entryName key ≠
            temporaryName (middle.names (cache.shelf workingDirectory)) :=
          fun key => entryName_ne_temporaryName key _
        obtain ⟨written, failure, filled⟩ | ⟨disk', placed, filled⟩ :=
          fill_cases _ middle
            (cache.shelf workingDirectory ++
              [temporaryName (middle.names (cache.shelf workingDirectory))])
            (cache.shelf workingDirectory ++ [entryName key]) (cache.path key) entry
        · rw [filled]
          exact .removed made fresh written failure
        · rw [filled]
          exact .moved made fresh placed

/-- After an entry has been stored, its file holds the entry or what it held before, and the other
files hold what they held before. -/
theorem kept?_of_stores {entry : CacheEntry} {outcome : Except Failure Unit} {other : Bytes}
    (stores : Stores cache disk workingDirectory key entry disk' outcome)
    (kept : cache.kept? disk' workingDirectory other = some content) :
    (∃ old, cache.kept? disk workingDirectory other = some old ∧ old <+: content) ∨
      other = key ∧ content = entry.encode := by
  cases stores with
  | refused => exact .inl ⟨content, kept, List.prefix_rfl⟩
  | abandoned made =>
    exact .inl (kept?_of_appended (Disk.appended_of_makeDirectories made) kept)
  | removed made fresh =>
    rw [kept?_erase fresh, kept?_put fresh] at kept
    exact .inl (kept?_of_appended (Disk.appended_of_makeDirectories made) kept)
  | moved made fresh placed =>
    rw [kept?_moveFile fresh placed (Disk.get?_put_self (by simp) _)] at kept
    split at kept
    · rename_i same
      cases kept
      exact .inr ⟨same, rfl⟩
    · rw [kept?_put fresh] at kept
      exact .inl (kept?_of_appended (Disk.appended_of_makeDirectories made) kept)

end Cache
end Blockwork
