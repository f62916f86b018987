import Blockwork.Proofs.CacheFiles
import Blockwork.Proofs.EntryBytes
import Blockwork.Proofs.PathEnds
import Blockwork.Proofs.Walks

/-!
# The shelf of a cache

The shelf is the directory of the entries. While nobody else writes to it, it holds one file for
each key that an entry is kept for, with that entry, and nothing else. Storing an entry puts it in
the place of the one before or changes nothing, wherever the system gives out; removing all entries
leaves nothing; and looking for an entry finds the one that is kept.
-/

namespace Blockwork

namespace CacheEntry

/-- Whether an entry can be written to bytes without loss. -/
structure Portable (entry : CacheEntry) : Prop where
  /-- The source is named shortly enough. -/
  source : entry.source.length < 0x100000000
  /-- The names and lists of the snapshot are short enough. -/
  snapshot : ∀ snapshot, entry.snapshot = some snapshot → snapshot.Short
  /-- The instant is regular. -/
  stored : entry.stored.Regular

/-- The entry as it is read back: its instant is shown on a clock that is not ahead. -/
def recovered (entry : CacheEntry) : CacheEntry :=
  { entry with stored := { entry.stored with offset := 0 } }

theorem Portable.decode?_encode {entry : CacheEntry} (portable : entry.Portable) :
    decode? entry.encode = some entry.recovered :=
  CacheEntry.decode?_encode portable.source portable.snapshot (portable.stored.read_pack _)

/-- What is found of an entry: nothing, unless it has a snapshot of the current layout. -/
def found? (entry : CacheEntry) : Option (CacheEntry × Snapshot) :=
  match entry.snapshot with
  | none => none
  | some snapshot =>
    if snapshot.schema = Snapshot.currentSchema then some (entry.recovered, snapshot) else none

end CacheEntry

namespace Cache

/-- A key of the length that digests have. -/
abbrev Digest := { key : Bytes // key.length = 32 }

theorem length_key (source : Bytes) : (key source).length = 32 := by
  simp [key, Sha256.digest, Packed.length_bigEndian]

/-- The digest of a source text. -/
def Digest.of (source : Bytes) : Digest := ⟨key source, length_key source⟩

variable {cache : Cache} {workingDirectory home : Location} {disk disk' : Disk}

/-! ## Where the shelf is -/

theorem destination_entries (cache : Cache) (workingDirectory : Location) :
    Disk.destination workingDirectory cache.entries = cache.shelf workingDirectory := by
  obtain ⟨elements, rooted⟩ := cache.elements_entries
  rw [Disk.destination, elements, rooted, shelf]

theorem walk_trail
    (found : disk.find workingDirectory cache.directory = .ok (home, .directory)) :
    disk.walk (Disk.origin workingDirectory cache.directory) cache.trail =
      .ok (home ++ [utf8 "ir"]) := by
  obtain ⟨located, held⟩ := Disk.find_directory_iff.mp found
  obtain ⟨-, -, -, walked⟩ := Disk.locate_eq_ok_iff.mp located
  refine Disk.walk_reduce (fun rooted => if_pos rooted) ?_
  rw [Disk.walk_append, walked]
  exact Disk.walk_name held (by decide) (by decide) (by decide)

/-- The shelf stands in the directory of the cache. -/
theorem shelf_eq (found : disk.find workingDirectory cache.directory = .ok (home, .directory)) :
    cache.shelf workingDirectory = home ++ [utf8 "ir"] :=
  (Disk.follow_of_walk (walk_trail found)).symm

/-- What can stand in the path of an entry, if the directory of the cache can be found. -/
theorem zero_not_mem_path (printable : 0 ∉ cache.directory) (key : Bytes) :
    0 ∉ cache.path key := by
  rw [path_eq_render]
  intro member
  rcases Path.mem_render member with same | same | ⟨element, listed, spelled⟩
  · cases same
  · cases same
  · rcases List.mem_append.mp listed with inside | last
    · rcases Path.mem_reduce inside with rfl | whole
      · revert spelled
        decide
      · rcases List.mem_append.mp whole with before | last
        · exact printable (Path.mem_elements before spelled)
        · rw [List.mem_singleton.mp last] at spelled
          revert spelled
          decide
    · rw [List.mem_singleton.mp last] at spelled
      exact (ne_of_mem_entryName spelled).2.2 rfl

theorem path_ne_nil (cache : Cache) (key : Bytes) : cache.path key ≠ [] := by
  intro empty
  have elements := (cache.elements_path key).1
  rw [empty] at elements
  exact absurd elements.symm (by simp [Path.elements, Bytes.splitOnByte])

theorem meansDirectory_path (cache : Cache) (key : Bytes) :
    Disk.meansDirectory (cache.path key) = false := by
  have last : (Path.split (cache.path key)).2 = entryName key := by
    rw [path_eq_render, Path.split_render _ _ (isElement_entryName key)]
  rw [Disk.meansDirectory, last]
  have notHere : entryName key ≠ Path.here := entryName_ne_of_length_lt (by decide)
  have notAbove : entryName key ≠ Path.above := entryName_ne_of_length_lt (by decide)
  simp [(isElement_entryName key).1, notHere, notAbove]

/-- The path of an entry leads to the shelf and then to the name of the entry. -/
theorem locate_path (found : disk.find workingDirectory cache.directory = .ok (home, .directory))
    {key : Bytes} (room : (cache.path key).length ≤ Disk.maxPath) :
    disk.locate workingDirectory (cache.path key) =
      disk.walk (cache.shelf workingDirectory) [entryName key] := by
  obtain ⟨-, printable, -, -⟩ :=
    Disk.locate_eq_ok_iff.mp (Disk.find_directory_iff.mp found).1
  obtain ⟨elements, rooted⟩ := cache.elements_path key
  have zero : ¬ (cache.path key).contains 0 = true := by
    simpa using zero_not_mem_path printable key
  rw [Disk.locate, if_neg (cache.path_ne_nil key), if_neg zero, if_neg (Nat.not_lt_of_le room),
    rooted, elements, Disk.walk_append]
  have walked := walk_trail found
  rw [← shelf_eq found] at walked
  rw [Disk.origin] at walked
  rw [walked]
  rfl

theorem length_hexText (key : Bytes) : key.hexText.length = 2 * key.length := by
  induction key with
  | nil => rfl
  | cons byte rest ih =>
    rw [Bytes.hexText_cons, List.length_cons, List.length_cons, ih, List.length_cons]
    omega

theorem length_entryName (key : Digest) : (entryName key.1).length = 67 := by
  rw [entryName, List.length_append, length_hexText, key.2]
  rfl

/-! ## What stands on it -/

/-- Whether the shelf has its own place: no way leads below it, nor does the way to the directory of
the cache lead below that directory; and the system takes the paths of all entries. -/
structure Sited (cache : Cache) (workingDirectory : Location) : Prop where
  /-- The way to the directory of the cache ends there. -/
  home : ∀ place, Disk.Passes workingDirectory cache.directory place → ∀ rest ≠ [],
    place ≠ Disk.destination workingDirectory cache.directory ++ rest
  /-- The way to the shelf ends there. -/
  shelf : ∀ place, Disk.Passes workingDirectory cache.entries place → ∀ rest ≠ [],
    place ≠ cache.shelf workingDirectory ++ rest
  /-- The paths of entries are not too long. -/
  room : ∀ key : Digest, (cache.path key).length ≤ Disk.maxPath

/-- Whether the shelf holds the given entries, each in its file, and nothing else. -/
structure Shelves (cache : Cache) (workingDirectory : Location) (held : Digest → Option CacheEntry)
    (disk : Disk) : Prop where
  /-- The directory of the cache is there. -/
  found : disk.find workingDirectory cache.directory =
    .ok (Disk.destination workingDirectory cache.directory, .directory)
  /-- The shelf is a directory, unless nothing is held. -/
  shelf : disk.get? (cache.shelf workingDirectory) = some .directory ∨
    disk.get? (cache.shelf workingDirectory) = none ∧ ∀ key, held key = none
  /-- An entry that is held is in its file. -/
  kept : ∀ key : Digest, disk.get? (cache.shelf workingDirectory ++ [entryName key]) =
    (held key).map fun entry => .file entry.encode
  /-- Nothing else is on the shelf. -/
  clear : ∀ rest ≠ [], (∀ key : Digest, rest ≠ [entryName key]) →
    disk.get? (cache.shelf workingDirectory ++ rest) = none

variable {held : Digest → Option CacheEntry}

theorem destination_of_find
    (found : disk.find workingDirectory cache.directory = .ok (home, .directory)) :
    home = Disk.destination workingDirectory cache.directory :=
  (Disk.destination_of_locate (Disk.get?_of_find found).2).1

/-- If nothing stands in the directory of a cache then its shelf has its own place. -/
theorem sited_of_empty (found : disk.find workingDirectory cache.directory = .ok (home, .directory))
    (empty : ∀ rest ≠ [], disk.get? (home ++ rest) = none)
    (room : ∀ key : Digest, (cache.path key).length ≤ Disk.maxPath) :
    Sited cache workingDirectory := by
  obtain rfl := destination_of_find found
  constructor
  case home =>
    rintro place passes rest below rfl
    have held := Disk.get?_of_passes found passes
    rw [empty rest below] at held
    cases held
  case shelf =>
    rintro place ⟨before, begins, rfl⟩ rest below same
    obtain ⟨elements, rooted⟩ := cache.elements_entries
    have start : Disk.origin workingDirectory cache.entries =
        Disk.origin workingDirectory cache.directory := by
      rw [Disk.origin, Disk.origin, rooted]
    have standing (rest : Location) (below : rest ≠ []) :
        disk.get? (cache.shelf workingDirectory ++ rest) = none := by
      rw [shelf_eq found, List.append_assoc]
      exact empty _ (List.cons_ne_nil _ _)
    rw [start] at same
    rw [elements, trail_eq] at begins
    rcases List.prefix_concat_iff.mp begins with rfl | ⟨after, whole⟩
    · -- the way to the shelf itself
      have ends : cache.shelf workingDirectory = cache.shelf workingDirectory ++ rest := by
        rw [← same, ← trail_eq]
        rfl
      exact below (List.append_cancel_left ((List.append_nil _).trans ends)).symm
    · -- the way to the directory of the cache
      obtain ⟨located, here⟩ := Disk.find_directory_iff.mp found
      obtain ⟨-, -, -, walked⟩ := Disk.locate_eq_ok_iff.mp located
      have walked : disk.walk (Disk.origin workingDirectory cache.directory)
          (Path.reduce (Path.isAbsolute cache.directory) (Path.elements cache.directory)) = .ok _ :=
        Disk.walk_reduce (fun rooted => if_pos rooted) walked
      rw [← whole] at walked
      cases after with
      | nil =>
        rw [List.append_nil] at walked
        rw [Disk.follow_of_walk walked, same, standing rest below] at here
        cases here
      | cons element others =>
        have here := Disk.get?_of_walk _ walked (List.cons_ne_nil _ _)
        rw [same, standing rest below] at here
        cases here
  case room => exact room

theorem shelves_of_empty
    (found : disk.find workingDirectory cache.directory = .ok (home, .directory))
    (empty : ∀ rest ≠ [], disk.get? (home ++ rest) = none) :
    Shelves cache workingDirectory (fun _ => none) disk := by
  have none (rest : Location) : disk.get? (cache.shelf workingDirectory ++ rest) = none := by
    rw [shelf_eq found, List.append_assoc]
    exact empty _ (List.cons_ne_nil _ _)
  constructor
  case found => rw [found, destination_of_find found]
  case shelf => exact .inr ⟨(congrArg disk.get? (List.append_nil _).symm).trans (none []),
    fun _ => rfl⟩
  case kept => exact fun key => none [entryName key]
  case clear => exact fun rest _ _ => none rest

theorem find_of_missing {key : Bytes}
    (missing : disk.find workingDirectory (cache.path key) = .error .notFound) :
    find disk workingDirectory cache key = .ok none := by
  rw [find, Disk.content_of_find_error missing]
  exact if_pos rfl

theorem find_of_content {key : Bytes} {entry : CacheEntry}
    (read : disk.content workingDirectory (cache.path key) = .ok entry.encode)
    (portable : entry.Portable) :
    find disk workingDirectory cache key = .ok entry.found? := by
  rw [find, read]
  dsimp only
  rw [portable.decode?_encode, CacheEntry.found?, CacheEntry.recovered]
  dsimp only
  cases entry.snapshot with
  | none => rfl
  | some snapshot => rfl

namespace Shelves

variable (shelves : Shelves cache workingDirectory held disk)
include shelves

/-- What a shelf holds is seen by looking at locations only. -/
theorem congr (same : ∀ place, disk'.get? place = disk.get? place) :
    Shelves cache workingDirectory held disk' where
  found := Disk.find_mono (fun place held => (same place).trans held) shelves.found
  shelf := by simpa only [same] using shelves.shelf
  kept key := (same _).trans (shelves.kept key)
  clear rest below other := (same _).trans (shelves.clear rest below other)

/-- Making the shelf leaves what it holds. -/
theorem extend (sited : Sited cache workingDirectory)
    (extends_ : Disk.Extends (Disk.Passes workingDirectory cache.entries) disk disk') :
    Shelves cache workingDirectory held disk' := by
  have same (rest : Location) (below : rest ≠ []) :
      disk'.get? (cache.shelf workingDirectory ++ rest) =
        disk.get? (cache.shelf workingDirectory ++ rest) :=
    extends_.get?_eq_of_not fun passes => sited.shelf _ passes rest below rfl
  constructor
  case found => exact extends_.find shelves.found
  case shelf =>
    rcases extends_ (cache.shelf workingDirectory) with kept | ⟨-, new, -⟩
    · rw [kept]
      exact shelves.shelf
    · exact .inl new
  case kept => exact fun key => (same _ (List.cons_ne_nil _ _)).trans (shelves.kept key)
  case clear => exact fun rest below other => (same rest below).trans (shelves.clear rest below other)

/-- Looking for an entry finds what is held. -/
theorem find_eq (sited : Sited cache workingDirectory) {key : Digest}
    (portable : ∀ entry, held key = some entry → entry.Portable) :
    find disk workingDirectory cache key = .ok ((held key).bind CacheEntry.found?) := by
  have located := locate_path shelves.found (sited.room key)
  have kept := shelves.kept key
  rcases shelves.shelf with standing | ⟨missing, none⟩
  · have notHere : entryName key ≠ Path.here := entryName_ne_of_length_lt (by decide)
    have notAbove : entryName key ≠ Path.above := entryName_ne_of_length_lt (by decide)
    have short : (entryName key).length ≤ Disk.maxName := by
      rw [length_entryName]
      decide
    rw [Disk.walk_name standing notHere notAbove short] at located
    cases here : held key with
    | none =>
      rw [here] at kept
      exact find_of_missing (Disk.find_eq_notFound located kept)
    | some entry =>
      rw [here] at kept
      exact find_of_content (Disk.content_of_get? located kept (cache.meansDirectory_path key))
        (portable entry here)
  · rw [Disk.walk, missing] at located
    rw [none]
    exact find_of_missing (congrArg (· >>= _) located)

/-- Nothing has a name that no entry has. -/
theorem free {name : Bytes} (fresh : ∀ key, entryName key ≠ name) (rest : Location) :
    disk.get? (cache.shelf workingDirectory ++ [name] ++ rest) = none := by
  rw [List.append_assoc]
  exact shelves.clear _ (List.cons_ne_nil _ _) fun key same => fresh key (List.cons.inj same).1.symm

/-- Nothing is below an entry. -/
theorem bare (key : Digest) (rest : Location) (below : rest ≠ []) :
    disk.get? (cache.shelf workingDirectory ++ [entryName key] ++ rest) = none := by
  rw [List.append_assoc]
  exact shelves.clear _ (List.cons_ne_nil _ _) fun other same => below (List.cons.inj same).2

/-- A temporary file that is moved to the place of an entry takes that place. -/
theorem move {name : Bytes} (fresh : ∀ key, entryName key ≠ name)
    (standing : disk.get? (cache.shelf workingDirectory) = some .directory) (key : Digest)
    (entry : CacheEntry) :
    Shelves cache workingDirectory (Function.update held key (some entry))
      ((disk.put (cache.shelf workingDirectory ++ [name]) (.file entry.encode)).move
        (cache.shelf workingDirectory ++ [name])
        (cache.shelf workingDirectory ++ [entryName key])) := by
  have moved := Disk.get?_put_move (List.append_ne_nil_of_right_ne_nil _ (List.cons_ne_nil _ _))
    (shelves.free fresh) (not_prefix_of_ne _ (fresh key).symm) (not_prefix_of_ne _ (fresh key))
    (shelves.bare key) (.file entry.encode)
  constructor
  case found =>
    refine Disk.find_mono (fun place directory => ?_) shelves.found
    rw [moved, if_neg, directory]
    rintro rfl
    rw [shelves.kept key] at directory
    cases here : held key <;> simp [here] at directory
  case shelf =>
    rw [moved, if_neg (by simp)]
    exact .inl standing
  case kept =>
    intro other
    rw [moved, shelves.kept other]
    by_cases same : other = key
    · subst same
      rw [if_pos rfl, Function.update_self]
      rfl
    · have differ : entryName other.1 ≠ entryName key.1 :=
        fun equal => same (Subtype.ext (entryName_injective equal))
      rw [if_neg (by simpa using differ), Function.update_of_ne same]
  case clear =>
    intro rest below other
    rw [moved, if_neg (by simpa using other key)]
    exact shelves.clear rest below other

/-- Storing an entry puts it on the shelf, or leaves the shelf as it was. -/
theorem store (sited : Sited cache workingDirectory) {key : Digest} {entry : CacheEntry}
    {outcome : Except Failure Unit}
    (stores : Stores cache disk workingDirectory key entry disk' outcome) :
    Shelves cache workingDirectory
      (if outcome = .ok () then Function.update held key (some entry) else held) disk' := by
  have made {middle : Disk}
      (made : disk.makeDirectories workingDirectory cache.entries = .ok middle) :
      Shelves cache workingDirectory held middle ∧
        middle.get? (cache.shelf workingDirectory) = some .directory := by
    obtain ⟨extends_, location, found⟩ := Disk.extends_of_makeDirectories made
    obtain ⟨standing, located⟩ := Disk.get?_of_find found
    rw [(Disk.destination_of_locate located).1, destination_entries] at standing
    exact ⟨shelves.extend sited extends_, standing⟩
  cases stores with
  | refused => exact shelves
  | abandoned directory => exact (made directory).1
  | removed directory fresh written =>
    obtain ⟨shelves', -⟩ := made directory
    exact shelves'.congr (Disk.get?_put_erase
      (List.append_ne_nil_of_right_ne_nil _ (List.cons_ne_nil _ _)) (shelves'.free fresh) _)
  | moved directory fresh placed =>
    obtain ⟨shelves', standing⟩ := made directory
    unfold moveFile at placed
    split at placed
    · cases placed
    · cases placed
      rw [if_pos rfl]
      exact shelves'.move fresh standing key entry

/-- Removing all entries leaves the shelf empty. -/
theorem drop (sited : Sited cache workingDirectory) {now : Instant}
    (cleared : Cache.clear disk workingDirectory now cache = (disk', .ok ())) :
    Shelves cache workingDirectory (fun _ => none) disk' := by
  rw [Cache.clear] at cleared
  split at cleared
  · cases cleared
  rename_i moved renamed
  obtain ⟨target, located, free, outside, outside', rfl⟩ :=
    Disk.of_rename_eq_ok shelves.found renamed
  split at cleared
  · cases cleared
  rename_i made directories
  obtain ⟨extends_, location, found⟩ := Disk.extends_of_makeDirectories directories
  obtain rfl := destination_of_find found
  -- The directory is new, so nothing is in it.
  have empty : ∀ rest ≠ [],
      made.get? (Disk.destination workingDirectory cache.directory ++ rest) = none := by
    intro rest below
    rw [extends_.get?_eq_of_not fun passes => sited.home _ passes rest below rfl]
    exact Disk.get?_move_source outside outside' rest
  rw [Disk.removeAll] at cleared
  split at cleared
  · cases cleared
  rename_i after removed
  obtain rfl : after = disk' := congrArg Prod.fst cleared
  split at removed
  · rename_i place again
    obtain rfl : place = target :=
      (Disk.destination_of_locate again).1.trans (Disk.destination_of_locate located).1.symm
    obtain rfl := Except.ok.inj removed
    refine shelves_of_empty (Disk.find_of_passes found fun passed passes => ?_) fun rest below => ?_
    · -- The way to the directory does not lead through the place of the old one, which was free.
      have apart : ¬ place <+: passed := fun inside =>
        free (Disk.get?_of_passes_out shelves.found passes inside outside')
      rw [Disk.get?_erase apart]
      exact Disk.get?_of_passes found passes
    · by_cases inside : place <+: Disk.destination workingDirectory cache.directory ++ rest
      · exact Disk.get?_erase_below inside (by simp [below])
      · rw [Disk.get?_erase inside]
        exact empty rest below
  · obtain rfl := Except.ok.inj removed
    exact shelves_of_empty found empty
  · cases removed

end Shelves

end Cache
end Blockwork
