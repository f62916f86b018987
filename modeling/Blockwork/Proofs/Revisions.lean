import Blockwork.Proofs.Walks

/-!
# Revisions of a disk

A disk is revised by giving files other contents and by making new ones. A path leads through
directories, which stay; so it leads to the same place afterwards, and what is read and written
there is the same unless the revision touches that place itself.
-/

namespace Blockwork
namespace Disk

variable {workingDirectory location : Location} {path : Bytes}

theorem locate_congr {disk disk' : Disk}
    (walked : disk'.walk (origin workingDirectory path) (Path.elements path) =
      disk.walk (origin workingDirectory path) (Path.elements path)) :
    disk'.locate workingDirectory path = disk.locate workingDirectory path := by
  rw [origin] at walked
  rw [locate, locate, walked]

/-- Files have other contents at some places, and are new at some places. -/
def Revises (changed made : Location → Prop) (disk disk' : Disk) : Prop :=
  ∀ place, disk'.get? place = disk.get? place ∨
    (∃ content, disk'.get? place = some (.file content)) ∧
      ((∃ old, disk.get? place = some (.file old)) ∧ changed place ∨
        disk.get? place = none ∧ made place)

namespace Revises

variable {changed made changed' made' : Location → Prop} {first second third disk disk' : Disk}
  {place : Location}

theorem refl (changed made : Location → Prop) (disk : Disk) : disk.Revises changed made disk :=
  fun _ => .inl rfl

theorem mono (revises : first.Revises changed made second)
    (more : ∀ place, changed place → changed' place) (more' : ∀ place, made place → made' place) :
    first.Revises changed' made' second :=
  fun place => (revises place).imp_right fun ⟨now, before⟩ =>
    ⟨now, before.imp (fun ⟨old, here⟩ => ⟨old, more place here⟩)
      fun ⟨free, here⟩ => ⟨free, more' place here⟩⟩

theorem trans (early : first.Revises changed made second) (late : second.Revises changed made third) :
    first.Revises changed made third := by
  intro place
  rcases late place with same | ⟨now, ⟨⟨middle, held⟩, here⟩ | ⟨free, here⟩⟩
  · rw [same]
    exact early place
  · refine .inr ⟨now, ?_⟩
    rcases early place with same | ⟨-, before⟩
    · exact .inl ⟨⟨middle, same.symm.trans held⟩, here⟩
    · exact before.imp_left fun ⟨old, here⟩ => ⟨old, here⟩
  · refine .inr ⟨now, .inr ⟨?_, here⟩⟩
    rcases early place with same | ⟨⟨content, held⟩, -⟩
    · exact same.symm.trans free
    · rw [held] at free
      cases free

/-- What stands at a place that is not touched stays. -/
theorem get?_eq (revises : disk.Revises changed made disk') (kept : ¬ changed place)
    (kept' : ¬ made place) : disk'.get? place = disk.get? place := by
  rcases revises place with same | ⟨-, ⟨-, here⟩ | ⟨-, here⟩⟩
  · exact same
  · exact absurd here kept
  · exact absurd here kept'

/-- Directories stay, and no others come. -/
theorem get?_eq_directory_iff (revises : disk.Revises changed made disk') :
    disk'.get? place = some .directory ↔ disk.get? place = some .directory := by
  rcases revises place with same | ⟨⟨content, now⟩, ⟨⟨old, before⟩, -⟩ | ⟨before, -⟩⟩
  · rw [same]
  · simp [now, before]
  · simp [now, before]

theorem walk_eq_ok (revises : disk.Revises changed made disk') {elements : List Bytes}
    {target : Location} (walked : disk.walk location elements = .ok target) :
    disk'.walk location elements = .ok target :=
  walk_mono (fun _ => revises.get?_eq_directory_iff.mpr) walked

theorem locate_eq_ok (revises : disk.Revises changed made disk')
    (located : disk.locate workingDirectory path = .ok location) :
    disk'.locate workingDirectory path = .ok location := by
  obtain ⟨nonempty, printable, short, walked⟩ := locate_eq_ok_iff.mp located
  exact locate_eq_ok_iff.mpr ⟨nonempty, printable, short, revises.walk_eq_ok walked⟩

/-- A step leads on or fails as before, unless a file is new where it starts. -/
theorem walk_step (revises : disk.Revises changed made disk') (bare : ¬ made location)
    {element : Bytes} {rest : List Bytes}
    (further : ∀ location, disk'.walk location rest = disk.walk location rest) :
    disk'.walk location (element :: rest) = disk.walk location (element :: rest) := by
  rw [walk, walk]
  rcases revises location with same | ⟨⟨content, now⟩, ⟨⟨old, before⟩, -⟩ | ⟨-, here⟩⟩
  · rw [same]
    simp only [further]
  · rw [now, before]
  · exact absurd here bare

/-- If no file is new then every path leads on or fails as before. -/
theorem walk_eq (revises : disk.Revises changed (fun _ => False) disk') (location : Location)
    (elements : List Bytes) : disk'.walk location elements = disk.walk location elements := by
  induction elements generalizing location with
  | nil => rfl
  | cons element rest ih => exact revises.walk_step id ih

theorem locate_eq (revises : disk.Revises changed (fun _ => False) disk') :
    disk'.locate workingDirectory path = disk.locate workingDirectory path :=
  locate_congr (revises.walk_eq _ _)

/-- A place is given the same entry on both sides. -/
theorem put_both (revises : disk.Revises changed made disk') (below : location ≠ [])
    (entry : Entry) : (disk.put location entry).Revises changed made (disk'.put location entry) := by
  intro place
  rw [get?_put below, get?_put below]
  split
  · exact .inl rfl
  · exact revises place

/-- One more place is given a file. -/
theorem put (revises : disk.Revises changed made disk') (below : location ≠ [])
    (free : disk'.get? location ≠ some .directory) (here : changed location)
    (here' : made location) (content : Bytes) :
    disk.Revises changed made (disk'.put location (.file content)) := by
  refine revises.trans fun place => ?_
  rw [get?_put below]
  split
  · rename_i same
    subst same
    refine .inr ⟨⟨content, rfl⟩, ?_⟩
    cases held : disk'.get? place with
    | none => exact .inr ⟨rfl, here'⟩
    | some entry =>
      cases entry with
      | file old => exact .inl ⟨⟨old, rfl⟩, here⟩
      | directory => exact absurd held free
  · exact .inl rfl

/-- Text is added to a file that may change. -/
theorem appendFile (revises : disk.Revises changed made disk') (text : Bytes)
    (here : changed (destination workingDirectory path)) :
    disk.Revises changed made (disk'.appendFile workingDirectory path text) := by
  unfold Disk.appendFile
  split
  · rename_i location old found
    obtain ⟨held, located⟩ := get?_of_find found
    obtain rfl := (destination_of_locate located).1
    have below : destination workingDirectory path ≠ [] := by
      intro root
      rw [root] at held
      cases held
    refine revises.trans fun place => ?_
    rw [get?_put below]
    split
    · rename_i same
      subst same
      exact .inr ⟨⟨_, rfl⟩, .inl ⟨⟨old, held⟩, here⟩⟩
    · exact .inl rfl
  · exact revises

end Revises

/-! ## Reading and writing -/

variable {disk disk' : Disk}

/-- A path that leads to the same place with the same entry reads the same. -/
theorem content_congr
    (located : disk'.locate workingDirectory path = disk.locate workingDirectory path)
    (same : disk'.get? (destination workingDirectory path) =
      disk.get? (destination workingDirectory path)) :
    disk'.content workingDirectory path = disk.content workingDirectory path := by
  have found : disk'.find workingDirectory path = disk.find workingDirectory path := by
    rw [find, find, located]
    cases reached : disk.locate workingDirectory path with
    | error reason => rfl
    | ok location =>
      obtain rfl := (destination_of_locate reached).1
      simp only [bind, Except.bind, same]
  rw [content, content, found]

/-- Why a file cannot be written, if it cannot. -/
def admits (disk : Disk) (workingDirectory : Location) (path : Bytes) : Except FileError Unit :=
  (disk.writeFile workingDirectory path []).map fun _ => ()

/-- Writing a file is refused, or puts it where the path leads. -/
theorem writeFile_eq (content : Bytes) : disk.writeFile workingDirectory path content =
    (disk.admits workingDirectory path).map fun _ =>
      disk.put (destination workingDirectory path) (.file content) := by
  unfold admits writeFile
  cases located : disk.locate workingDirectory path with
  | error reason => rfl
  | ok location =>
    obtain rfl := (destination_of_locate located).1
    dsimp only
    cases disk.get? (destination workingDirectory path) with
    | none => dsimp only; split <;> rfl
    | some entry =>
      cases entry with
      | file old => dsimp only; split <;> rfl
      | directory => rfl

theorem admits_congr
    (located : disk'.locate workingDirectory path = disk.locate workingDirectory path)
    (same : disk'.get? (destination workingDirectory path) =
      disk.get? (destination workingDirectory path)) :
    disk'.admits workingDirectory path = disk.admits workingDirectory path := by
  unfold admits writeFile
  rw [located]
  cases reached : disk.locate workingDirectory path with
  | error reason => rfl
  | ok location =>
    obtain rfl := (destination_of_locate reached).1
    dsimp only
    rw [same]
    cases disk.get? (destination workingDirectory path) with
    | none => dsimp only; split <;> rfl
    | some entry =>
      cases entry with
      | file old => dsimp only; split <;> rfl
      | directory => rfl

/-- A file is written below the root, and where no directory stands. -/
theorem of_admits_eq_ok (allowed : disk.admits workingDirectory path = .ok ()) :
    destination workingDirectory path ≠ [] ∧
      disk.get? (destination workingDirectory path) ≠ some .directory := by
  have free : disk.get? (destination workingDirectory path) ≠ some .directory := by
    intro held
    unfold admits writeFile at allowed
    cases located : disk.locate workingDirectory path with
    | error reason =>
      rw [located] at allowed
      cases allowed
    | ok location =>
      obtain rfl := (destination_of_locate located).1
      rw [located] at allowed
      dsimp only at allowed
      rw [held] at allowed
      cases allowed
  refine ⟨fun root => ?_, free⟩
  rw [root] at free
  exact free rfl

/-- A file that can be read is where its path leads, and its path is not one of a directory. -/
theorem of_content_eq_ok {content : Bytes}
    (read : disk.content workingDirectory path = .ok content) :
    disk.locate workingDirectory path = .ok (destination workingDirectory path) ∧
      meansDirectory path = false := by
  unfold Disk.content at read
  split at read
  · cases read
  · cases read
  · rename_i location bytes found
    obtain ⟨held, located⟩ := get?_of_find found
    obtain rfl := (destination_of_locate located).1
    refine ⟨located, ?_⟩
    by_contra directory
    rw [Disk.find, located] at found
    simp only [bind, Except.bind, held, directory] at found
    cases found

end Disk
end Blockwork
