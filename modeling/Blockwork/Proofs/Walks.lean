import Blockwork.Proofs.Disks
import Blockwork.Proofs.Paths

/-!
# Walks

A path is walked from directory to directory, and it leads to the same place on every disk that has
these directories. Shortening it does not change where it leads. Making directories adds those on
the way of a path that are missing, and nothing else.
-/

namespace Blockwork
namespace Disk

variable {disk disk' : Disk} {workingDirectory location place : Location} {path : Bytes}

/-! ## Walking -/

/-- Where the walk along a path starts. -/
def origin (workingDirectory : Location) (path : Bytes) : Location :=
  if Path.isAbsolute path then [] else workingDirectory

theorem walk_append (location : Location) (left right : List Bytes) :
    disk.walk location (left ++ right) =
      disk.walk location left >>= fun middle => disk.walk middle right := by
  induction left generalizing location with
  | nil => rfl
  | cons element rest ih =>
    rw [List.cons_append, walk, walk]
    split
    · rfl
    · rfl
    · split
      · exact ih _
      · split
        · exact ih _
        · split
          · rfl
          · exact ih _

/-- Every location that a walk leaves is a directory. -/
theorem get?_of_walk (before : List Bytes) {after : List Bytes} {target : Location}
    (walked : disk.walk location (before ++ after) = .ok target) (further : after ≠ []) :
    disk.get? (location.follow before) = some .directory := by
  rw [walk_append] at walked
  obtain ⟨middle, first, second⟩ := bind_eq_ok_iff.mp walked
  obtain rfl := follow_of_walk first
  obtain ⟨element, rest, rfl⟩ := List.exists_cons_of_ne_nil further
  rw [walk] at second
  split at second
  · cases second
  · cases second
  · assumption

/-- A walk succeeds on every disk on which the locations that it leaves are directories. -/
theorem walk_of_directories {elements : List Bytes} {target : Location}
    (walked : disk.walk location elements = .ok target)
    (kept : ∀ before after, before ++ after = elements → after ≠ [] →
      disk'.get? (location.follow before) = some .directory) :
    disk'.walk location elements = .ok target := by
  induction elements generalizing location with
  | nil => exact walked
  | cons element rest ih =>
    have here : disk'.get? location = some .directory := kept [] _ rfl (List.cons_ne_nil _ _)
    have later before after (whole : before ++ after = rest) (further : after ≠ []) :
        disk'.get? (location.follow (element :: before)) = some .directory :=
      kept _ _ (congrArg (element :: ·) whole) further
    rw [walk] at walked ⊢
    rw [here]
    dsimp only
    simp only [Location.follow] at later
    split at walked
    · cases walked
    · cases walked
    · split at walked
      · rename_i same
        rw [if_pos same]
        simp only [if_pos same] at later
        exact ih walked later
      · rename_i notHere
        rw [if_neg notHere]
        simp only [if_neg notHere] at later
        split at walked
        · rename_i same
          rw [if_pos same]
          simp only [if_pos same] at later
          exact ih walked later
        · rename_i notAbove
          rw [if_neg notAbove]
          simp only [if_neg notAbove] at later
          split at walked
          · cases walked
          · rw [if_neg ‹_›]
            exact ih walked later

/-- A walk succeeds on every disk that has the same directories, or more. -/
theorem walk_mono (more : ∀ place, disk.get? place = some .directory →
      disk'.get? place = some .directory) {elements : List Bytes} {target : Location}
    (walked : disk.walk location elements = .ok target) :
    disk'.walk location elements = .ok target := by
  refine walk_of_directories walked fun before after whole further => more _ ?_
  rw [← whole] at walked
  exact get?_of_walk before walked further

/-- A walk that comes out from below a place leads through the place. -/
theorem get?_of_walk_out {elements : List Bytes} {target : Location}
    (walked : disk.walk location elements = .ok target) (inside : place <+: location)
    (outside : ¬ place <+: target) : disk.get? place = some .directory := by
  induction elements generalizing location with
  | nil =>
    obtain rfl := Except.ok.inj walked
    exact absurd inside outside
  | cons element rest ih =>
    rw [walk] at walked
    split at walked
    · cases walked
    · cases walked
    · rename_i held
      split at walked
      · exact ih walked inside
      · split at walked
        · by_cases still : place <+: location.dropLast
          · exact ih walked still
          · -- the step up leaves the place itself
            obtain ⟨below, rfl⟩ := inside
            rcases List.eq_nil_or_concat below with rfl | ⟨rest, last, rfl⟩
            · rwa [List.append_nil] at held
            · rw [List.concat_eq_append, ← List.append_assoc, List.dropLast_concat] at still
              exact absurd (List.prefix_append _ _) still
        · split at walked
          · cases walked
          · exact ih walked (inside.trans (List.prefix_append _ _))

/-- A name that is not too long is walked from every directory. -/
theorem walk_name {name : Bytes} (held : disk.get? location = some .directory)
    (notHere : name ≠ Path.here) (notAbove : name ≠ Path.above) (short : name.length ≤ maxName) :
    disk.walk location [name] = .ok (location ++ [name]) := by
  rw [walk, held]
  dsimp only
  rw [if_neg notHere, if_neg notAbove, if_neg (Nat.not_lt_of_le short)]
  rfl

theorem walk_above (held : disk.get? location = some .directory) :
    disk.walk location [Path.above] = .ok location.dropLast := by
  have notHere : Path.above ≠ Path.here := by decide
  rw [walk, held]
  dsimp only
  rw [if_neg notHere, if_pos rfl]
  rfl

/-- One more element on the way, against the elements that are left of it when it is shortened. -/
theorem walk_push {rooted : Bool} {start middle target : Location} {before : List Bytes}
    {element : Bytes} (top : rooted = true → start = []) (plain : Path.here ∉ before)
    (reached : disk.walk start before.reverse = .ok middle)
    (walked : disk.walk middle [element] = .ok target) :
    disk.walk start (Path.push rooted before element).reverse = .ok target := by
  have held : disk.get? middle = some .directory :=
    get?_of_walk [] walked (List.cons_ne_nil _ _)
  have extended : disk.walk start (element :: before).reverse = .ok target := by
    rw [List.reverse_cons, walk_append, reached]
    exact walked
  unfold Path.push
  split
  case isTrue here =>
    subst here
    rw [walk, held] at walked
    obtain rfl : middle = target := Except.ok.inj walked
    exact reached
  case isFalse notHere =>
    split
    case isFalse => exact extended
    case isTrue above =>
      subst above
      obtain rfl := Except.ok.inj ((walk_above held).symm.trans walked)
      cases before with
      | nil =>
        obtain rfl : start = middle := Except.ok.inj reached
        cases rooted with
        | true =>
          rw [top rfl]
          rfl
        | false => exact walk_above held
      | cons last rest =>
        dsimp only
        split
        case isTrue => exact extended
        case isFalse notAbove =>
          -- The last name is taken back, and with it the last step of the walk.
          rw [List.reverse_cons, walk_append] at reached
          obtain ⟨earlier, first, second⟩ := bind_eq_ok_iff.mp reached
          obtain rfl := follow_of_walk second
          have plainLast : last ≠ Path.here := fun same => plain (same ▸ List.mem_cons_self)
          rw [Location.follow, if_neg plainLast, if_neg notAbove, Location.follow,
            List.dropLast_concat]
          exact first

/-- A path that can be walked can be walked when it is shortened, and leads to the same place. -/
theorem walk_reduce {rooted : Bool} {start target : Location} {elements : List Bytes}
    (top : rooted = true → start = []) (walked : disk.walk start elements = .ok target) :
    disk.walk start (Path.reduce rooted elements) = .ok target := by
  suffices general : ∀ before middle, Path.here ∉ before →
      disk.walk start before.reverse = .ok middle → disk.walk middle elements = .ok target →
        disk.walk start (elements.foldl (Path.push rooted) before).reverse = .ok target from
    general [] start List.not_mem_nil rfl walked
  clear walked
  induction elements with
  | nil =>
    intro before middle _ reached walked
    exact reached.trans walked
  | cons element rest ih =>
    intro before middle plain reached walked
    rw [← List.singleton_append, walk_append] at walked
    obtain ⟨next, first, second⟩ := bind_eq_ok_iff.mp walked
    exact ih _ next (Path.here_not_mem_push plain) (walk_push top plain reached first) second

/-! ## What is found -/

theorem locate_eq_ok_iff : disk.locate workingDirectory path = .ok location ↔
    path ≠ [] ∧ 0 ∉ path ∧ path.length ≤ maxPath ∧
      disk.walk (origin workingDirectory path) (Path.elements path) = .ok location := by
  unfold locate
  constructor
  · intro located
    obtain ⟨nonempty, located⟩ := of_ite_error_eq_ok located
    obtain ⟨printable, located⟩ := of_ite_error_eq_ok located
    obtain ⟨short, walked⟩ := of_ite_error_eq_ok located
    exact ⟨nonempty, by simpa using printable, Nat.le_of_not_lt short, walked⟩
  · rintro ⟨nonempty, printable, short, walked⟩
    rw [if_neg nonempty, if_neg (by simpa using printable), if_neg (Nat.not_lt_of_le short)]
    exact walked

theorem find_directory_iff : disk.find workingDirectory path = .ok (location, .directory) ↔
    disk.locate workingDirectory path = .ok location ∧
      disk.get? location = some .directory := by
  constructor
  · intro found
    exact (get?_of_find found).symm
  · rintro ⟨located, held⟩
    refine bind_eq_ok_iff.mpr ⟨location, located, ?_⟩
    rw [held]

theorem content_of_get? {content : Bytes} (located : disk.locate workingDirectory path = .ok location)
    (held : disk.get? location = some (.file content)) (plain : meansDirectory path = false) :
    disk.content workingDirectory path = .ok content := by
  have found : disk.find workingDirectory path = .ok (location, .file content) := by
    refine bind_eq_ok_iff.mpr ⟨location, located, ?_⟩
    rw [held]
    exact if_neg (Bool.eq_false_iff.mp plain)
  rw [Disk.content, found]

/-- A directory that was moved has gone to a place that was no directory, and neither is in the
other. -/
theorem of_rename_eq_ok {old new : Bytes}
    (found : disk.find workingDirectory old = .ok (location, .directory))
    (renamed : disk.rename workingDirectory old new = .ok disk') :
    ∃ target, disk.locate workingDirectory new = .ok target ∧
      disk.get? target ≠ some .directory ∧ ¬ location <+: target ∧ ¬ target <+: location ∧
      disk' = disk.move location target := by
  rw [rename, found, ok_bind] at renamed
  obtain ⟨target, located, renamed⟩ := bind_eq_ok_iff.mp renamed
  have held := (find_directory_iff.mp found).2
  dsimp only at renamed
  obtain ⟨free, renamed⟩ := of_ite_error_eq_ok renamed
  obtain ⟨-, renamed⟩ := of_ite_error_eq_ok renamed
  obtain ⟨-, renamed⟩ := of_ite_error_eq_ok renamed
  have differ : location ≠ target := fun same => free (same ▸ held)
  rw [if_neg differ] at renamed
  obtain ⟨outside, renamed⟩ := of_ite_error_eq_ok renamed
  obtain ⟨outside', renamed⟩ := of_ite_error_eq_ok renamed
  obtain ⟨-, renamed⟩ := of_ite_error_eq_ok renamed
  rw [List.isPrefixOf_iff_prefix] at outside outside'
  exact ⟨target, located, free, outside, outside', (Except.ok.inj renamed).symm⟩

theorem content_of_find_error {reason : FileReason}
    (missing : disk.find workingDirectory path = .error reason) :
    disk.content workingDirectory path = .error ⟨"open", path, reason⟩ := by
  rw [Disk.content, missing]

theorem find_eq_notFound (located : disk.locate workingDirectory path = .ok location)
    (free : disk.get? location = none) : disk.find workingDirectory path = .error .notFound := by
  simp only [Disk.find, located, bind, Except.bind, free]

/-- Whether a path leads through a place or to it. -/
def Passes (workingDirectory : Location) (path : Bytes) (place : Location) : Prop :=
  ∃ before, before <+: Path.elements path ∧ place = (origin workingDirectory path).follow before

theorem passes_destination (workingDirectory : Location) (path : Bytes) :
    Passes workingDirectory path (destination workingDirectory path) :=
  ⟨_, List.prefix_rfl, rfl⟩

/-- The way to a directory leads through directories. -/
theorem get?_of_passes (found : disk.find workingDirectory path = .ok (location, .directory))
    (passes : Passes workingDirectory path place) : disk.get? place = some .directory := by
  obtain ⟨located, held⟩ := find_directory_iff.mp found
  obtain ⟨-, -, -, walked⟩ := locate_eq_ok_iff.mp located
  obtain ⟨before, ⟨after, whole⟩, rfl⟩ := passes
  cases after with
  | nil =>
    rw [List.append_nil] at whole
    rw [whole, ← follow_of_walk walked]
    exact held
  | cons element rest =>
    rw [← whole] at walked
    exact get?_of_walk _ walked (List.cons_ne_nil _ _)

/-- A path leads to a directory on every disk on which it leads through directories. -/
theorem find_of_passes (found : disk.find workingDirectory path = .ok (location, .directory))
    (kept : ∀ place, Passes workingDirectory path place → disk'.get? place = some .directory) :
    disk'.find workingDirectory path = .ok (location, .directory) := by
  obtain ⟨located, -⟩ := find_directory_iff.mp found
  obtain ⟨nonempty, printable, short, walked⟩ := locate_eq_ok_iff.mp located
  have held := kept _ (passes_destination workingDirectory path)
  rw [← (destination_of_locate located).1] at held
  refine find_directory_iff.mpr ⟨locate_eq_ok_iff.mpr ⟨nonempty, printable, short, ?_⟩, held⟩
  exact walk_of_directories walked fun before after whole _ => kept _ ⟨before, ⟨after, whole⟩, rfl⟩

/-- A path leads to a directory on every disk that has the same directories, or more. -/
theorem find_mono (more : ∀ place, disk.get? place = some .directory →
      disk'.get? place = some .directory)
    (found : disk.find workingDirectory path = .ok (location, .directory)) :
    disk'.find workingDirectory path = .ok (location, .directory) :=
  find_of_passes found fun _ passes => more _ (get?_of_passes found passes)

/-- A way that leads out from below a place leads through the place. -/
theorem get?_of_passes_out (found : disk.find workingDirectory path = .ok (location, .directory))
    {above : Location} (passes : Passes workingDirectory path place) (inside : above <+: place)
    (outside : ¬ above <+: location) : disk.get? above = some .directory := by
  obtain ⟨-, -, -, walked⟩ := locate_eq_ok_iff.mp (find_directory_iff.mp found).1
  obtain ⟨before, ⟨after, whole⟩, rfl⟩ := passes
  rw [← whole, walk_append] at walked
  obtain ⟨middle, first, second⟩ := bind_eq_ok_iff.mp walked
  obtain rfl := follow_of_walk first
  exact get?_of_walk_out second inside outside

/-! ## New directories -/

/-- Nothing is new on a disk but directories, at some places where nothing stood. -/
def Extends (places : Location → Prop) (disk disk' : Disk) : Prop :=
  ∀ place, disk'.get? place = disk.get? place ∨
    disk.get? place = none ∧ disk'.get? place = some .directory ∧ places place

namespace Extends

variable {places places' : Location → Prop} {first second third : Disk}

theorem refl (places : Location → Prop) (disk : Disk) : Extends places disk disk :=
  fun _ => .inl rfl

theorem mono (extends_ : Extends places first second) (more : ∀ place, places place → places' place) :
    Extends places' first second :=
  fun place => (extends_ place).imp_right fun ⟨free, new, here⟩ => ⟨free, new, more place here⟩

theorem trans (early : Extends places first second) (late : Extends places second third) :
    Extends places first third := by
  intro place
  rcases early place, late place with ⟨same | ⟨free, new, here⟩, same' | ⟨free', new', here'⟩⟩
  · exact .inl (same'.trans same)
  · exact .inr ⟨same ▸ free', new', here'⟩
  · exact .inr ⟨free, same'.trans new, here⟩
  · rw [new] at free'
    cases free'

/-- What stands on the disk stays. -/
theorem get?_eq (extends_ : Extends places first second) {place : Location} {entry : Entry}
    (held : first.get? place = some entry) : second.get? place = some entry := by
  rcases extends_ place with same | ⟨free, -, -⟩
  · exact same.trans held
  · rw [held] at free
    cases free

/-- Where no directory may be new, everything is as it was. -/
theorem get?_eq_of_not (extends_ : Extends places first second) {place : Location}
    (elsewhere : ¬ places place) : second.get? place = first.get? place :=
  (extends_ place).resolve_right fun ⟨_, _, here⟩ => elsewhere here

theorem find (extends_ : Extends places first second)
    (found : first.find workingDirectory path = .ok (location, .directory)) :
    second.find workingDirectory path = .ok (location, .directory) :=
  find_mono (fun _ => extends_.get?_eq) found

end Extends

theorem parentText_cases (path : Bytes) : parentText path = [] ∨
    ∃ front back, parentText path = front ++ [Path.slash] ∧ path = front ++ Path.slash :: back := by
  unfold parentText
  generalize trimmed : path.reverse.dropWhile (· = Path.slash) = text
  cases rest : text.dropWhile (· ≠ Path.slash) with
  | nil => exact .inl rfl
  | cons byte bytes =>
    have slash : byte = Path.slash := by
      have first := List.head?_dropWhile_not (fun byte => decide (byte ≠ Path.slash)) text
      rw [rest] at first
      simpa using first
    subst slash
    obtain ⟨start, whole⟩ : Path.slash :: bytes <:+ path.reverse := by
      rw [← rest]
      exact (List.dropWhile_suffix _).trans (trimmed ▸ List.dropWhile_suffix _)
    refine .inr ⟨bytes.reverse, start.reverse, by simp, ?_⟩
    rw [← List.reverse_reverse path, ← whole]
    simp

/-- The way to the directory above is part of the way. -/
theorem Passes.of_parentText (above : parentText path ≠ [])
    (passes : Passes workingDirectory (parentText path) place) :
    Passes workingDirectory path place := by
  obtain none | ⟨front, back, parent, whole⟩ := parentText_cases path
  · exact absurd none above
  · rw [parent] at passes
    rw [whole]
    obtain ⟨before, begins, rfl⟩ := passes
    rw [Path.elements_append] at begins
    have start : origin workingDirectory (front ++ [Path.slash]) =
        origin workingDirectory (front ++ Path.slash :: back) := by
      cases front <;> rfl
    refine ⟨before, ?_, by rw [start]⟩
    rw [Path.elements_append]
    exact begins.trans (List.prefix_append_right_inj _ |>.mpr List.nil_prefix)

theorem extends_of_makeDirectory (made : disk.makeDirectory workingDirectory path = .ok disk') :
    Extends (Passes workingDirectory path) disk disk' ∧
      ∃ location, disk'.find workingDirectory path = .ok (location, .directory) := by
  unfold makeDirectory at made
  split at made
  · cases made
  · rename_i location located
    split at made
    · cases made
    · rename_i free
      cases made
      have below : location ≠ [] := by
        rintro rfl
        cases free
      have goal : location = destination workingDirectory path := (destination_of_locate located).1
      have extends_ : Extends (Passes workingDirectory path) disk (disk.put location .directory) := by
        intro place
        rw [get?_put below]
        split
        · rename_i same
          subst same
          exact .inr ⟨free, rfl, goal ▸ passes_destination workingDirectory path⟩
        · exact .inl rfl
      refine ⟨extends_, location, find_directory_iff.mpr ⟨?_, get?_put_self below _⟩⟩
      obtain ⟨nonempty, printable, short, walked⟩ := locate_eq_ok_iff.mp located
      exact locate_eq_ok_iff.mpr
        ⟨nonempty, printable, short, walk_mono (fun place => extends_.get?_eq) walked⟩

/-- A directory that stands there already is not made again. -/
theorem extends_of_makeMissing
    (made : (match disk.makeDirectory workingDirectory path with
      | .ok disk => .ok disk
      | .error error =>
        match disk.find workingDirectory path with
        | .ok (_, .directory) => .ok disk
        | _ => .error error) = Except.ok disk') :
    Extends (Passes workingDirectory path) disk disk' ∧
      ∃ location, disk'.find workingDirectory path = .ok (location, .directory) := by
  split at made
  · rename_i directory
    cases made
    exact extends_of_makeDirectory directory
  · split at made
    · rename_i location found
      cases made
      exact ⟨.refl _ disk, location, found⟩
    · cases made

theorem extends_of_makeDirectoriesWithin {steps : Nat} {disk disk' : Disk} {path : Bytes}
    (made : makeDirectoriesWithin workingDirectory steps disk path = .ok disk') :
    Extends (Passes workingDirectory path) disk disk' ∧
      ∃ location, disk'.find workingDirectory path = .ok (location, .directory) := by
  induction steps generalizing disk disk' path with
  | zero => exact extends_of_makeDirectory made
  | succ steps ih =>
    rw [makeDirectoriesWithin] at made
    split at made
    · rename_i location found
      cases made
      exact ⟨.refl _ disk, location, found⟩
    · cases made
    · dsimp only at made
      split at made
      · exact extends_of_makeMissing made
      · rename_i above
        obtain ⟨middle, parents, last⟩ := bind_eq_ok_iff.mp made
        obtain ⟨extends_, -⟩ := ih parents
        obtain ⟨extends_', found⟩ := extends_of_makeMissing last
        exact ⟨(extends_.mono fun place passes => passes.of_parentText above).trans extends_', found⟩

/-- Making directories puts directories on the way of the path and changes nothing else; the path
leads to a directory then. -/
theorem extends_of_makeDirectories (made : disk.makeDirectories workingDirectory path = .ok disk') :
    Extends (Passes workingDirectory path) disk disk' ∧
      ∃ location, disk'.find workingDirectory path = .ok (location, .directory) :=
  extends_of_makeDirectoriesWithin made

end Disk
end Blockwork
