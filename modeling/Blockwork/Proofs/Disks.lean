import Blockwork.Files.Disk
import Blockwork.Proofs.Steps
import Mathlib.Data.List.Basic

/-!
# What stands on a disk afterwards

What each operation on a disk leaves at a location, and where a path leads if everything on its way
is there.
-/

namespace Blockwork

/-- The location at the end of elements that are followed from another. -/
def Location.follow (location : Location) : List Bytes → Location
  | [] => location
  | element :: rest =>
    if element = Path.here then Location.follow location rest
    else if element = Path.above then Location.follow location.dropLast rest
    else Location.follow (location ++ [element]) rest

theorem Location.follow_append (location : Location) (left right : List Bytes) :
    location.follow (left ++ right) = (location.follow left).follow right := by
  induction left generalizing location with
  | nil => rfl
  | cons element rest ih =>
    rw [List.cons_append, follow, follow]
    split
    · exact ih _
    · split <;> exact ih _

namespace Disk

variable {disk : Disk} {workingDirectory : Location} {path : Bytes}

/-! ## Paths -/

/-- The location that a path means if everything on its way is there. -/
def destination (workingDirectory : Location) (path : Bytes) : Location :=
  Location.follow (if Path.isAbsolute path then [] else workingDirectory) (Path.elements path)

theorem follow_of_walk {elements : List Bytes} {location target : Location}
    (walked : disk.walk location elements = .ok target) : target = location.follow elements := by
  induction elements generalizing location with
  | nil =>
    cases walked
    rfl
  | cons element rest ih =>
    rw [walk] at walked
    rw [Location.follow]
    split at walked
    · cases walked
    · cases walked
    · split at walked
      · rename_i same
        rw [if_pos same]
        exact ih walked
      · rename_i other
        rw [if_neg other]
        split at walked
        · rename_i same
          rw [if_pos same]
          exact ih walked
        · rename_i further
          rw [if_neg further]
          split at walked
          · cases walked
          · exact ih walked

theorem destination_of_locate {location : Location}
    (located : disk.locate workingDirectory path = .ok location) :
    location = destination workingDirectory path ∧ path.length ≤ maxPath := by
  obtain ⟨-, located⟩ := of_ite_error_eq_ok located
  obtain ⟨-, located⟩ := of_ite_error_eq_ok located
  obtain ⟨short, walked⟩ := of_ite_error_eq_ok located
  exact ⟨follow_of_walk walked, Nat.le_of_not_lt short⟩

theorem get?_of_find {location : Location} {entry : Entry}
    (found : disk.find workingDirectory path = .ok (location, entry)) :
    disk.get? location = some entry ∧ disk.locate workingDirectory path = .ok location := by
  obtain ⟨target, located, found⟩ := bind_eq_ok_iff.mp found
  split at found
  · cases found
  · rename_i content held
    obtain ⟨-, done⟩ := of_ite_error_eq_ok found
    cases done
    exact ⟨held, located⟩
  · rename_i held
    cases found
    exact ⟨held, located⟩

/-- A file that can be read stands where its path leads. -/
theorem get?_of_content {content : Bytes}
    (read : disk.content workingDirectory path = .ok content) :
    disk.get? (destination workingDirectory path) = some (.file content) ∧
      path.length ≤ maxPath := by
  unfold Disk.content at read
  split at read
  · cases read
  · cases read
  · rename_i location bytes found
    cases read
    obtain ⟨held, located⟩ := get?_of_find found
    obtain ⟨rfl, short⟩ := destination_of_locate located
    exact ⟨held, short⟩

/-! ## Locations -/

theorem lookup_cons (location place : Location) (entry : Entry) (rest : List (Location × Entry)) :
    ((place, entry) :: rest).lookup location =
      if location = place then some entry else rest.lookup location := by
  rw [List.lookup_cons]
  by_cases same : location = place
  · simp [same]
  · simp [same, beq_eq_false_iff_ne.mpr same]

theorem lookup_replace (location other : Location) (entry : Entry)
    (entries : List (Location × Entry)) :
    (replace location entry entries).lookup other =
      if other = location then some entry else entries.lookup other := by
  induction entries with
  | nil => rw [replace, lookup_cons]
  | cons first rest ih =>
    obtain ⟨place, old⟩ := first
    rw [replace]
    by_cases here : place = location
    · subst here
      rw [if_pos rfl, lookup_cons, lookup_cons]
      split <;> rfl
    · rw [if_neg here, lookup_cons, lookup_cons, ih]
      by_cases same : other = place
      · subst same
        rw [if_pos rfl, if_neg here, if_pos rfl]
      · rw [if_neg same, if_neg same]

theorem get?_put {location : Location} (below : location ≠ []) (other : Location) (entry : Entry) :
    (disk.put location entry).get? other =
      if other = location then some entry else disk.get? other := by
  rw [get?, get?, put, lookup_replace]
  by_cases root : other = []
  · subst root
    rw [if_pos rfl, if_neg below.symm, if_pos rfl]
  · rw [if_neg root, if_neg root]

theorem get?_put_self {location : Location} (below : location ≠ []) (entry : Entry) :
    (disk.put location entry).get? location = some entry := by
  rw [get?_put below, if_pos rfl]

theorem lookup_filter {keep : Location × Entry → Bool} {location : Location}
    (kept : ∀ entry, keep (location, entry) = true) (entries : List (Location × Entry)) :
    (entries.filter keep).lookup location = entries.lookup location := by
  induction entries with
  | nil => rfl
  | cons first rest ih =>
    obtain ⟨place, entry⟩ := first
    by_cases same : location = place
    · subst same
      rw [List.filter_cons_of_pos (kept entry), lookup_cons, lookup_cons, if_pos rfl, if_pos rfl]
    · by_cases stays : keep (place, entry) = true
      · rw [List.filter_cons_of_pos stays, lookup_cons, lookup_cons, ih]
      · rw [List.filter_cons_of_neg stays, lookup_cons, if_neg same, ih]

theorem isPrefixOf_eq_false {left right : Location} (apart : ¬ left <+: right) :
    left.isPrefixOf right = false :=
  Bool.eq_false_iff.mpr fun begins => apart (List.isPrefixOf_iff_prefix.mp begins)

theorem get?_erase {location other : Location} (apart : ¬ location <+: other) :
    (disk.erase location).get? other = disk.get? other := by
  rw [get?, get?, erase, lookup_filter]
  intro _
  rw [isPrefixOf_eq_false apart]
  rfl

/-- What stands neither below the one place nor below the other is not moved. -/
theorem get?_move {source target other : Location} (apart : ¬ source <+: other)
    (apart' : ¬ target <+: other) : (disk.move source target).get? other = disk.get? other := by
  have kept : (disk.entries.filter fun entry =>
      source = target || !target.isPrefixOf entry.1).lookup other = disk.entries.lookup other := by
    apply lookup_filter
    intro _
    rw [isPrefixOf_eq_false apart', Bool.not_false, Bool.or_true]
  rw [get?, get?, move, ← kept]
  generalize disk.entries.filter _ = entries
  split
  · rfl
  · induction entries with
    | nil => rfl
    | cons first rest ih =>
      obtain ⟨place, entry⟩ := first
      cases moved : source.isPrefixOf? place with
      | none => simp only [List.map_cons, moved, lookup_cons, ih]
      | some tail =>
        obtain rfl := List.isPrefixOf?_eq_some_iff_append_eq.mp moved
        have before : other ≠ source ++ tail := by
          rintro rfl
          exact apart (List.prefix_append _ _)
        have after : other ≠ target ++ tail := by
          rintro rfl
          exact apart' (List.prefix_append _ _)
        simp only [List.map_cons, moved, lookup_cons, if_neg before, if_neg after, ih]

theorem not_prefix_append {left right : Location} (apart : ¬ left <+: right)
    (apart' : ¬ right <+: left) (rest : Location) : ¬ left <+: right ++ rest := by
  intro begins
  rcases List.prefix_or_prefix_of_prefix begins (List.prefix_append right rest) with above | under
  · exact apart above
  · exact apart' under

/-- A place takes over what stood at the other and below it. -/
theorem get?_move_target {source target : Location} (apart : ¬ source <+: target)
    (apart' : ¬ target <+: source) (rest : Location) :
    (disk.move source target).get? (target ++ rest) = disk.get? (source ++ rest) := by
  have differ : source ≠ target := by
    rintro rfl
    exact apart List.prefix_rfl
  have below : source ++ rest ≠ [] := by
    intro none
    exact apart ((List.append_eq_nil_iff.mp none).1 ▸ List.nil_prefix)
  have below' : target ++ rest ≠ [] := by
    intro none
    exact apart' ((List.append_eq_nil_iff.mp none).1 ▸ List.nil_prefix)
  rw [get?, get?, move, if_neg below, if_neg below']
  induction disk.entries with
  | nil => rfl
  | cons first others ih =>
    obtain ⟨place, entry⟩ := first
    by_cases gone : target <+: place
    · have other : source ++ rest ≠ place := by
        rintro rfl
        exact not_prefix_append apart' apart rest gone
      rw [List.filter_cons_of_neg (by simp [differ, List.isPrefixOf_iff_prefix.mpr gone])]
      rw [lookup_cons, if_neg other]
      exact ih
    · rw [List.filter_cons_of_pos (by simp [isPrefixOf_eq_false gone])]
      cases moved : source.isPrefixOf? place with
      | none =>
        have other : source ++ rest ≠ place := by
          rintro rfl
          have all := List.isPrefixOf?_eq_some_iff_append_eq.mpr (rfl : source ++ rest = _)
          rw [all] at moved
          cases moved
        have other' : target ++ rest ≠ place := by
          rintro rfl
          exact gone (List.prefix_append _ _)
        simp only [List.map_cons, moved, lookup_cons, if_neg other, if_neg other']
        exact ih
      | some tail =>
        obtain rfl := List.isPrefixOf?_eq_some_iff_append_eq.mp moved
        simp only [List.map_cons, moved, lookup_cons, List.append_cancel_left_eq]
        rw [ih]

/-- Nothing is left at a place that was moved. -/
theorem get?_move_source {source target : Location} (apart : ¬ source <+: target)
    (apart' : ¬ target <+: source) (rest : Location) :
    (disk.move source target).get? (source ++ rest) = none := by
  have below : source ++ rest ≠ [] := by
    intro none
    exact apart ((List.append_eq_nil_iff.mp none).1 ▸ List.nil_prefix)
  rw [get?, if_neg below, move, List.lookup_eq_none_iff]
  intro moved member
  obtain ⟨⟨place, entry⟩, -, rfl⟩ := List.mem_map.mp member
  rw [bne_iff_ne]
  dsimp only
  split
  · rename_i tail here
    intro (same : source ++ rest = target ++ tail)
    exact not_prefix_append apart apart' tail (same ▸ List.prefix_append _ _)
  · rename_i elsewhere
    rintro rfl
    have all := List.isPrefixOf?_eq_some_iff_append_eq.mpr (rfl : source ++ rest = _)
    rw [all] at elsewhere
    cases elsewhere

/-- Nothing is left of what was erased. -/
theorem get?_erase_below {location other : Location} (begins : location <+: other)
    (below : other ≠ []) : (disk.erase location).get? other = none := by
  rw [get?, if_neg below, erase, List.lookup_eq_none_iff]
  intro entry member
  have kept := (List.mem_filter.mp member).2
  rw [bne_iff_ne]
  rintro rfl
  rw [List.isPrefixOf_iff_prefix.mpr begins] at kept
  cases kept

/-! ## Temporary files -/

section Temporary

variable {temporary target : Location} (below : temporary ≠ [])
  (free : ∀ rest, disk.get? (temporary ++ rest) = none)
include below free

/-- A temporary file that is removed again leaves everything as it was. -/
theorem get?_put_erase (entry : Entry) (place : Location) :
    ((disk.put temporary entry).erase temporary).get? place = disk.get? place := by
  by_cases under : temporary <+: place
  · obtain ⟨rest, rfl⟩ := under
    rw [get?_erase_below (List.prefix_append _ _) (by simp [below]), free]
  · have elsewhere : place ≠ temporary := by
      rintro rfl
      exact under List.prefix_rfl
    rw [get?_erase under, get?_put below, if_neg elsewhere]

/-- A temporary file that is moved to another place takes that place, and everything else is as it
was. -/
theorem get?_put_move (apart : ¬ temporary <+: target) (apart' : ¬ target <+: temporary)
    (bare : ∀ rest ≠ [], disk.get? (target ++ rest) = none) (entry : Entry) (place : Location) :
    ((disk.put temporary entry).move temporary target).get? place =
      if place = target then some entry else disk.get? place := by
  by_cases covers : target <+: place
  · obtain ⟨rest, rfl⟩ := covers
    rw [get?_move_target apart apart', get?_put below]
    by_cases whole : rest = []
    · subst whole
      rw [List.append_nil, List.append_nil, if_pos rfl, if_pos rfl]
    · rw [if_neg (by simpa using whole), if_neg (by simpa using whole), free, bare rest whole]
  · have differ : place ≠ target := by
      rintro rfl
      exact covers List.prefix_rfl
    rw [if_neg differ]
    by_cases under : temporary <+: place
    · obtain ⟨rest, rfl⟩ := under
      rw [get?_move_source apart apart', free]
    · have elsewhere : place ≠ temporary := by
        rintro rfl
        exact under List.prefix_rfl
      rw [get?_move under covers, get?_put below, if_neg elsewhere]

end Temporary

/-! ## Files -/

/-- No file is new, and files have only been written on: what a file holds begins with what it held
before. -/
def Appended (before after : Disk) : Prop :=
  ∀ location content, after.get? location = some (.file content) →
    ∃ old, before.get? location = some (.file old) ∧ old <+: content

namespace Appended

variable {before middle after : Disk}

theorem refl (disk : Disk) : disk.Appended disk :=
  fun _ content held => ⟨content, held, List.prefix_rfl⟩

theorem trans (first : before.Appended middle) (second : middle.Appended after) :
    before.Appended after := by
  intro location content held
  obtain ⟨middleContent, middleHeld, grown⟩ := second location content held
  obtain ⟨old, oldHeld, grown'⟩ := first location middleContent middleHeld
  exact ⟨old, oldHeld, grown'.trans grown⟩

end Appended

theorem appended_appendFile (disk : Disk) (workingDirectory : Location) (path text : Bytes) :
    disk.Appended (disk.appendFile workingDirectory path text) := by
  unfold appendFile
  split
  · rename_i location content found
    have held := (get?_of_find found).1
    have below : location ≠ [] := by
      rintro rfl
      cases held
    intro other now nowHeld
    rw [get?_put below] at nowHeld
    split at nowHeld
    · rename_i same
      cases nowHeld
      exact ⟨content, same ▸ held, List.prefix_append _ _⟩
    · exact ⟨now, nowHeld, List.prefix_rfl⟩
  · exact .refl disk

theorem appended_of_makeDirectory {disk' : Disk}
    (made : disk.makeDirectory workingDirectory path = .ok disk') : disk.Appended disk' := by
  unfold makeDirectory at made
  split at made
  · cases made
  · rename_i location _
    split at made
    · cases made
    · rename_i free
      cases made
      have below : location ≠ [] := by
        rintro rfl
        cases free
      intro other content held
      rw [get?_put below] at held
      split at held
      · cases held
      · exact ⟨content, held, List.prefix_rfl⟩

/-- A directory that stands there already is not made again. -/
theorem appended_of_makeMissing {disk' : Disk}
    (made : (match disk.makeDirectory workingDirectory path with
      | .ok disk => .ok disk
      | .error error =>
        match disk.find workingDirectory path with
        | .ok (_, .directory) => .ok disk
        | _ => .error error) = Except.ok disk') : disk.Appended disk' := by
  split at made
  · rename_i directory
    cases made
    exact appended_of_makeDirectory directory
  · split at made
    · cases made
      exact .refl disk
    · cases made

theorem appended_of_makeDirectoriesWithin {steps : Nat} {disk disk' : Disk} {path : Bytes}
    (made : makeDirectoriesWithin workingDirectory steps disk path = .ok disk') :
    disk.Appended disk' := by
  induction steps generalizing disk disk' path with
  | zero => exact appended_of_makeDirectory made
  | succ steps ih =>
    rw [makeDirectoriesWithin] at made
    split at made
    · cases made
      exact .refl disk
    · cases made
    · -- The directories above come first, if the path has any, and then the one it names.
      dsimp only at made
      split at made
      · exact appended_of_makeMissing made
      · obtain ⟨middle, parents, last⟩ := bind_eq_ok_iff.mp made
        exact (ih parents).trans (appended_of_makeMissing last)

/-- Making directories makes no files. -/
theorem appended_of_makeDirectories {disk' : Disk}
    (made : disk.makeDirectories workingDirectory path = .ok disk') : disk.Appended disk' :=
  appended_of_makeDirectoriesWithin made

end Disk
end Blockwork
