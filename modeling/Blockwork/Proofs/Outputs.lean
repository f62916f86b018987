import Blockwork.Build.Run
import Blockwork.Proofs.PathEnds
import Blockwork.Proofs.Walks
import Blockwork.Proofs.Words

/-!
# Where artifacts stand

The artifact of a file stands directly in the directory of the artifacts, under the last name of the
file with another ending. So an artifact that stands where a source is has the name that the
artifact of that source has: if no two files have the same artifact then no file is overwritten by
the artifact of another.
-/

namespace Blockwork

namespace Bytes

theorem dropEnding?_append (ending rest : Bytes) : dropEnding? ending (rest ++ ending) = some rest := by
  rw [dropEnding?, List.reverse_append, dropBeginning?_append]
  simp

theorem trimEnding_append (ending rest : Bytes) : trimEnding ending (rest ++ ending) = rest := by
  rw [trimEnding, dropEnding?_append]
  rfl

theorem mem_of_mem_trimEnding {ending text : Bytes} {byte : UInt8}
    (member : byte ∈ trimEnding ending text) : byte ∈ text := by
  rw [trimEnding] at member
  cases dropped : dropEnding? ending text with
  | none =>
    rw [dropped] at member
    exact member
  | some rest =>
    obtain ⟨backwards, found, rfl⟩ := Option.map_eq_some_iff.mp dropped
    have whole := dropBeginning?_eq_some_iff.mp found
    rw [dropped, Option.getD_some] at member
    rw [← List.mem_reverse, whole]
    exact List.mem_append_right _ (List.mem_reverse.mp member)

end Bytes

namespace Path

/-- One more element, against the elements that are left of it when they are shortened. -/
theorem follow_push {rooted : Bool} {start : Location} {before : List Bytes} (element : Bytes)
    (top : rooted = true → start = []) (plain : here ∉ before) :
    start.follow (push rooted before element).reverse =
      (start.follow before.reverse).follow [element] := by
  have extended : start.follow (element :: before).reverse =
      (start.follow before.reverse).follow [element] := by
    rw [List.reverse_cons, Location.follow_append]
  unfold push
  split
  case isTrue same =>
    rw [same, Location.follow, if_pos rfl]
    rfl
  case isFalse notHere =>
    split
    case isFalse => exact extended
    case isTrue up =>
      subst up
      cases before with
      | nil =>
        cases rooted with
        | true =>
          rw [top rfl]
          decide
        | false => rfl
      | cons last rest =>
        dsimp only
        split
        case isTrue => exact extended
        case isFalse notAbove =>
          have notHere' : last ≠ here := fun same => plain (same ▸ List.mem_cons_self)
          simp [Location.follow_append, Location.follow, notHere, notHere', notAbove]

/-- Shortening elements does not change where they lead. -/
theorem follow_reduce {rooted : Bool} {start : Location} (elements : List Bytes)
    (top : rooted = true → start = []) :
    start.follow (reduce rooted elements) = start.follow elements := by
  suffices general : ∀ before, here ∉ before →
      start.follow (elements.foldl (push rooted) before).reverse =
        (start.follow before.reverse).follow elements from
    general [] List.not_mem_nil
  induction elements with
  | nil => exact fun before _ => rfl
  | cons element rest ih =>
    intro before plain
    rw [List.foldl_cons, ih _ (here_not_mem_push plain), follow_push element top plain,
      ← Location.follow_append]
    rfl

/-! ## Names and endings -/

/-- The ending of a name is its last dot with what follows it. -/
theorem extension_append (stem : Bytes) {letters : Bytes} (undotted : 46 ∉ letters)
    (whole : slash ∉ letters) : extension (stem ++ 46 :: letters) = 46 :: letters := by
  have apart : ∀ byte ∈ letters.reverse ++ [46], decide (byte ≠ slash) = true := by
    intro byte member
    rcases List.mem_append.mp member with inside | last
    · have other : byte ≠ slash := fun same => whole (same ▸ List.mem_reverse.mp inside)
      simpa using other
    · rw [List.mem_singleton.mp last]
      decide
  have dotless : ∀ byte ∈ letters.reverse, decide (byte ≠ 46) = true := by
    intro byte member
    have other : byte ≠ 46 := fun same => undotted (same ▸ List.mem_reverse.mp member)
    simpa using other
  have backwards : (stem ++ 46 :: letters).reverse = (letters.reverse ++ [46]) ++ stem.reverse := by
    simp
  have name : (stem ++ 46 :: letters).reverse.takeWhile (· ≠ slash) =
      letters.reverse ++ 46 :: stem.reverse.takeWhile (· ≠ slash) := by
    rw [backwards, List.takeWhile_append_of_pos apart]
    simp
  have ending : (letters.reverse ++ 46 :: stem.reverse.takeWhile (· ≠ slash)).takeWhile (· ≠ 46) =
      letters.reverse := by
    rw [List.takeWhile_append_of_pos dotless]
    simp
  rw [extension, name, ending, if_pos (by simp), List.reverse_reverse]

/-- Whether a path is nothing but slashes. -/
def IsRoot (path : Bytes) : Prop := path ≠ [] ∧ ∀ byte ∈ path, byte = slash

theorem base_of_isRoot {path : Bytes} (root : IsRoot path) : base path = [slash] := by
  have none : path.reverse.dropWhile (· = slash) = [] := by
    rw [List.dropWhile_eq_nil_iff]
    intro byte member
    simpa using root.2 byte (List.mem_reverse.mp member)
  rw [base, if_neg root.1, none]
  rfl

theorem isElement_base {path : Bytes} (proper : ¬ IsRoot path) : IsElement (base path) := by
  rcases base_cases path with ⟨-, all⟩ | ⟨element, -⟩
  · have empty : path = [] := by
      by_contra filled
      exact proper ⟨filled, all⟩
    rw [empty]
    exact ⟨by decide, by decide⟩
  · exact element

/-- The last name of the path of a file is what its location ends in. -/
theorem exists_destination_eq (workingDirectory : Location) {path : Bytes}
    (plain : Disk.meansDirectory path = false) : ¬ IsRoot path ∧
      ∃ location, Disk.destination workingDirectory path = location ++ [base path] := by
  have named : ((split path).2 ≠ [] ∧ (split path).2 ≠ here) ∧ (split path).2 ≠ above := by
    simpa [Disk.meansDirectory] using plain
  obtain ⟨⟨filled, notHere⟩, notAbove⟩ := named
  obtain ⟨-, before, whole⟩ := exists_elements_of_split filled
  rcases base_cases path with ⟨none, -⟩ | ⟨element, list, whole'⟩
  · rw [none] at whole
    cases before <;> cases whole
  · have last : (split path).2 = base path := by
      simpa using (List.append_inj' (whole.symm.trans whole') rfl).2
    rw [last] at notHere notAbove
    refine ⟨fun root => ?_, (Disk.origin workingDirectory path).follow list, ?_⟩
    · rw [base_of_isRoot root] at element
      exact element.2 List.mem_cons_self
    · rw [Disk.destination, whole', Location.follow_append, Location.follow, if_neg notHere,
        if_neg notAbove]
      rfl

end Path

/-! ## The artifact of a file -/

namespace ArtifactKind

/-- A name that can be given to a file. -/
structure Proper (name : Bytes) : Prop where
  /-- It is one element of a path. -/
  element : Path.IsElement name
  /-- It does not mean the directory itself. -/
  notHere : name ≠ Path.here
  /-- It does not mean the directory above. -/
  notAbove : name ≠ Path.above

variable (kind : ArtifactKind) (directory file : Bytes) (workingDirectory : Location)

/-- What the last name of a file becomes in the path of its artifact. -/
def renamed : Bytes :=
  Bytes.trimEnding (Path.extension (Path.base file)) (Path.base file) ++ utf8 kind.suffix

/-- The name of the artifact of a file. -/
def artifactName : Bytes := (kind.renamed file).dropWhile (· = Path.slash)

theorem exists_suffix_eq : ∃ letters : Bytes, utf8 kind.suffix = 46 :: letters ∧ letters ≠ [] ∧
    46 ∉ letters ∧ Path.slash ∉ letters := by
  unfold suffix
  split_ifs
  · exact ⟨utf8 "ll", by decide, by decide, by decide, by decide⟩
  · exact ⟨utf8 "s", by decide, by decide, by decide, by decide⟩
  · exact ⟨utf8 "o", by decide, by decide, by decide, by decide⟩

theorem slash_not_mem_suffix : Path.slash ∉ utf8 kind.suffix := by
  obtain ⟨letters, same, -, -, whole⟩ := kind.exists_suffix_eq
  rw [same]
  simpa using ⟨by decide, whole⟩

/-- A name with an ending of a kind is proper, unless there is a slash in it. -/
theorem proper_append_suffix {stem : Bytes} (whole : Path.slash ∉ stem) :
    Proper (stem ++ utf8 kind.suffix) := by
  obtain ⟨letters, same, filled, undotted, -⟩ := kind.exists_suffix_eq
  obtain ⟨letter, rest, rfl⟩ := List.exists_cons_of_ne_nil filled
  have spelled : letter ∈ stem ++ utf8 kind.suffix := by simp [same]
  have notDot : letter ≠ 46 := fun dot => undotted (dot ▸ List.mem_cons_self)
  have dots : ∀ byte ∈ Path.above, byte = 46 := by decide +kernel
  have dot : ∀ byte ∈ Path.here, byte = 46 := by decide +kernel
  constructor
  case element =>
    refine ⟨by simp [same], fun member => ?_⟩
    rcases List.mem_append.mp member with inside | ending
    · exact whole inside
    · exact kind.slash_not_mem_suffix ending
  case notHere => exact fun same => notDot (dot letter (same ▸ spelled))
  case notAbove => exact fun same => notDot (dots letter (same ▸ spelled))

theorem dropWhile_slash {name : Bytes} (element : Path.IsElement name) :
    name.dropWhile (· = Path.slash) = name := by
  obtain ⟨first, rest, rfl⟩ := List.exists_cons_of_ne_nil element.1
  have other : first ≠ Path.slash := fun same => element.2 (same ▸ List.mem_cons_self)
  rw [List.dropWhile_cons_of_neg (by simpa using other)]

variable {file} in
theorem renamed_of_isRoot (root : Path.IsRoot file) :
    kind.renamed file = Path.slash :: utf8 kind.suffix := by
  rw [renamed, Path.base_of_isRoot root]
  rfl

variable {file} in
theorem proper_renamed (proper : ¬ Path.IsRoot file) :
    Proper (kind.renamed file) ∧ kind.artifactName file = kind.renamed file := by
  have whole : Path.slash ∉ Bytes.trimEnding (Path.extension (Path.base file)) (Path.base file) :=
    fun member => (Path.isElement_base proper).2 (Bytes.mem_of_mem_trimEnding member)
  have renamed : Proper (kind.renamed file) := kind.proper_append_suffix whole
  exact ⟨renamed, dropWhile_slash renamed.element⟩

variable {file} in
theorem artifactName_of_isRoot (root : Path.IsRoot file) :
    kind.artifactName file = utf8 kind.suffix := by
  have proper : Proper (utf8 kind.suffix) := kind.proper_append_suffix List.not_mem_nil
  rw [artifactName, kind.renamed_of_isRoot root, List.dropWhile_cons_of_pos (by simp),
    dropWhile_slash proper.element]

/-- The artifact of every file has a proper name. -/
theorem proper_artifactName :
    Proper (kind.artifactName file) ∧ Path.elements (kind.renamed file) = [kind.artifactName file] := by
  by_cases root : Path.IsRoot file
  · have proper : Proper (utf8 kind.suffix) := kind.proper_append_suffix List.not_mem_nil
    rw [kind.artifactName_of_isRoot root, kind.renamed_of_isRoot root]
    exact ⟨proper, (Path.elements_append [] _).trans (Path.elements_of_isElement proper.element)⟩
  · obtain ⟨proper, same⟩ := kind.proper_renamed root
    rw [same]
    exact ⟨proper, Path.elements_of_isElement proper.element⟩

theorem exists_artifactName_eq : ∃ stem, kind.artifactName file = stem ++ utf8 kind.suffix := by
  by_cases root : Path.IsRoot file
  · exact ⟨[], kind.artifactName_of_isRoot root⟩
  · exact ⟨_, (kind.proper_renamed root).2⟩

variable {directory file workingDirectory}

/-- The path of an artifact leads to the directory of the artifacts and then to its name. The empty
path is taken for a directory, too, unless the file is the root. -/
theorem outputPath_eq_render (stays : directory = [] → ¬ Path.IsRoot file) :
    kind.outputPath directory file = Path.render (Path.isAbsolute directory)
      (Path.reduce (Path.isAbsolute directory) (Path.elements directory) ++
        [kind.artifactName file]) := by
  obtain ⟨proper, elements⟩ := kind.proper_artifactName file
  have filled : kind.renamed file ≠ [] := by
    intro none
    rw [none] at elements
    cases elements
  have relative (empty : directory = []) : Path.isAbsolute (kind.renamed file) = false := by
    obtain ⟨proper, -⟩ := kind.proper_renamed (stays empty)
    obtain ⟨first, rest, same⟩ := List.exists_cons_of_ne_nil proper.element.1
    have other : first ≠ Path.slash := by
      intro slash
      rw [same, slash] at proper
      exact proper.element.2 List.mem_cons_self
    simp [Path.isAbsolute, same, other]
  rw [← Path.reduce_append proper.notHere proper.notAbove, ← elements]
  exact Path.join_eq_render directory (kind.renamed file) [] filled relative

theorem elements_outputPath (stays : directory = [] → ¬ Path.IsRoot file) :
    Path.elements (kind.outputPath directory file) =
        Path.reduce (Path.isAbsolute directory) (Path.elements directory) ++
          [kind.artifactName file] ∧
      Path.isAbsolute (kind.outputPath directory file) = Path.isAbsolute directory := by
  obtain ⟨proper, -⟩ := kind.proper_artifactName file
  have listed : ∀ element ∈ Path.reduce (Path.isAbsolute directory) (Path.elements directory) ++
      [kind.artifactName file], Path.IsElement element := by
    intro element member
    rcases List.mem_append.mp member with inside | last
    · exact Path.isElement_of_mem_reduce _ (fun _ => Path.isElement_of_mem_elements) element inside
    · rw [List.mem_singleton.mp last]
      exact proper.element
  rw [kind.outputPath_eq_render stays]
  exact ⟨Path.elements_render (by simp) listed, Path.isAbsolute_render (by simp) listed⟩

/-- The artifact of a file stands directly in the directory of the artifacts. -/
theorem destination_outputPath (stays : directory = [] → ¬ Path.IsRoot file) :
    Disk.destination workingDirectory (kind.outputPath directory file) =
      Disk.destination workingDirectory directory ++ [kind.artifactName file] := by
  obtain ⟨elements, rooted⟩ := kind.elements_outputPath stays
  obtain ⟨proper, -⟩ := kind.proper_artifactName file
  rw [Disk.destination, elements, rooted, Location.follow_append,
    Path.follow_reduce _ fun absolute => if_pos absolute, Location.follow, if_neg proper.notHere,
    if_neg proper.notAbove]
  rfl

/-- Files have the same artifact exactly if the names of their artifacts are the same. -/
theorem outputPath_eq_iff {other : Bytes} (stays : directory = [] → ¬ Path.IsRoot file)
    (stays' : directory = [] → ¬ Path.IsRoot other) :
    kind.outputPath directory file = kind.outputPath directory other ↔
      kind.artifactName file = kind.artifactName other := by
  constructor
  · intro same
    have elements := congrArg Path.elements same
    rw [(kind.elements_outputPath stays).1, (kind.elements_outputPath stays').1] at elements
    simpa using elements
  · intro same
    rw [kind.outputPath_eq_render stays, kind.outputPath_eq_render stays', same]

/-- A file that stands where an artifact is to be has this artifact itself. -/
theorem outputPath_eq_of_destination_eq {other : Bytes} (plain : Disk.meansDirectory file = false)
    (stays : directory = [] → ¬ Path.IsRoot other)
    (same : Disk.destination workingDirectory (kind.outputPath directory other) =
      Disk.destination workingDirectory file) :
    kind.outputPath directory file = kind.outputPath directory other := by
  obtain ⟨proper, location, led⟩ := Path.exists_destination_eq workingDirectory plain
  rw [kind.destination_outputPath stays, led] at same
  have name : kind.artifactName other = Path.base file := by simpa using (List.append_inj' same rfl).2
  obtain ⟨stem, ended⟩ := kind.exists_artifactName_eq other
  obtain ⟨letters, suffix, -, undotted, whole⟩ := kind.exists_suffix_eq
  rw [kind.outputPath_eq_iff (fun _ => proper) stays, (kind.proper_renamed proper).2, renamed, ← name,
    ended, suffix, Path.extension_append stem undotted whole, Bytes.trimEnding_append]

end ArtifactKind

namespace Build

theorem BuildRequest.nodup_of_checkOutputs {request : BuildRequest} {seen : List (Bytes × Bytes)}
    {files : List Bytes} (passed : request.checkOutputs seen files = .ok ()) :
    (files.map request.outputPath).Nodup ∧
      ∀ file ∈ files, request.outputPath file ∉ seen.map Prod.fst := by
  induction files generalizing seen with
  | nil => exact ⟨.nil, nofun⟩
  | cons file rest ih =>
    rw [checkOutputs] at passed
    split at passed
    · cases passed
    · rename_i missing
      obtain ⟨nodup, fresh⟩ := ih passed
      have first : request.outputPath file ∉ seen.map Prod.fst := by
        intro member
        obtain ⟨entry, inside, same⟩ := List.mem_map.mp member
        have other := List.lookup_eq_none_iff.mp missing entry inside
        simp [same] at other
      refine ⟨List.nodup_cons.mpr ⟨fun member => ?_, nodup⟩, fun other member => ?_⟩
      · obtain ⟨other, inside, same⟩ := List.mem_map.mp member
        exact fresh other inside (List.mem_cons.mpr (.inl same))
      · rcases List.mem_cons.mp member with rfl | inside
        · exact first
        · exact fun known => fresh other inside (List.mem_cons_of_mem _ known)

end Build
end Blockwork
