import Blockwork.Proofs.Making
import Blockwork.Proofs.Outputs

/-!
# Independent files

The files of a build do not get in each other's way. An artifact is written directly in the
directory of the artifacts, beside the artifacts of the other files and never over a source that is
not its own; so what a file comes to is the same whatever files are built with it, and in which
order.
-/

namespace Blockwork

namespace Disk

/-- A file that can be read stays so when directories are made. -/
theorem Extends.content_eq {places : Location → Prop} {disk disk' : Disk}
    {workingDirectory : Location} {path content : Bytes} (extended : Extends places disk disk')
    (read : disk.content workingDirectory path = .ok content) :
    disk'.content workingDirectory path = .ok content := by
  obtain ⟨located, plain⟩ := of_content_eq_ok read
  obtain ⟨held, -⟩ := get?_of_content read
  obtain ⟨nonempty, printable, short, walked⟩ := locate_eq_ok_iff.mp located
  have again : disk'.locate workingDirectory path = .ok (destination workingDirectory path) :=
    locate_eq_ok_iff.mpr
      ⟨nonempty, printable, short, walk_mono (fun _ => extended.get?_eq) walked⟩
  exact content_of_get? again (extended.get?_eq held) plain

/-- A path that is read leads to the same on a disk that is revised elsewhere. -/
theorem Revises.content_eq {changed made : Location → Prop} {disk disk' : Disk}
    {workingDirectory : Location} {path content : Bytes}
    (revises : disk.Revises changed made disk')
    (kept : ¬ changed (destination workingDirectory path))
    (kept' : ¬ made (destination workingDirectory path))
    (read : disk.content workingDirectory path = .ok content) :
    disk'.content workingDirectory path = disk.content workingDirectory path := by
  obtain ⟨located, -⟩ := of_content_eq_ok read
  exact content_congr ((revises.locate_eq_ok located).trans located.symm) (revises.get?_eq kept kept')

end Disk

namespace Build

/-! ## One file -/

section File

variable (request : BuildRequest) (workingDirectory : Location) (disk : Disk) (file : Bytes)

/-- Where the artifact of a file stands. -/
def place : Location := Disk.destination workingDirectory (request.outputPath file)

/-- The text that is written as the artifact of a file, or why none is. -/
def verdictOn : Except Failure Bytes := do
  let context ← loading request workingDirectory disk file
  let () ← context.validate
  let text ← context.moduleText
  let () ← (disk.admits workingDirectory (request.outputPath file)).mapError fun error =>
    Llvm.Backend.failure (.file error)
  pure text

theorem outcome_eq : outcome request workingDirectory disk file =
    (verdictOn request workingDirectory disk file).map fun text =>
      disk.put (place request workingDirectory file) (.file text) := by
  have write (text : Bytes) : writeArtifact request workingDirectory disk file text =
      ((disk.admits workingDirectory (request.outputPath file)).mapError fun error =>
        Llvm.Backend.failure (.file error)).map fun _ =>
          disk.put (place request workingDirectory file) (.file text) := by
    rw [writeArtifact, Disk.writeFile_eq]
    cases disk.admits workingDirectory (request.outputPath file) <;> rfl
  rw [outcome, verdictOn]
  cases loading request workingDirectory disk file with
  | error failure => rfl
  | ok context =>
    change (context.validate >>= _) = (context.validate >>= _).map _
    cases context.validate with
    | error failure => rfl
    | ok _ =>
      change context.moduleText >>= _ = (context.moduleText >>= _).map _
      cases context.moduleText with
      | error failure => rfl
      | ok text =>
        change writeArtifact request workingDirectory disk file text = _
        rw [write]
        cases disk.admits workingDirectory (request.outputPath file) <;> rfl

theorem make_eq : make request workingDirectory disk file =
    match verdictOn request workingDirectory disk file with
    | .error failure =>
      ({ file, output := request.outputPath file, failure := some failure }, disk)
    | .ok text => ({ file, output := request.outputPath file },
        disk.put (place request workingDirectory file) (.file text)) := by
  rw [make, outcome_eq]
  cases verdictOn request workingDirectory disk file <;> rfl

/-- A text is written only where the disk admits it. -/
theorem admits_of_verdictOn {text : Bytes}
    (written : verdictOn request workingDirectory disk file = .ok text) :
    disk.admits workingDirectory (request.outputPath file) = .ok () := by
  obtain ⟨context, -, written⟩ := bind_eq_ok_iff.mp written
  obtain ⟨-, -, written⟩ := bind_eq_ok_iff.mp written
  obtain ⟨_, -, written⟩ := bind_eq_ok_iff.mp written
  obtain ⟨_, admitted, -⟩ := bind_eq_ok_iff.mp written
  cases allowed : disk.admits workingDirectory (request.outputPath file) with
  | error error =>
    rw [allowed] at admitted
    cases admitted
  | ok _ => rfl

end File

/-! ## On a disk with other artifacts -/

/-- Whether the path of the artifacts leads to their directory, as far as that depends on what is on
its way. -/
def Leads (request : BuildRequest) (workingDirectory : Location) (disk : Disk) : Prop :=
  disk.walk (Disk.origin workingDirectory request.directory)
      (Path.reduce (Path.isAbsolute request.directory) (Path.elements request.directory)) =
    .ok (Disk.destination workingDirectory request.directory)

variable {request : BuildRequest} {workingDirectory : Location} {disk disk' : Disk} {file : Bytes}
  {written : Location → Prop}

/-- A file that can be read is no root. -/
theorem not_isRoot_of_read {source : Bytes}
    (read : disk.content workingDirectory file = .ok source) : ¬ Path.IsRoot file :=
  (Path.exists_destination_eq workingDirectory (Disk.of_content_eq_ok read).2).1

theorem place_eq (proper : ¬ Path.IsRoot file) : place request workingDirectory file =
    Disk.destination workingDirectory request.directory ++ [request.kind.artifactName file] :=
  request.kind.destination_outputPath fun _ => proper

/-- The path of an artifact leads to the same place whatever other artifacts there are. -/
theorem locate_outputPath_eq (leads : Leads request workingDirectory disk)
    (revises : disk.Revises written written disk')
    (bare : ¬ written (Disk.destination workingDirectory request.directory))
    (proper : ¬ Path.IsRoot file) :
    disk'.locate workingDirectory (request.outputPath file) =
      disk.locate workingDirectory (request.outputPath file) := by
  obtain ⟨elements, rooted⟩ := request.kind.elements_outputPath fun _ => proper
  have start : Disk.origin workingDirectory (request.kind.outputPath request.directory file) =
      Disk.origin workingDirectory request.directory := by
    rw [Disk.origin, Disk.origin, rooted]
  refine Disk.locate_congr ?_
  rw [BuildRequest.outputPath, start, elements, Disk.walk_append, Disk.walk_append,
    revises.walk_eq_ok leads, leads]
  exact revises.walk_step bare fun _ => rfl

/-- What a file comes to is the same whatever other artifacts there are. -/
theorem verdictOn_eq (leads : Leads request workingDirectory disk)
    (revises : disk.Revises written written disk')
    (bare : ¬ written (Disk.destination workingDirectory request.directory)) {source : Bytes}
    (read : disk.content workingDirectory file = .ok source)
    (kept : ¬ written (Disk.destination workingDirectory file))
    (free : ¬ written (place request workingDirectory file)) :
    verdictOn request workingDirectory disk' file = verdictOn request workingDirectory disk file := by
  have same := Disk.admits_congr
    (locate_outputPath_eq leads revises bare (not_isRoot_of_read read)) (revises.get?_eq free free)
  rw [verdictOn, verdictOn, loading, loading, revises.content_eq kept kept read, same]

/-- What is reported about a file, and what stands in the place of its artifact afterwards, is the
same whatever other artifacts there are. Nothing else is written. -/
theorem make_congr (leads : Leads request workingDirectory disk)
    (revises : disk.Revises written written disk')
    (bare : ¬ written (Disk.destination workingDirectory request.directory)) {source : Bytes}
    (read : disk.content workingDirectory file = .ok source)
    (kept : ¬ written (Disk.destination workingDirectory file))
    (free : ¬ written (place request workingDirectory file)) :
    (make request workingDirectory disk' file).1 = (make request workingDirectory disk file).1 ∧
      (make request workingDirectory disk' file).2.get? (place request workingDirectory file) =
        (make request workingDirectory disk file).2.get? (place request workingDirectory file) ∧
      (∀ other ≠ place request workingDirectory file,
        (make request workingDirectory disk' file).2.get? other = disk'.get? other) ∧
      disk.Revises (fun other => written other ∨ other = place request workingDirectory file)
        (fun other => written other ∨ other = place request workingDirectory file)
        (make request workingDirectory disk' file).2 := by
  have below : place request workingDirectory file ≠ [] := by
    rw [place_eq (not_isRoot_of_read read)]
    exact List.append_ne_nil_of_right_ne_nil _ (List.cons_ne_nil _ _)
  have wider : disk.Revises (fun other => written other ∨ other = place request workingDirectory file)
      (fun other => written other ∨ other = place request workingDirectory file) disk' :=
    revises.mono (fun _ => .inl) fun _ => .inl
  rw [make_eq, make_eq, verdictOn_eq leads revises bare read kept free]
  cases reached : verdictOn request workingDirectory disk file with
  | error failure => exact ⟨rfl, revises.get?_eq free free, fun _ _ => rfl, wider⟩
  | ok text =>
    refine ⟨rfl, ?_, fun other elsewhere => ?_, ?_⟩
    · exact (Disk.get?_put_self below _).trans (Disk.get?_put_self below _).symm
    · exact (Disk.get?_put below other _).trans (if_neg elsewhere)
    · rw [← verdictOn_eq leads revises bare read kept free] at reached
      obtain ⟨-, plain⟩ := Disk.of_admits_eq_ok (admits_of_verdictOn _ _ _ _ reached)
      exact wider.put below plain (.inr rfl) (.inr rfl) text

/-! ## All files -/

/-- What is reported about each of several files, and what stands in the place of its artifact
afterwards, is the same as for the file alone, if no two have the same artifact and no artifact
stands where the source of another is. -/
theorem makeAll_eq (leads : Leads request workingDirectory disk) {files : List Bytes}
    (revises : disk.Revises written written disk')
    (bare : ¬ written (Disk.destination workingDirectory request.directory))
    (each : ∀ file ∈ files, (∃ source, disk.content workingDirectory file = .ok source) ∧
      ¬ written (Disk.destination workingDirectory file) ∧
      ¬ written (place request workingDirectory file))
    (distinct : (files.map (place request workingDirectory)).Nodup)
    (own : ∀ file ∈ files, ∀ other ∈ files,
      place request workingDirectory file = Disk.destination workingDirectory other →
        place request workingDirectory file = place request workingDirectory other) :
    (makeAll request workingDirectory disk' files).1 =
        files.map (fun file => (make request workingDirectory disk file).1) ∧
      (∀ file ∈ files, (makeAll request workingDirectory disk' files).2.get?
          (place request workingDirectory file) =
        (make request workingDirectory disk file).2.get? (place request workingDirectory file)) ∧
      ∀ other ∉ files.map (place request workingDirectory),
        (makeAll request workingDirectory disk' files).2.get? other = disk'.get? other := by
  induction files generalizing disk' written with
  | nil => exact ⟨rfl, nofun, fun _ _ => rfl⟩
  | cons file rest ih =>
    obtain ⟨⟨source, read⟩, kept, free⟩ := each file List.mem_cons_self
    obtain ⟨result, here, elsewhere, revises'⟩ := make_congr leads revises bare read kept free
    obtain ⟨fresh, distinct'⟩ := List.nodup_cons.mp distinct
    have apart (other : Bytes) (member : other ∈ rest) :
        place request workingDirectory other ≠ place request workingDirectory file :=
      fun same => fresh (same ▸ List.mem_map_of_mem member)
    have bare' : ¬ (written (Disk.destination workingDirectory request.directory) ∨
        Disk.destination workingDirectory request.directory =
          place request workingDirectory file) := by
      rintro (inside | same)
      · exact bare inside
      · rw [place_eq (not_isRoot_of_read read)] at same
        simpa using congrArg List.length same
    obtain ⟨results, entries, others⟩ := ih revises' bare' (fun other member => by
        obtain ⟨readable, kept, free⟩ := each other (List.mem_cons_of_mem _ member)
        refine ⟨readable, ?_, ?_⟩
        · rintro (inside | same)
          · exact kept inside
          · exact apart other member
              (own file List.mem_cons_self other (List.mem_cons_of_mem _ member) same.symm).symm
        · rintro (inside | same)
          · exact free inside
          · exact apart other member same)
      distinct' fun left member right member' =>
        own left (List.mem_cons_of_mem _ member) right (List.mem_cons_of_mem _ member')
    refine ⟨?_, ?_, ?_⟩
    · rw [makeAll, List.map_cons, ← result, ← results]
    · intro other member
      rcases List.mem_cons.mp member with rfl | inside
      · exact (others _ fresh).trans here
      · exact entries other inside
    · intro other outside
      obtain ⟨first, further⟩ := not_or.mp (mt List.mem_cons.mpr outside)
      exact (others other further).trans (elsewhere other first)

/-! ## The build -/

/-- Whether a request can be built file by file: it is for textual modules, there is no cache and no
cancellation, the files can be read, no two have the same artifact, and nothing is traced into files
or artifacts. -/
structure Buildable (request : BuildRequest) (session : Session) : Prop where
  /-- Textual modules are made. -/
  textual : request.kind = .llvm
  /-- There is no cache. -/
  uncached : request.cache = none
  /-- The session is never cancelled. -/
  never : session.cancelAfter = none
  /-- Each file is there. -/
  readable : ∀ file ∈ request.files, ∃ source,
    session.disk.content session.workingDirectory file = .ok source
  /-- The artifacts are different. -/
  distinct : request.checkOutputs [] request.files = .ok ()
  /-- The tracer writes neither to a file nor to an artifact. -/
  untraced : ∀ sink ∈ session.journal.sinks, ∀ path, sink.place = .file path →
    ∀ file ∈ request.files,
      Disk.destination session.workingDirectory path ≠
          Disk.destination session.workingDirectory file ∧
        Disk.destination session.workingDirectory path ≠
          place request session.workingDirectory file

/-- Which files clash does not depend on the files that are built. -/
theorem checkOutputs_with (request : BuildRequest) (others : List Bytes)
    (seen : List (Bytes × Bytes)) (files : List Bytes) :
    { request with files := others }.checkOutputs seen files = request.checkOutputs seen files := by
  induction files generalizing seen with
  | nil => rfl
  | cons file rest ih =>
    rw [BuildRequest.checkOutputs, BuildRequest.checkOutputs, ih]
    rfl

/-- Preparing goes the same way for some of the files as for all. If it succeeds then the directory
of the artifacts is there, and every file that could be read still can. -/
theorem prepare_cases (request : BuildRequest) (session : Session) :
    (∃ failure, ∀ files ≠ [], request.checkOutputs [] files = .ok () →
      (prepare { request with files }).run session = (.error failure, session)) ∨
    ∃ disk, (∀ files ≠ [], request.checkOutputs [] files = .ok () →
        (prepare { request with files }).run session = (.ok (), { session with disk })) ∧
      Leads request session.workingDirectory disk ∧
      ∀ path source, session.disk.content session.workingDirectory path = .ok source →
        disk.content session.workingDirectory path = .ok source := by
  have prepared (files : List Bytes) (filled : files ≠ [])
      (distinct : request.checkOutputs [] files = .ok ()) :=
    @run_prepare { request with files } session filled
      ((checkOutputs_with request files [] files).trans distinct)
  by_cases empty : request.directory = []
  · refine .inr ⟨session.disk, fun files filled distinct => ?_, ?_, fun _ _ read => read⟩
    · exact (prepared files filled distinct).trans (if_pos empty)
    · rw [Leads, empty]
      rfl
  · cases made : session.disk.makeDirectories session.workingDirectory request.directory with
    | error error =>
      refine .inl ⟨.within (utf8 "failed to create output dir") (.file error),
        fun files filled distinct => ?_⟩
      refine (prepared files filled distinct).trans ((if_neg empty).trans ?_)
      rw [made]
    | ok disk =>
      obtain ⟨extended, home, found⟩ := Disk.extends_of_makeDirectories made
      obtain ⟨located, -⟩ := Disk.find_directory_iff.mp found
      obtain ⟨-, -, -, walked⟩ := Disk.locate_eq_ok_iff.mp located
      obtain rfl := (Disk.destination_of_locate located).1
      refine .inr ⟨disk, fun files filled distinct => ?_, ?_, fun _ _ read => extended.content_eq read⟩
      · refine (prepared files filled distinct).trans ((if_neg empty).trans ?_)
        rw [made]
      · exact Disk.walk_reduce (fun absolute => if_pos absolute) walked

theorem run_of_prepare_error {request : BuildRequest} {parent : Nat} {session begun : Session}
    {failure : Failure} (refused : (prepare request).run session = (.error failure, begun)) :
    (run (some request) parent).run session = (({}, .error failure), begun) := by
  rw [run, StateT.run_bind, refused]
  rfl

variable {session : Session}

theorem Buildable.places (buildable : Buildable request session) :
    (request.files.map (place request session.workingDirectory)).Nodup ∧
      ∀ file ∈ request.files, ∀ other ∈ request.files,
        place request session.workingDirectory file =
            Disk.destination session.workingDirectory other →
          request.outputPath file = request.outputPath other := by
  have proper {file : Bytes} (member : file ∈ request.files) : ¬ Path.IsRoot file :=
    (buildable.readable file member).elim fun _ => not_isRoot_of_read
  constructor
  · have outputs := (BuildRequest.nodup_of_checkOutputs buildable.distinct).1
    rw [List.Nodup, List.pairwise_map] at outputs ⊢
    refine outputs.imp_of_mem fun {file other} member member' differ same => differ ?_
    rw [place_eq (proper member), place_eq (proper member')] at same
    exact (request.kind.outputPath_eq_iff (fun _ => proper member) fun _ => proper member').mpr
      (by simpa using same)
  · intro file member other member' same
    obtain ⟨source, read⟩ := buildable.readable other member'
    exact (request.kind.outputPath_eq_of_destination_eq (Disk.of_content_eq_ok read).2
      (fun _ => proper member) same).symm

/-- Where a session traces. -/
def tracedIn (session : Session) (location : Location) : Prop :=
  ∃ sink ∈ session.journal.sinks, ∃ path, sink.place = .file path ∧
    location = Disk.destination session.workingDirectory path

/-- The report of a build, and what stands in the places of its artifacts, if it can be begun. -/
theorem Buildable.ends_run (buildable : Buildable request session) (parent : Nat)
    {begun : Session} {disk : Disk} (same : begun = { session with disk })
    (leads : Leads request session.workingDirectory disk)
    (kept : ∀ path source, session.disk.content session.workingDirectory path = .ok source →
      disk.content session.workingDirectory path = .ok source)
    (prepared : (prepare request).run session = (.ok (), begun)) :
    Work.Ends (run (some request) parent) session fun (report, _) session' =>
      report.files = request.files.map
          (fun file => (make request session.workingDirectory disk file).1) ∧
        ∀ file ∈ request.files,
          session'.disk.get? (place request session.workingDirectory file) =
            (make request session.workingDirectory disk file).2.get?
              (place request session.workingDirectory file) := by
  subst same
  have tracks : ({ session with disk } : Session).Tracks session.toEnvironment (tracedIn session) disk :=
    Session.Tracks.start { session with disk } fun sink member path place =>
      ⟨sink, member, path, place, rfl⟩
  have apart (file : Bytes) (member : file ∈ request.files) :
      ¬ tracedIn session (Disk.destination session.workingDirectory file) ∧
        ¬ tracedIn session (place request session.workingDirectory file) := by
    constructor
    · rintro ⟨sink, known, path, place, same⟩
      exact (buildable.untraced sink known path place file member).1 same.symm
    · rintro ⟨sink, known, path, place, same⟩
      exact (buildable.untraced sink known path place file member).2 same.symm
  obtain ⟨distinct, own⟩ := buildable.places
  have untouched : disk.Revises (fun _ => False) (fun _ => False) disk := .refl _ _ disk
  obtain ⟨results, entries, -⟩ := makeAll_eq leads untouched id
    (fun file member => ⟨(buildable.readable file member).imp (kept file), id, id⟩) distinct
    fun file member other member' same => congrArg (Disk.destination session.workingDirectory)
      (own file member other member' same)
  obtain ⟨files, tracks'⟩ := ends_run_of_tracks buildable.textual buildable.never
    buildable.uncached parent prepared apart tracks
  refine ⟨files.trans results, fun file member => ?_⟩
  exact (tracks'.disk.get?_eq (apart file member).2 id).trans (entries file member)

theorem Buildable.alone (buildable : Buildable request session) (member : file ∈ request.files) :
    Buildable { request with files := [file] } session where
  textual := buildable.textual
  uncached := buildable.uncached
  never := buildable.never
  readable other only := by
    rw [List.mem_singleton.mp only]
    exact buildable.readable file member
  distinct := rfl
  untraced sink known path place other only := by
    rw [List.mem_singleton.mp only]
    exact buildable.untraced sink known path place file member

/-- The files of a build are independent. The artifact of a file has a proper name directly in the
directory of the artifacts, whatever the file is called; only the root has its artifact beside it in
the root, if the path of the directory is empty. And if a request can be built file by file, the
artifacts stand in different places; an artifact that stands where a file is belongs to this file;
and what is reported about each file, and what stands in the place of its artifact afterwards, is
the same as if the file were built alone. -/
theorem run_independent (request : BuildRequest) (parent : Nat) :
    (∀ workingDirectory file, (request.directory = [] → ¬ Path.IsRoot file) →
      ∃ name, ArtifactKind.Proper name ∧ place request workingDirectory file =
        Disk.destination workingDirectory request.directory ++ [name]) ∧
    ∀ session, Buildable request session →
      (request.files.map (place request session.workingDirectory)).Nodup ∧
      (∀ (i j : Nat) (file other : Bytes), request.files[i]? = some file →
        request.files[j]? = some other → place request session.workingDirectory file =
          Disk.destination session.workingDirectory other → i = j) ∧
      ∀ (i : Nat) (file : Bytes), request.files[i]? = some file →
        let whole := (run (some request) parent).run session
        let alone := (run (some { request with files := [file] }) parent).run session
        whole.1.1.files[i]? = alone.1.1.files[0]? ∧
          whole.2.disk.get? (place request session.workingDirectory file) =
            alone.2.disk.get? (place request session.workingDirectory file) := by
  refine ⟨fun workingDirectory file stays => ?_, fun session buildable => ?_⟩
  · exact ⟨_, (request.kind.proper_artifactName file).1, request.kind.destination_outputPath stays⟩
  obtain ⟨distinct, own⟩ := buildable.places
  refine ⟨distinct, fun i j file other here there same => ?_, fun i file here => ?_⟩
  · have outputs := (BuildRequest.nodup_of_checkOutputs buildable.distinct).1
    have output := own file (List.mem_of_getElem? here) other (List.mem_of_getElem? there) same
    have inside : i < (request.files.map request.outputPath).length := by
      simpa using (List.getElem?_eq_some_iff.mp here).1
    refine (List.getElem?_inj inside outputs).mp ?_
    rw [List.getElem?_map, List.getElem?_map, here, there]
    exact congrArg some output
  · have member := List.mem_of_getElem? here
    have single := buildable.alone member
    have filled : request.files ≠ [] := List.ne_nil_of_mem member
    rcases prepare_cases request session with ⟨failure, refused⟩ | ⟨disk, prepared, leads, kept⟩
    · rw [run_of_prepare_error (refused request.files filled buildable.distinct),
        run_of_prepare_error (refused [file] (List.cons_ne_nil _ _) rfl)]
      exact ⟨rfl, rfl⟩
    · obtain ⟨files, entries⟩ := buildable.ends_run parent rfl leads kept
        (prepared request.files filled buildable.distinct)
      obtain ⟨files', entries'⟩ := single.ends_run parent rfl leads kept
        (prepared [file] (List.cons_ne_nil _ _) rfl)
      dsimp only
      rw [files, files', List.getElem?_map, here]
      exact ⟨rfl, (entries file member).trans (entries' file List.mem_cons_self).symm⟩

/-- The root has its artifact in the root, and so outside of the directory that the empty path stands
for. -/
theorem outputPath_root_outside :
    ArtifactKind.llvm.outputPath [] (utf8 "/") = utf8 "/.ll" ∧
      Disk.destination [utf8 "home"] (ArtifactKind.llvm.outputPath [] (utf8 "/")) = [utf8 ".ll"] ∧
      ¬ ∃ name, Disk.destination [utf8 "home"] (ArtifactKind.llvm.outputPath [] (utf8 "/")) =
        Disk.destination [utf8 "home"] [] ++ [name] := by
  have place : Disk.destination [utf8 "home"] (ArtifactKind.llvm.outputPath [] (utf8 "/")) =
      [utf8 ".ll"] := by decide +kernel
  have home : Disk.destination [utf8 "home"] [] = [utf8 "home"] := by decide +kernel
  refine ⟨by decide +kernel, place, ?_⟩
  rintro ⟨name, same⟩
  rw [place, home] at same
  exact absurd (congrArg List.length same) (by simp)

/-- A request for a file that cannot be parsed and one that can, in this order. -/
def siblingRequest : BuildRequest where
  files := [utf8 "a", utf8 "b"]
  directory := utf8 "out"
  kind := .llvm

/-- A request for the second file alone. -/
def loneRequest : BuildRequest where
  files := [utf8 "b"]
  directory := utf8 "out"
  kind := .llvm

/-- A session with the files. -/
def siblingSession : Session where
  disk := ⟨[([utf8 "a"], .file (utf8 "return")),
    ([utf8 "b"], .file (utf8 "define f() -> i8 \x7b\nbb0:\n%0: i8 = 7\nreturn %0\n\x7d"))]⟩

theorem buildable_siblingRequest : Buildable siblingRequest siblingSession := by
  have first : ∃ source, siblingSession.disk.content siblingSession.workingDirectory (utf8 "a") =
      .ok source := ⟨utf8 "return", by decide +kernel⟩
  have second : ∃ source, siblingSession.disk.content siblingSession.workingDirectory (utf8 "b") =
      .ok source :=
    ⟨utf8 "define f() -> i8 \x7b\nbb0:\n%0: i8 = 7\nreturn %0\n\x7d", by decide +kernel⟩
  have silent : siblingSession.journal.sinks = [] := rfl
  constructor
  case textual => rfl
  case uncached => rfl
  case never => rfl
  case readable =>
    intro file member
    rcases List.mem_cons.mp member with same | member
    · rw [same]
      exact first
    · rw [List.mem_singleton.mp member]
      exact second
  case distinct => decide +kernel
  case untraced =>
    rw [silent]
    nofun

/-- The second file is built as if it were alone, and its artifact is there. -/
theorem run_independent_siblingRequest :
    ((run (some siblingRequest) 0).run siblingSession).1.1.files[1]? =
        ((run (some loneRequest) 0).run siblingSession).1.1.files[0]? ∧
      ((run (some siblingRequest) 0).run siblingSession).1.1.files[1]? =
        some { file := utf8 "b", output := utf8 "out/b.ll" } ∧
      ((run (some siblingRequest) 0).run siblingSession).2.disk.get? [utf8 "out", utf8 "b.ll"] =
        ((run (some loneRequest) 0).run siblingSession).2.disk.get? [utf8 "out", utf8 "b.ll"] ∧
      (((run (some siblingRequest) 0).run siblingSession).2.disk.get?
        [utf8 "out", utf8 "b.ll"]).isSome := by
  have ran : ((run (some siblingRequest) 0).run siblingSession).1.1.files[1]? =
        some { file := utf8 "b", output := utf8 "out/b.ll" } ∧
      (((run (some siblingRequest) 0).run siblingSession).2.disk.get?
        [utf8 "out", utf8 "b.ll"]).isSome := by
    decide +kernel
  have there : place siblingRequest siblingSession.workingDirectory (utf8 "b") =
      [utf8 "out", utf8 "b.ll"] := by decide +kernel
  have here : siblingRequest.files[1]? = some (utf8 "b") := rfl
  have lone : { siblingRequest with files := [utf8 "b"] } = loneRequest := rfl
  obtain ⟨-, independent⟩ := run_independent siblingRequest 0
  have each := (independent siblingSession buildable_siblingRequest).2.2 1 (utf8 "b") here
  dsimp only at each lone
  rw [lone, there] at each
  exact ⟨each.1, ran.1, each.2, ran.2⟩

end Build
end Blockwork
