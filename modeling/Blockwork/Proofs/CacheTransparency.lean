import Blockwork.Proofs.Addressing
import Blockwork.Proofs.EntryBytes
import Blockwork.Proofs.Loading
import Blockwork.Proofs.SnapshotRoundTrip
import Mathlib.Data.Set.Function

/-!
# The cache does not show

Loading a source with a cache cannot be told from loading it without one, as long as nothing but
loads writes to the cache. A load may find what an earlier load left, from another file with the
same text and with another request for optimization; the context that is restored then has met its
types in another order than one that is read, but it has the same text, the same gaps and the same
translation.
-/

namespace Blockwork

namespace Context

variable {file source : Bytes} {optimize : Bool} {context : Context}

theorem wellFormed_of_parse (parsed : Context.parse file source optimize = .ok context) :
    context.WellFormed :=
  (WellFormed.new optimize).builds (builds_of_parse parsed)

theorem alive_of_parse (parsed : Context.parse file source optimize = .ok context) :
    context.phase ≠ .destroyed := by
  have building : context.phase = .building := (builds_of_parse parsed).phase_eq.trans rfl
  rw [building]
  decide

end Context

namespace CacheEntry

/-- Whether an entry holds what a source text describes. -/
def Describes (entry : CacheEntry) (source : Bytes) : Prop :=
  entry.source.length ≤ Disk.maxPath ∧ ∃ optimize context,
    Context.parse entry.source source optimize = .ok context ∧ entry.snapshot = context.take

end CacheEntry

/-- What the cache relies on for the given sources: that the digest tells them apart, that their
names are in normal form once they have been normalized, and that the bytes of an entry for one of
them are read back with its snapshot. -/
structure Cache.Reliable (sources : Set Bytes) : Prop where
  /-- Different sources have different keys. -/
  injective : Set.InjOn Cache.key sources
  /-- Normalizing the names of functions again changes nothing. -/
  normal : ∀ source ∈ sources, ∀ file optimize context,
    Context.parse file source optimize = .ok context → context.Normal
  /-- What is encoded can be decoded. -/
  decodes : ∀ source ∈ sources, ∀ entry : CacheEntry, entry.Describes source →
    (CacheEntry.decode? entry.encode).map CacheEntry.snapshot = some entry.snapshot

/-- Sources that the digest tells apart are reliable if what they describe can be written to
bytes. -/
theorem Cache.Reliable.of_portable {sources : Set Bytes} (injective : Set.InjOn Cache.key sources)
    (portable : ∀ source ∈ sources, ∀ context, Context.parse [] source false = .ok context →
      context.Normal ∧ context.Numbered ∧ context.Portable) : Cache.Reliable sources := by
  have every : ∀ source ∈ sources, ∀ file optimize context,
      Context.parse file source optimize = .ok context →
        context.Normal ∧ context.Numbered ∧ context.Portable := by
    intro source member file optimize context parsed
    have flagged := portable source member _ (Context.parse_flagged parsed [] false)
    exact flagged
  refine ⟨injective, fun source member file optimize context parsed =>
    (every source member file optimize context parsed).1, ?_⟩
  rintro source member ⟨file, stored, held⟩ ⟨short, optimize, context, parsed, taken⟩
  obtain ⟨-, numbered, portable⟩ := every source member file optimize context parsed
  have formed := Context.wellFormed_of_parse parsed
  have written : held = some (Snapshot.recordAll context.optimize context.outlines) :=
    taken.trans (formed.take_eq (Context.alive_of_parse parsed))
  subst written
  obtain ⟨stored', read⟩ := stored.exists_read_pack .unset
  have brief : ∀ snapshot, some (Snapshot.recordAll context.optimize context.outlines) =
      some snapshot → snapshot.Short := by
    rintro _ ⟨⟩
    exact formed.short numbered portable context.optimize
  rw [CacheEntry.decode?_encode (Nat.lt_of_le_of_lt short (by decide)) brief read]
  rfl

namespace Build

/-- The sessions that can be reached if the cache is empty at first and only loads of the given
sources write to it. Between loads everything else may change, and entries may get lost. -/
inductive History (cache : Cache) (sources : Set Bytes) : Session → Prop where
  /-- The cache is empty. -/
  | start {session : Session} (empty : ∀ key, session.kept? cache key = none) :
    History cache sources session
  /-- Something happens that writes nothing to the cache. -/
  | change {session session' : Session} (earlier : History cache sources session)
    (untouched : ∀ key content, session'.kept? cache key = some content →
      session.kept? cache key = some content) :
    History cache sources session'
  /-- A source is loaded. -/
  | load {session : Session} (earlier : History cache sources session) (path : Bytes)
    (optimize : Bool) (parent : Nat)
    (known : ∀ source, session.disk.content session.workingDirectory path = .ok source →
      source ∈ sources) :
    History cache sources ((Build.load path optimize (some cache) parent).run session).2

/-- Whether two loads cannot be told apart: both fail in the same way, or both give contexts with
the requested flag, the same text, equally many types, the same gaps and the same translation. -/
inductive Agree (optimize : Bool) : Except Failure Loaded → Except Failure Loaded → Prop where
  /-- Both fail. -/
  | failed (failure : Failure) : Agree optimize (.error failure) (.error failure)
  /-- Both succeed. -/
  | loaded {left right : Loaded}
    (flag : left.context.optimize = optimize ∧ right.context.optimize = optimize)
    (text : ∃ text, left.context.dump = .ok text ∧ right.context.dump = .ok text)
    (types : left.context.types.size = right.context.types.size)
    (verdict : left.context.validate = right.context.validate)
    (translation : ∀ cancelled,
      Llvm.emit left.context cancelled = Llvm.emit right.context cancelled) :
    Agree optimize (.ok left) (.ok right)

end Build

/-- Whatever a cache keeps is an entry for one of the sources with that key, perhaps with something
behind it. -/
def Session.Faithful (session : Session) (cache : Cache) (sources : Set Bytes) : Prop :=
  ∀ key content, session.kept? cache key = some content →
    ∃ source ∈ sources, key = Cache.key source ∧
      ∃ entry : CacheEntry, entry.Describes source ∧ entry.encode <+: content

namespace Build

variable {cache : Cache} {sources : Set Bytes} {session session' : Session}

/-- A load adds nothing to a cache but an entry for what it has read. -/
theorem faithful_load (faithful : session.Faithful cache sources) (path : Bytes) (optimize : Bool)
    (parent : Nat)
    (known : ∀ source, session.disk.content session.workingDirectory path = .ok source →
      source ∈ sources) :
    Session.Faithful ((load path optimize (some cache) parent).run session).2 cache sources := by
  intro key content kept
  obtain ⟨-, keeps⟩ := ends_load_some cache path optimize parent session
  obtain ⟨start, grown, held | new⟩ := keeps key content kept
  · obtain ⟨source, member, same, entry, describes, begins⟩ := faithful key start held
    exact ⟨source, member, same, entry, describes, begins.trans grown⟩
  · obtain ⟨source, context, stored, read, parsed, same, rfl⟩ := new
    have short := (Disk.get?_of_content read).2
    exact ⟨source, known source read, same, _, ⟨short, optimize, context, parsed, rfl⟩, grown⟩

/-- What a cache keeps is right at every time. -/
theorem History.faithful (history : History cache sources session) :
    session.Faithful cache sources := by
  induction history with
  | start empty =>
    intro key content kept
    rw [empty] at kept
    cases kept
  | change _ untouched ih =>
    intro key content kept
    exact ih key content (untouched key content kept)
  | load _ path optimize parent known ih => exact faithful_load ih path optimize parent known

theorem exists_of_find {disk : Disk} {workingDirectory : Location} {key : Bytes}
    {entry : CacheEntry} {snapshot : Snapshot}
    (found : Cache.find disk workingDirectory cache key = .ok (some (entry, snapshot))) :
    ∃ bytes, disk.content workingDirectory (cache.path key) = .ok bytes ∧
      CacheEntry.decode? bytes = some entry ∧ entry.snapshot = some snapshot := by
  unfold Cache.find at found
  split at found
  · split at found <;> cases found
  · rename_i bytes read
    split at found
    · cases found
    · rename_i decoded
      split at found
      · cases found
      · rename_i held
        split at found
        · cases found
          exact ⟨bytes, read, decoded, held⟩
        · cases found

/-- The snapshot that is found for a source was taken of a context that was read from it. -/
theorem exists_of_faithful (reliable : Cache.Reliable sources)
    (faithful : session.Faithful cache sources) {source : Bytes} (member : source ∈ sources)
    {entry : CacheEntry} {snapshot : Snapshot}
    (found : Cache.find session.disk session.workingDirectory cache (Cache.key source) =
      .ok (some (entry, snapshot))) :
    ∃ file optimize context, Context.parse file source optimize = .ok context ∧
      context.take = some snapshot := by
  obtain ⟨bytes, read, decoded, held⟩ := exists_of_find found
  obtain ⟨other, inside, same, original, describes, rest, rfl⟩ :=
    faithful _ bytes (Cache.kept?_of_content read)
  obtain rfl := reliable.injective member inside same
  obtain ⟨back, decodedBack, snapshotBack⟩ :=
    Option.map_eq_some_iff.mp (reliable.decodes source inside original describes)
  have again := CacheEntry.decode?_append decodedBack rest
  obtain rfl : back = entry := Option.some.inj (again.symm.trans decoded)
  obtain ⟨-, optimize, context, parsed, taken⟩ := describes
  exact ⟨original.source, optimize, context, parsed, by rw [← taken, ← snapshotBack, held]⟩

/-- A context restored from the cache cannot be told from one that is read, and it knows equally
many types. -/
theorem exists_of_restorable (reliable : Cache.Reliable sources)
    (faithful : session.Faithful cache sources) {source : Bytes} (member : source ∈ sources)
    {optimize : Bool} {restored : Context}
    (found : restorable? cache session (Cache.key source) optimize = some restored)
    (path : Bytes) :
    ∃ context, Context.parse path source optimize = .ok context ∧ context.Alike restored ∧
      context.types.size = restored.types.size := by
  unfold restorable? at found
  split at found
  · rename_i entry snapshot hit
    obtain ⟨file, flag, original, parsed, taken⟩ :=
      exists_of_faithful reliable faithful member hit
    have normal := reliable.normal source member file flag original parsed
    have addressable := Context.addressable_of_parse parsed
    have formed := Context.wellFormed_of_parse parsed
    have reread := Context.parse_flagged parsed path optimize
    -- The snapshot with the requested flag is the one that a reading with that flag would leave.
    have record := formed.take_eq (Context.alive_of_parse parsed)
    obtain rfl : Snapshot.recordAll original.optimize original.outlines = snapshot :=
      Option.some.inj (record.symm.trans taken)
    obtain ⟨again, restores, asked, sketches⟩ := formed.restore_recordAll normal.outline
      (fun outline inside => addressable.outline inside) optimize
    have restores' : (Snapshot.recordAll optimize original.outlines).restore.toOption =
        some restored := found
    rw [restores] at restores'
    obtain rfl : again = restored := Option.some.inj restores'
    have alike : (original.flagged optimize).Alike again := by
      refine ⟨Context.wellFormed_of_parse reread, sketches.formed, Context.alive_of_parse reread, ?_,
        asked.symm, sketches.outlines_eq.symm⟩
      rw [sketches.building]
      decide
    have types := (Context.sparing_of_parse reread).size_eq (Context.builds_of_parse reread)
      (Snapshot.sparing_of_restore restores) (Snapshot.builds_of_restore restores) alike.outlines
    exact ⟨_, reread, alike, types⟩
  · cases found

theorem Agree.of_alike {optimize : Bool} {left right : Loaded}
    (alike : left.context.Alike right.context) (flag : left.context.optimize = optimize)
    (types : left.context.types.size = right.context.types.size) :
    Agree optimize (.ok left) (.ok right) :=
  .loaded ⟨flag, alike.optimize.symm.trans flag⟩ alike.exists_dump types alike.validate_eq
    alike.emit_eq

theorem agree_plain (path : Bytes) (optimize : Bool) (session : Session) :
    Agree optimize (plain path optimize session) (plain path optimize session) := by
  unfold plain
  split
  · exact .failed _
  · cases parsed : Context.parse path _ optimize with
    | error error => exact .failed _
    | ok context =>
      have formed := Context.wellFormed_of_parse parsed
      have alive := Context.alive_of_parse parsed
      exact .of_alike ⟨formed, formed, alive, alive, rfl, rfl⟩
        (Context.builds_of_parse parsed).optimize_eq rfl

/-- At every time, loading a source with the cache agrees with loading it without one. -/
theorem load_transparent (reliable : Cache.Reliable sources)
    (history : History cache sources session) (path : Bytes) (optimize : Bool) (parent : Nat)
    (known : ∀ source, session.disk.content session.workingDirectory path = .ok source →
      source ∈ sources) :
    Agree optimize ((load path optimize none parent).run session).1
      ((load path optimize (some cache) parent).run session).1 := by
  have uncached := ends_load_none path optimize parent session
  obtain ⟨cached | ⟨source, restored, read, found, cached⟩, -⟩ :=
    ends_load_some cache path optimize parent session
  · rw [uncached, cached]
    exact agree_plain path optimize session
  · obtain ⟨context, parsed, alike, types⟩ :=
      exists_of_restorable reliable history.faithful (known source read) found path
    have direct : plain path optimize session = .ok ⟨context, false⟩ := by
      rw [plain, read]
      simp only [parsed]
      rfl
    rw [uncached, cached, direct]
    exact .of_alike alike (Context.builds_of_parse parsed).optimize_eq types

/-- A source text with a block that is not ended. -/
def sharedSource : Bytes := utf8 "define f(i9) -> i7 \x7b\nbb0:\n  %1: i5 = 3\n\x7d\n"

/-- A session with the text under two names. -/
def sharedSession : Session where
  disk := ⟨[([utf8 "a"], .file sharedSource), ([utf8 "b"], .file sharedSource)]⟩

/-- A cache that is not there yet. -/
def sharedCache : Cache := ⟨utf8 "cache"⟩

/-- After the text has been loaded under one name, loading it under the other finds the entry. -/
theorem load_transparent_sharedSource :
    ∃ session, History sharedCache {sharedSource} session ∧
      ((load (utf8 "b") false (some sharedCache) 0).run session).1.toOption.map Loaded.hit =
        some true ∧
      Agree false ((load (utf8 "b") false none 0).run session).1
        ((load (utf8 "b") false (some sharedCache) 0).run session).1 := by
  have summary : (Context.parse [] sharedSource false).toOption.map (fun context =>
      (decide context.Normal, decide context.Numbered, decide context.Portable)) =
        some (true, true, true) := by
    decide +kernel
  have reliable : Cache.Reliable {sharedSource} := by
    refine .of_portable (Set.injOn_singleton _ _) ?_
    rintro source rfl context parsed
    rw [parsed] at summary
    simpa [Except.toOption] using summary
  have empty : ∀ key, sharedSession.kept? sharedCache key = none := by
    intro key
    have shelf : sharedCache.shelf sharedSession.workingDirectory = [utf8 "cache", utf8 "ir"] := by
      decide
    rw [Option.eq_none_iff_forall_ne_some]
    intro content kept
    have held := Cache.kept?_eq_some_iff.mp kept
    rw [shelf] at held
    simp [Disk.get?, sharedSession, Disk.lookup_cons] at held
  have first : sharedSession.disk.content sharedSession.workingDirectory (utf8 "a") =
      .ok sharedSource := by
    decide +kernel
  have history := (History.start empty).load (utf8 "a") true 0 fun source read =>
    Set.mem_singleton_iff.mpr (Except.ok.inj (read.symm.trans first))
  refine ⟨_, history, by decide +kernel, ?_⟩
  have second : Disk.content ((load (utf8 "a") true (some sharedCache) 0).run sharedSession).2.disk
      ((load (utf8 "a") true (some sharedCache) 0).run sharedSession).2.workingDirectory
        (utf8 "b") = .ok sharedSource := by
    decide +kernel
  exact load_transparent reliable history (utf8 "b") false 0 fun source read =>
    Set.mem_singleton_iff.mpr (Except.ok.inj (read.symm.trans second))

end Build
end Blockwork
