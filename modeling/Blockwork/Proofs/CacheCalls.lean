import Blockwork.Proofs.Shelves
import Mathlib.Data.List.Induction
import Mathlib.Logic.Function.Basic

/-!
# Calls of a cache

A cache that nothing else writes to is a map in which the last writer wins. Calls to store, to look
for and to remove entries follow one another, each at its instant; what is found under a digest is
always the entry that was stored there last since all entries were removed, if it has a snapshot of
the current layout. Storing an entry may fail at any step, and then it was as if it had never been
tried.
-/

namespace Blockwork
namespace Cache

/-- A call of a cache. -/
inductive Call where
  /-- Storing an entry, on a system that may give out. -/
  | put (key : Digest) (entry : CacheEntry) (trouble : Option Trouble)
  /-- Looking for an entry. -/
  | get (key : Digest)
  /-- Removing all entries. -/
  | dropAll
deriving DecidableEq

/-- What comes of a call. -/
inductive Answer where
  /-- What comes of storing an entry. -/
  | stored (outcome : Except Failure Unit)
  /-- What comes of looking for an entry. -/
  | found (outcome : Except CacheError (Option (CacheEntry × Snapshot)))
  /-- What comes of removing all entries. -/
  | dropped (outcome : Except Failure Unit)
deriving DecidableEq

/-- Makes a call. -/
def Call.perform (cache : Cache) : Call → Work Answer
  | put key entry trouble => do pure (.stored (← Cache.put (some cache) key entry trouble))
  | get key => do pure (.found (← Cache.get (some cache) key))
  | dropAll => do pure (.dropped (← Cache.dropAll (some cache)))

/-- A call that has been made. -/
structure Turn where
  /-- When it was made. -/
  instant : Instant
  /-- The call. -/
  call : Call
  /-- What came of it. -/
  answer : Answer

/-- What comes of a call at an instant, and the session after it. -/
def Call.at (call : Call) (cache : Cache) (instant : Instant) (session : Session) :
    Answer × Session :=
  (call.perform cache).run { session with now := instant }

/-- Makes one more call. -/
def takeTurn (cache : Cache) (state : List Turn × Session) (next : Instant × Call) :
    List Turn × Session :=
  let (answer, session) := next.2.at cache next.1 state.2
  (state.1 ++ [⟨next.1, next.2, answer⟩], session)

/-- Makes calls one after the other. -/
def takeTurns (cache : Cache) (session : Session) (calls : List (Instant × Call)) :
    List Turn × Session :=
  calls.foldl (takeTurn cache) ([], session)

/-- The entry that a call has stored under a digest, if it has stored one. -/
def Turn.stored? (turn : Turn) (key : Digest) : Option CacheEntry :=
  match turn.call, turn.answer with
  | .put other entry _, .stored (.ok ()) =>
    if other = key then some (entry.stamped turn.instant) else none
  | _, _ => none

/-- The entry that was stored last under a digest since all entries were removed. -/
def lastStored? (turns : List Turn) (key : Digest) : Option CacheEntry :=
  (turns.reverse.takeWhile fun turn => turn.call ≠ .dropAll).findSome? fun turn =>
    turn.stored? key

theorem takeTurns_concat (cache : Cache) (session : Session) (calls : List (Instant × Call))
    (next : Instant × Call) : takeTurns cache session (calls ++ [next]) =
      takeTurn cache (takeTurns cache session calls) next :=
  List.foldl_concat ..

/-- Every call is made, in its turn. -/
theorem map_takeTurns (cache : Cache) (session : Session) (calls : List (Instant × Call)) :
    (takeTurns cache session calls).1.map (fun turn => (turn.instant, turn.call)) = calls := by
  induction calls using List.reverseRecOn with
  | nil => rfl
  | append_singleton calls next ih =>
    rw [takeTurns_concat, takeTurn, List.map_append, ih]
    rfl

theorem lastStored?_concat_dropAll (turns : List Turn) (key : Digest) (instant : Instant)
    (answer : Answer) : lastStored? (turns ++ [⟨instant, .dropAll, answer⟩]) key = none := by
  simp [lastStored?]

theorem lastStored?_concat {turns : List Turn} {turn : Turn} (kept : turn.call ≠ .dropAll)
    (key : Digest) :
    lastStored? (turns ++ [turn]) key = (turn.stored? key).or (lastStored? turns key) := by
  rw [lastStored?, List.reverse_append, List.reverse_singleton, List.singleton_append,
    List.takeWhile_cons_of_pos (by simpa using kept), List.findSome?_cons]
  cases turn.stored? key <;> rfl

/-- What was stored last is one of the entries that were to be stored, as it was then. -/
theorem exists_of_lastStored? {turns : List Turn} {key : Digest} {entry : CacheEntry}
    (last : lastStored? turns key = some entry) : ∃ turn ∈ turns, ∃ given trouble,
      turn.call = .put key given trouble ∧ entry = given.stamped turn.instant := by
  obtain ⟨turn, member, stored⟩ := List.exists_of_findSome?_eq_some last
  refine ⟨turn, List.mem_reverse.mp ((List.takeWhile_sublist _).mem member), ?_⟩
  unfold Turn.stored? at stored
  split at stored
  · rename_i other given trouble call _
    obtain ⟨rfl, same⟩ := Option.ite_none_right_eq_some.mp stored
    exact ⟨given, trouble, call, (Option.some.inj same).symm⟩
  · cases stored

/-- Storing an entry changes the disk as it is described there. -/
theorem at_put (cache : Cache) (session : Session) (key : Digest) (entry : CacheEntry)
    (trouble : Option Trouble) (instant : Instant) :
    (Call.put key entry trouble).at cache instant session =
      (.stored (store trouble session.disk session.workingDirectory cache key
          (entry.stamped instant)).2,
        { session with
          now := instant
          disk := (store trouble session.disk session.workingDirectory cache key
            (entry.stamped instant)).1 }) :=
  rfl

variable {cache : Cache} {session : Session} {held : Digest → Option CacheEntry}

/-- Whether a call does what it is relied on to do: removing all entries succeeds. -/
def Turn.Granted (turn : Turn) : Prop := turn.call = .dropAll → turn.answer = .dropped (.ok ())

/-- One more call leaves on the shelf what was stored last, if the calls before did. -/
theorem shelves_takeTurn (sited : Sited cache session.workingDirectory) {turns : List Turn}
    (shelves : Shelves cache session.workingDirectory (lastStored? turns) session.disk)
    (next : Instant × Call)
    (granted : ∀ turn ∈ (takeTurn cache (turns, session) next).1, turn.Granted) :
    Shelves cache session.workingDirectory
      (lastStored? (takeTurn cache (turns, session) next).1)
      (takeTurn cache (turns, session) next).2.disk := by
  obtain ⟨instant, call⟩ := next
  cases call with
  | put key entry trouble =>
    have stores := stores_store trouble session.disk session.workingDirectory cache key
      (entry.stamped instant)
    have shelves' := shelves.store sited stores
    generalize outcome : (store trouble session.disk session.workingDirectory cache key
      (entry.stamped instant)).2 = result at shelves'
    have last : lastStored? (turns ++ [⟨instant, .put key entry trouble, .stored result⟩]) =
        if result = .ok () then Function.update (lastStored? turns) key (some (entry.stamped instant))
        else lastStored? turns := by
      funext other
      rw [lastStored?_concat (by simp)]
      cases result with
      | error failure => rfl
      | ok _ =>
        rw [if_pos rfl]
        by_cases same : other = key
        · subst same
          simp [Turn.stored?]
        · simp [Turn.stored?, Ne.symm same, same]
    rw [← last] at shelves'
    rw [← outcome] at shelves'
    exact shelves'
  | get key =>
    have last (answer : Answer) :
        lastStored? (turns ++ [⟨instant, .get key, answer⟩]) = lastStored? turns := by
      funext other
      rw [lastStored?_concat (by simp)]
      rfl
    rw [← last] at shelves
    exact shelves
  | dropAll =>
    have succeeded : (clear session.disk session.workingDirectory instant cache).2 = .ok () := by
      have granted := granted _ (List.mem_append_right _ List.mem_cons_self) rfl
      exact Answer.dropped.inj granted
    have last (answer : Answer) :
        lastStored? (turns ++ [⟨instant, .dropAll, answer⟩]) = fun _ => none :=
      funext fun key => lastStored?_concat_dropAll turns key instant answer
    have shelves' := shelves.drop sited (Prod.ext rfl succeeded)
    rw [← last] at shelves'
    exact shelves'

theorem workingDirectory_takeTurn (state : List Turn × Session) (next : Instant × Call) :
    (takeTurn cache state next).2.workingDirectory = state.2.workingDirectory := by
  obtain ⟨instant, call⟩ := next
  cases call <;> rfl

/-- After any calls, the shelf holds what was stored last. -/
theorem shelves_takeTurns (sited : Sited cache session.workingDirectory)
    (shelves : Shelves cache session.workingDirectory (fun _ => none) session.disk)
    (calls : List (Instant × Call))
    (granted : ∀ turn ∈ (takeTurns cache session calls).1, turn.Granted) :
    (takeTurns cache session calls).2.workingDirectory = session.workingDirectory ∧
      Shelves cache session.workingDirectory (lastStored? (takeTurns cache session calls).1)
        (takeTurns cache session calls).2.disk := by
  induction calls using List.reverseRecOn with
  | nil => exact ⟨rfl, shelves⟩
  | append_singleton calls next ih =>
    rw [takeTurns_concat] at granted ⊢
    obtain ⟨same, shelves'⟩ := ih fun turn member =>
      granted turn (List.mem_append_left _ member)
    rw [← same] at sited shelves'
    have after := shelves_takeTurn sited shelves' next granted
    rw [same] at after
    exact ⟨(workingDirectory_takeTurn _ next).trans same, after⟩

/-- What is found under a digest after any calls is what was stored there last. -/
theorem at_get (sited : Sited cache session.workingDirectory)
    (shelves : Shelves cache session.workingDirectory held session.disk) {key : Digest}
    (portable : ∀ entry, held key = some entry → entry.Portable) (instant : Instant) :
    ((Call.get key).at cache instant session).1 =
      .found (.ok ((held key).bind CacheEntry.found?)) :=
  congrArg Answer.found (shelves.find_eq sited portable)

/-- Storing an entry changes what is found under its own digest only, and nothing if it fails. -/
theorem at_get_of_put (sited : Sited cache session.workingDirectory)
    (shelves : Shelves cache session.workingDirectory held session.disk) {key other : Digest}
    {entry : CacheEntry} {trouble : Option Trouble} {instant : Instant}
    (portable : ∀ entry, held other = some entry → entry.Portable)
    (spared : ((Call.put key entry trouble).at cache instant session).1 ≠ .stored (.ok ()) ∨
      other ≠ key) (instant' : Instant) :
    ((Call.get other).at cache instant'
        ((Call.put key entry trouble).at cache instant session).2).1 =
      ((Call.get other).at cache instant' session).1 := by
  rw [at_put] at spared ⊢
  have shelves' := shelves.store sited
    (stores_store trouble session.disk session.workingDirectory cache key (entry.stamped instant))
  have same : (if (store trouble session.disk session.workingDirectory cache key
        (entry.stamped instant)).2 = .ok () then
      Function.update held key (some (entry.stamped instant)) else held) other = held other := by
    rcases spared with failed | differ
    · rw [if_neg fun succeeded => failed (congrArg Answer.stored succeeded)]
    · split
      · exact Function.update_of_ne differ _ _
      · rfl
  rw [at_get sited shelves portable instant']
  rw [← same] at portable
  have after := shelves'.find_eq sited portable
  rw [same] at after
  exact congrArg Answer.found after

/-- A cache that has been opened has its directory. -/
theorem found_of_openAt {directory : Bytes} {earlier : Session}
    (opened : (openAt directory).run earlier = (.ok cache, session)) :
    cache.directory = directory ∧ ∃ location,
      session.disk.find session.workingDirectory directory = .ok (location, .directory) := by
  cases made : earlier.disk.makeDirectories earlier.workingDirectory directory with
  | error error =>
    have failed : (openAt directory).run earlier = (.error (.file error), earlier) := by
      simp [openAt, Work.makeDirectories, Work.changeDisk, made]
      rfl
    rw [failed] at opened
    cases opened
  | ok disk =>
    have succeeded : (openAt directory).run earlier = (.ok ⟨directory⟩, { earlier with disk }) := by
      simp [openAt, Work.makeDirectories, Work.changeDisk, made]
      rfl
    rw [succeeded] at opened
    cases opened
    exact ⟨rfl, (Disk.extends_of_makeDirectories made).2⟩

/-- A cache that is opened on an empty directory, and is only changed by the calls that follow, is a
map in which the last writer wins: what is found under a digest is the entry that was stored there
last since all entries were removed, if that has a snapshot of the current layout. Storing under one
digest changes nothing under another, and nothing at all if it fails. The directory of the entries
holds one file for each digest with an entry, and nothing else. -/
theorem takeTurns_lastStored {directory : Bytes} {earlier session : Session} {cache : Cache}
    (opened : (openAt directory).run earlier = (.ok cache, session))
    (empty : ∀ rest ≠ [],
      session.disk.get? (Disk.destination session.workingDirectory directory ++ rest) = none)
    (room : ∀ key : Digest, (cache.path key).length ≤ Disk.maxPath)
    {calls : List (Instant × Call)}
    (portable : ∀ instant key entry trouble, (instant, .put key entry trouble) ∈ calls →
      (entry.stamped instant).Portable)
    {turns : List Turn} {final : Session}
    (taken : takeTurns cache session calls = (turns, final))
    (granted : ∀ turn ∈ turns, turn.call = .dropAll → turn.answer = .dropped (.ok ())) :
    (∀ key instant, ((Call.get key).at cache instant final).1 =
      .found (.ok ((lastStored? turns key).bind CacheEntry.found?))) ∧
    (∀ key other entry trouble instant instant',
      ((Call.put key entry trouble).at cache instant final).1 ≠ .stored (.ok ()) ∨ other ≠ key →
        ((Call.get other).at cache instant'
          ((Call.put key entry trouble).at cache instant final).2).1 =
        ((Call.get other).at cache instant' final).1) ∧
    (∀ key : Digest, final.disk.get?
        (Disk.destination session.workingDirectory cache.entries ++ [entryName key]) =
      (lastStored? turns key).map fun entry => .file entry.encode) ∧
    ∀ rest ≠ [], final.disk.get?
        (Disk.destination session.workingDirectory cache.entries ++ rest) ≠ none →
      ∃ key : Digest, rest = [entryName key] ∧ (lastStored? turns key).isSome := by
  obtain ⟨rfl, location, found⟩ := found_of_openAt opened
  obtain rfl := destination_of_find found
  have sited := sited_of_empty found empty room
  obtain ⟨same, shelves⟩ := shelves_takeTurns sited (shelves_of_empty found empty) calls
    (by rw [taken]; exact granted)
  rw [taken] at same shelves
  dsimp only at same shelves
  have made := map_takeTurns cache session calls
  rw [taken] at made
  dsimp only at made
  have stored : ∀ key entry, lastStored? turns key = some entry → entry.Portable := by
    intro key entry last
    obtain ⟨turn, member, given, trouble, call, rfl⟩ := exists_of_lastStored? last
    have listed := List.mem_map_of_mem (f := fun turn : Turn => (turn.instant, turn.call)) member
    rw [made, call] at listed
    exact portable _ _ _ _ listed
  rw [← same] at sited shelves ⊢
  refine ⟨fun key => at_get sited shelves (stored key), ?_, ?_, ?_⟩
  · intro key other entry trouble instant instant' spared
    exact at_get_of_put sited shelves (stored other) spared instant'
  · rw [destination_entries]
    exact shelves.kept
  · intro rest below present
    rw [destination_entries] at present
    by_cases named : ∃ key : Digest, rest = [entryName key]
    · obtain ⟨key, rfl⟩ := named
      rw [shelves.kept key] at present
      exact ⟨key, rfl, Option.isSome_iff_ne_none.mpr fun none => present (by rw [none]; rfl)⟩
    · exact absurd (shelves.clear rest below (not_exists.mp named)) present

/-- A snapshot of nothing. -/
def emptySnapshot : Snapshot where
  schema := Snapshot.currentSchema
  optimize := false
  functions := []

/-- Calls that store an entry twice, remove all entries, store it once more, and then fail to store
another in its place. -/
def repeatedCalls : List (Instant × Call) :=
  let entry (source : String) : CacheEntry :=
    { source := utf8 source, snapshot := some emptySnapshot }
  [({ seconds := 1 }, .put (.of []) (entry "first") none),
    ({ seconds := 2 }, .put (.of []) (entry "second") none),
    ({ seconds := 3 }, .dropAll),
    ({ seconds := 4 }, .put (.of []) (entry "third") none),
    ({ seconds := 5 }, .put (.of []) (entry "fourth") (some ⟨.encoding [0], .ofKind .canceled⟩))]

/-- A session with nothing on its disk but an empty directory. -/
def emptySession : Session where
  disk := ⟨[([utf8 "c"], .directory)]⟩

/-- A cache that is opened on an empty directory finds the third entry after these calls, with the
instant at which it was stored, and that entry is alone on the shelf. -/
theorem takeTurns_repeatedCalls :
    (openAt (utf8 "c")).run emptySession = (.ok ⟨utf8 "c"⟩, emptySession) ∧
      ((Call.get (.of [])).at ⟨utf8 "c"⟩ .unset
          (takeTurns ⟨utf8 "c"⟩ emptySession repeatedCalls).2).1 =
        .found (.ok (some
          (⟨utf8 "third", { seconds := 4 }, some emptySnapshot⟩, emptySnapshot))) ∧
      ∀ rest ≠ [], (takeTurns ⟨utf8 "c"⟩ emptySession repeatedCalls).2.disk.get?
          ([utf8 "c", utf8 "ir"] ++ rest) ≠ none → ∃ key : Digest, rest = [entryName key] := by
  have opened : (openAt (utf8 "c")).run emptySession = (.ok ⟨utf8 "c"⟩, emptySession) := rfl
  have empty : ∀ rest ≠ [], emptySession.disk.get?
      (Disk.destination emptySession.workingDirectory (utf8 "c") ++ rest) = none := by
    intro rest below
    have place : Disk.destination emptySession.workingDirectory (utf8 "c") = [utf8 "c"] := by decide
    rw [place]
    simp [Disk.get?, emptySession, Disk.lookup_cons, below]
  have room : ∀ key : Digest, (path ⟨utf8 "c"⟩ key).length ≤ Disk.maxPath := by
    intro key
    have trail : trail ⟨utf8 "c"⟩ = [utf8 "c", utf8 "ir"] := by decide
    have text : path ⟨utf8 "c"⟩ key = utf8 "c/ir/" ++ entryName key := by
      rw [path_eq_render, trail]
      rfl
    rw [text, List.length_append, length_entryName]
    decide
  have portable : ∀ instant key entry trouble,
      (instant, .put key entry trouble) ∈ repeatedCalls → (entry.stamped instant).Portable := by
    have short : ∀ snapshot, some emptySnapshot = some snapshot → snapshot.Short := by
      rintro _ ⟨⟩
      constructor <;> decide
    intro instant key entry trouble member
    simp only [repeatedCalls, List.mem_cons, Prod.mk.injEq, List.not_mem_nil, or_false,
      Call.put.injEq, reduceCtorEq, and_false, false_or] at member
    rcases member with ⟨rfl, -, rfl, -⟩ | ⟨rfl, -, rfl, -⟩ | ⟨rfl, -, rfl, -⟩ | ⟨rfl, -, rfl, -⟩
    all_goals exact ⟨by decide, short, by decide⟩
  have taken : takeTurns ⟨utf8 "c"⟩ emptySession repeatedCalls =
      ((takeTurns ⟨utf8 "c"⟩ emptySession repeatedCalls).1,
        (takeTurns ⟨utf8 "c"⟩ emptySession repeatedCalls).2) := Prod.mk.eta.symm
  have granted : ∀ turn ∈ (takeTurns ⟨utf8 "c"⟩ emptySession repeatedCalls).1,
      turn.call = .dropAll → turn.answer = .dropped (.ok ()) := by
    decide +kernel
  obtain ⟨found, -, -, alone⟩ := takeTurns_lastStored opened empty room portable taken granted
  refine ⟨opened, ?_, fun rest below present => ?_⟩
  · rw [found]
    decide +kernel
  · obtain ⟨key, same, -⟩ := alone rest below present
    exact ⟨key, same⟩

end Cache
end Blockwork
