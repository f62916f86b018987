import Blockwork.Build.Load
import Blockwork.Proofs.CacheFiles
import Blockwork.Proofs.Tracing

/-!
# Loading sources

What comes of loading a source, and what it leaves in the cache, as functions of the session in
which it is loaded. However much is traced, a load leaves at most one new entry behind, and that
holds what the source describes.
-/

namespace Blockwork

/-- What a cache keeps under a key. -/
def Session.kept? (session : Session) (cache : Cache) (key : Bytes) : Option Bytes :=
  cache.kept? session.disk session.workingDirectory key

/-- What a cache keeps after a step begins with what it kept before, or with bytes that are new
there. -/
def Session.Keeps (session session' : Session) (cache : Cache) (new : Bytes → Bytes → Prop) :
    Prop :=
  ∀ key content, session'.kept? cache key = some content →
    ∃ start, start <+: content ∧ (session.kept? cache key = some start ∨ new key start)

namespace Session

variable {first second third : Session} {cache : Cache} {new : Bytes → Bytes → Prop}

theorem Traced.keeps (traced : first.Traced second) (new : Bytes → Bytes → Prop) :
    first.Keeps second cache new := by
  intro key content kept
  rw [kept?, traced.workingDirectory] at kept
  obtain ⟨old, held, grown⟩ := Cache.kept?_of_appended traced.disk kept
  exact ⟨old, grown, .inl held⟩

theorem Keeps.after_traced (traced : first.Traced second) (keeps : second.Keeps third cache new) :
    first.Keeps third cache new := by
  intro key content kept
  obtain ⟨start, grown, held | fresh⟩ := keeps key content kept
  · obtain ⟨old, grown', either⟩ := traced.keeps new key start held
    exact ⟨old, grown'.trans grown, either⟩
  · exact ⟨start, grown, .inr fresh⟩

theorem Keeps.then_traced (keeps : first.Keeps second cache new) (traced : second.Traced third) :
    first.Keeps third cache new := by
  intro key content kept
  obtain ⟨middle, grown, held | none⟩ := traced.keeps (fun _ _ => False) key content kept
  · obtain ⟨start, grown', either⟩ := keeps key middle held
    exact ⟨start, grown'.trans grown, either⟩
  · cases none

end Session

/-- Only the instant of an entry changes when it is stored. -/
theorem CacheEntry.exists_stamped_eq (entry : CacheEntry) (now : Instant) :
    ∃ stored, entry.stamped now = { entry with stored } := by
  unfold stamped
  split
  · exact ⟨_, rfl⟩
  · exact ⟨entry.stored, rfl⟩

namespace Build

/-- The context of a source text as far as the cache has it. -/
def restorable? (cache : Cache) (session : Session) (key : Bytes) (optimize : Bool) :
    Option Context :=
  match Cache.find session.disk session.workingDirectory cache key with
  | .ok (some (_, snapshot)) => { snapshot with optimize }.restore.toOption
  | _ => none

theorem ensures_restoreCached (cache : Cache) (key path : Bytes) (optimize : Bool) (parent : Nat)
    (session : Session) :
    Work.Ensures (restoreCached cache key path optimize parent) session fun outcome =>
      outcome = restorable? cache session key optimize := by
  have first : Work.Ensures (Cache.get (some cache) key) session fun found =>
      found = Cache.find session.disk session.workingDirectory cache key :=
    ⟨rfl, .refl session⟩
  refine first.bind fun found session' same => ?_
  rw [restorable?, ← same]
  rcases found with error | _ | ⟨_, snapshot⟩
  · exact (Work.Ensures.traceError _ _ _ _).bind fun _ _ _ => .pure rfl
  · exact .pure rfl
  · dsimp only
    cases { snapshot with optimize }.restore with
    | error failure => exact (Work.Ensures.traceError _ _ _ _).bind fun _ _ _ => .pure rfl
    | ok context => exact (Work.Ensures.point _ _ _ _ _).bind fun _ _ _ => .pure rfl

theorem ends_put (cache : Cache) (key : Bytes) (entry : CacheEntry) (session : Session) :
    Work.Ends (Cache.put (some cache) key entry) session fun _ session' =>
      session.Keeps session' cache fun other bytes => other = key ∧ ∃ stored,
        bytes = CacheEntry.encode { entry with stored } := by
  intro other content kept
  have stores := Cache.stores_store none session.disk session.workingDirectory cache key
    (entry.stamped session.now)
  rcases Cache.kept?_of_stores stores kept with ⟨old, held, grown⟩ | ⟨same, rfl⟩
  · exact ⟨old, grown, .inl held⟩
  · obtain ⟨stored, stamped⟩ := entry.exists_stamped_eq session.now
    rw [stamped]
    exact ⟨_, List.prefix_rfl, .inr ⟨same, stored, rfl⟩⟩

/-- A failure to keep something is only traced. -/
theorem ends_report {cache : Cache} {session session' : Session} {new : Bytes → Bytes → Prop}
    (keeps : session.Keeps session' cache new) (outcome : Except Failure Unit) (path : Bytes)
    (parent : Nat) :
    Work.Ends (match outcome with
      | .ok () => pure ()
      | .error failure => Work.traceError "cache.put" (.within path failure) parent) session'
        fun _ last => session.Keeps last cache new := by
  cases outcome with
  | ok _ => exact keeps
  | error failure => exact keeps.then_traced (Work.Ensures.traceError _ _ _ session').2

/-- The snapshot of a context is kept as it is, under its key and with its source, or not at all. -/
theorem ends_keepCached (cache : Cache) (key path : Bytes) (context : Context) (parent : Nat)
    (session : Session) :
    Work.Ends (keepCached cache key path context parent) session fun _ session' =>
      session.Keeps session' cache fun other bytes => other = key ∧ ∃ stored,
        bytes = CacheEntry.encode ⟨path, stored, context.take⟩ := by
  have start : Work.Ends get session fun held session' => held = session ∧ session' = session :=
    ⟨rfl, rfl⟩
  refine start.bind fun held session' same => ?_
  obtain ⟨rfl, rfl⟩ := same
  cases context.take with
  | none =>
    dsimp only
    exact ends_report ((Session.Traced.refl _).keeps _) (.error _) path parent
  | some snapshot =>
    dsimp only
    exact (ends_put cache key _ _).bind fun outcome session' keeps =>
      ends_report keeps outcome path parent

/-- What came of loading without a cache. -/
def plain (path : Bytes) (optimize : Bool) (session : Session) : Except Failure Loaded :=
  match session.disk.content session.workingDirectory path with
  | .error error => .error (.file error)
  | .ok source =>
    ((Context.parse path source optimize).mapError ParseError.toFailure).map fun context =>
      ⟨context, false⟩

theorem ends_readFile (path : Bytes) (session : Session) :
    Work.Ends (Work.readFile path) session fun outcome session' =>
      outcome = (session.disk.content session.workingDirectory path).mapError .file ∧
        session' = session :=
  ⟨rfl, rfl⟩

theorem ends_load_none (path : Bytes) (optimize : Bool) (parent : Nat) (session : Session) :
    Work.Ends (load path optimize none parent) session fun outcome _ =>
      outcome = plain path optimize session := by
  unfold load
  refine (ends_readFile path session).bind fun outcome session' held => ?_
  obtain ⟨rfl, rfl⟩ := held
  rw [plain]
  cases session'.disk.content session'.workingDirectory path with
  | error error => exact rfl
  | ok source =>
    refine Work.Ends.bind (Work.Ensures.parse path source optimize parent session') ?_
    rintro outcome last ⟨rfl, -⟩
    exact rfl

/-- Loading with a cache gives the context that can be restored or else what comes of loading
without one, and what is new in the cache afterwards is an entry for what was read. -/
theorem ends_load_some (cache : Cache) (path : Bytes) (optimize : Bool) (parent : Nat)
    (session : Session) :
    Work.Ends (load path optimize (some cache) parent) session fun outcome session' =>
      (outcome = plain path optimize session ∨
        ∃ source context, session.disk.content session.workingDirectory path = .ok source ∧
          restorable? cache session (Cache.key source) optimize = some context ∧
          outcome = .ok ⟨context, true⟩) ∧
      session.Keeps session' cache fun key bytes => ∃ source context stored,
        session.disk.content session.workingDirectory path = .ok source ∧
          Context.parse path source optimize = .ok context ∧ key = Cache.key source ∧
          bytes = CacheEntry.encode ⟨path, stored, context.take⟩ := by
  unfold load
  refine (ends_readFile path session).bind fun outcome session' held => ?_
  obtain ⟨rfl, rfl⟩ := held
  rw [plain]
  cases session'.disk.content session'.workingDirectory path with
  | error error => exact ⟨.inl rfl, (Session.Traced.refl session').keeps _⟩
  | ok source =>
    refine Work.Ends.bind (ensures_restoreCached cache (Cache.key source) path optimize parent
      session') ?_
    rintro restored second ⟨found, traced⟩
    cases restored with
    | some context =>
      exact ⟨.inr ⟨source, context, rfl, found.symm, rfl⟩, traced.keeps _⟩
    | none =>
      refine Work.Ends.bind (Work.Ensures.parse path source optimize parent second) ?_
      rintro outcome third ⟨rfl, traced'⟩
      dsimp only
      cases parsed : Context.parse path source optimize with
      | error error => exact ⟨.inl rfl, (traced.trans traced').keeps _⟩
      | ok context =>
        refine Work.Ends.bind (ends_keepCached cache (Cache.key source) path context parent third) ?_
        rintro ⟨⟩ last keeps
        refine ⟨.inl rfl, Session.Keeps.after_traced (traced.trans traced') ?_⟩
        intro key content kept
        obtain ⟨start, grown, held | ⟨same, stored, new⟩⟩ := keeps key content kept
        · exact ⟨start, grown, .inl held⟩
        · exact ⟨start, grown, .inr ⟨source, context, stored, rfl, parsed, same, new⟩⟩

end Build
end Blockwork
