import Blockwork.Cache
import Blockwork.Source.Traced

/-!
# Loading sources

A source file is read into a context. With a cache, the snapshot that is kept for the same text
takes the place of reading it, and the snapshot of a text that was read is kept. Trouble with the
cache is traced and does no harm otherwise.
-/

namespace Blockwork
namespace Build

/-- What came of loading a source. -/
structure Loaded where
  /-- The context. -/
  context : Context
  /-- Whether it came from the cache. -/
  hit : Bool

/-- Restores the context of a source text from the cache, if it is there and can be restored. The
cache does not decide about optimization. -/
def restoreCached (cache : Cache) (key path : Bytes) (optimize : Bool) (parent : Nat) :
    Work (Option Context) := do
  match ← Cache.get (some cache) key with
  | .error error =>
    Work.traceError "cache.get" error.toFailure parent
    pure none
  | .ok none => pure none
  | .ok (some (_, snapshot)) =>
    match { snapshot with optimize }.restore with
    | .ok context =>
      Work.point .pass (utf8 "cache.hit") path parent
      pure (some context)
    | .error failure =>
      Work.traceError "cache.restore" failure parent
      pure none

/-- Keeps the snapshot of a context in the cache. -/
def keepCached (cache : Cache) (key path : Bytes) (context : Context) (parent : Nat) :
    Work Unit := do
  let session ← get
  let outcome ← match context.take with
    | none => pure (.error (.text (utf8 "types: invalid TypeID")))
    | some snapshot =>
      Cache.put (some cache) key
        { source := path, stored := session.now, snapshot := some snapshot }
  match outcome with
  | .ok () => pure ()
  | .error failure => Work.traceError "cache.put" (.within path failure) parent

/-- Loads a source file. -/
def load (path : Bytes) (optimize : Bool) (cache : Option Cache) (parent : Nat) :
    Work (Except Failure Loaded) := do
  match ← Work.readFile path with
  | .error failure => pure (.error failure)
  | .ok source =>
    match cache with
    | none =>
      let outcome ← Work.parse path source optimize parent
      pure (outcome.map fun context => ⟨context, false⟩)
    | some cache =>
      let key := Cache.key source
      match ← restoreCached cache key path optimize parent with
      | some context => pure (.ok ⟨context, true⟩)
      | none =>
        match ← Work.parse path source optimize parent with
        | .error failure => pure (.error failure)
        | .ok context =>
          keepCached cache key path context parent
          pure (.ok ⟨context, false⟩)

end Build
end Blockwork
