import Blockwork.Clock.Instant
import Blockwork.Snapshot.Codec

/-!
# Cache entries as bytes

An entry keeps the snapshot of a source text, where the text came from and when it was stored.
Instants are written in the shortest of three forms that holds them.
-/

namespace Blockwork

namespace Instant

/-- The type of extension that is an instant. -/
def extensionType : UInt8 := 0xFF

/-- An instant as an extension: whole seconds in four bytes, or seconds and nanoseconds in eight or
twelve. -/
def pack (instant : Instant) : Packed :=
  let seconds := instant.seconds % 0x10000000000000000
  if 0 ≤ instant.seconds ∧ instant.seconds < 0x400000000 then
    if instant.nanoseconds = 0 ∧ instant.seconds < 0x100000000 then
      .extension extensionType (Bytes.bigEndian 4 seconds.toNat)
    else
      .extension extensionType
        (Bytes.bigEndian 8 (instant.nanoseconds * 0x400000000 + seconds.toNat))
  else
    .extension extensionType
      (Bytes.bigEndian 4 instant.nanoseconds ++ Bytes.bigEndian 8 seconds.toNat)

/-- Reads an instant. -/
def read : Packed.Reader Instant
  | .extension type bytes, _ =>
    if type ≠ extensionType then none
    else if bytes.length = 4 then some (.ofUnix (Packed.number bytes) 0 0)
    else if bytes.length = 8 then
      some (.ofUnix (Packed.number bytes % 0x400000000) (Packed.number bytes / 0x400000000) 0)
    else if bytes.length = 12 then
      some (.ofUnix (Packed.integer (bytes.drop 4)) (Packed.number (bytes.take 4)) 0)
    else none
  | _, _ => none

end Instant

/-- What is kept of a source text. -/
structure CacheEntry where
  /-- Where the text came from. -/
  source : Bytes := []
  /-- When it was stored. -/
  stored : Instant := .unset
  /-- Its snapshot. -/
  snapshot : Option Snapshot := none
deriving DecidableEq, Repr

namespace CacheEntry

/-- An entry as it is stored at an instant, which it gets if it has none. -/
def stamped (entry : CacheEntry) (now : Instant) : CacheEntry :=
  if entry.stored.isUnset then { entry with stored := { now with offset := 0 } } else entry

/-- An entry as a map. -/
def pack (entry : CacheEntry) : Packed :=
  .map (Packed.entry "src" (.text entry.source) ++ Packed.entry "at" entry.stored.pack ++
    Packed.entry "snap" ((entry.snapshot.map Snapshot.pack).getD .nil))

/-- An entry as far as it has been read. -/
structure Draft where
  /-- Where the text came from. -/
  source : Bytes := []
  /-- When it was stored. -/
  stored : Instant := .unset
  /-- Its snapshot. -/
  snapshot : Option Snapshot.Draft := none
deriving DecidableEq, Repr

/-- The entry that has been read. -/
def Draft.finish (draft : Draft) : CacheEntry where
  source := draft.source
  stored := draft.stored
  snapshot := draft.snapshot.map Snapshot.Draft.finish

/-- Reads a snapshot that may be absent. -/
def readSnapshot : Packed.Reader (Option Snapshot.Draft)
  | .nil, _ => some none
  | packed, old => (Snapshot.read packed (old.getD {})).map some

/-- The fields of an entry. -/
def fields : Packed.Fields Draft :=
  [(utf8 "src", fun packed draft => do
      pure { draft with source := ← Packed.readBytes packed draft.source }),
   (utf8 "at", fun packed draft => do
      pure { draft with stored := ← Instant.read packed draft.stored }),
   (utf8 "snap", fun packed draft => do
      pure { draft with snapshot := ← readSnapshot packed draft.snapshot })]

/-- The bytes of an entry. -/
def encode (entry : CacheEntry) : Bytes := entry.pack.encode

/-- The entry that bytes spell; what follows it is ignored. -/
def decode? (bytes : Bytes) : Option CacheEntry := do
  let draft ← Packed.readRecord fields {} (← Packed.decode? bytes) {}
  pure draft.finish

end CacheEntry
end Blockwork
