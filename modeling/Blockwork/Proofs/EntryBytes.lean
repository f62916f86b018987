import Blockwork.Cache.Entry
import Blockwork.Proofs.SnapshotBytes

/-!
# Cache entries read back

The bytes of a cache entry are read back with the snapshot that was written, whatever the instant is
and whatever follows them. The instant is read back too, if its seconds fit sixty-four bits; only the
offset of its clock is not kept.
-/

namespace Blockwork

namespace Instant

theorem exists_pack (instant : Instant) :
    ∃ bytes, instant.pack = .extension extensionType bytes ∧
      (bytes.length = 4 ∨ bytes.length = 8 ∨ bytes.length = 12) := by
  unfold pack
  dsimp only
  split
  · split
    · exact ⟨_, rfl, .inl (Packed.length_bigEndian _ _)⟩
    · exact ⟨_, rfl, .inr (.inl (Packed.length_bigEndian _ _))⟩
  · refine ⟨_, rfl, .inr (.inr ?_)⟩
    rw [List.length_append, Packed.length_bigEndian, Packed.length_bigEndian]

theorem sized_pack (instant : Instant) : instant.pack.Sized := by
  obtain ⟨bytes, packed, length⟩ := instant.exists_pack
  rw [packed, Packed.Sized]
  omega

/-- Every instant that was written can be read. -/
theorem exists_read_pack (instant old : Instant) : ∃ back, read instant.pack old = some back := by
  obtain ⟨bytes, packed, length⟩ := instant.exists_pack
  rw [packed, read, if_neg (not_not_intro rfl)]
  rcases length with four | eight | twelve
  · exact ⟨_, if_pos four⟩
  · refine ⟨_, (if_neg (by omega)).trans (if_pos eight)⟩
  · refine ⟨_, (if_neg (by omega)).trans ((if_neg (by omega)).trans (if_pos twelve))⟩

/-- Whether the seconds fit sixty-four bits, and the nanoseconds stop short of another second. -/
structure Regular (instant : Instant) : Prop where
  /-- The instant is not too early. -/
  least : -0x8000000000000000 ≤ instant.seconds
  /-- The instant is not too late. -/
  most : instant.seconds < 0x8000000000000000
  /-- The nanoseconds stop short of another second. -/
  nanoseconds : instant.nanoseconds < 1000000000

instance (instant : Instant) : Decidable instant.Regular :=
  decidable_of_iff (-0x8000000000000000 ≤ instant.seconds ∧
      instant.seconds < 0x8000000000000000 ∧ instant.nanoseconds < 1000000000)
    ⟨fun ⟨least, most, nanoseconds⟩ => ⟨least, most, nanoseconds⟩,
      fun regular => ⟨regular.least, regular.most, regular.nanoseconds⟩⟩

theorem Regular.ofUnix_eq {instant : Instant} (regular : instant.Regular) :
    ofUnix instant.seconds instant.nanoseconds 0 = { instant with offset := 0 } := by
  obtain ⟨least, most, short⟩ := regular
  have whole : (instant.nanoseconds : Int).fdiv 1000000000 = 0 := by
    rw [Int.fdiv_eq_ediv_of_nonneg _ (by decide)]
    omega
  have part : (instant.nanoseconds : Int).fmod 1000000000 = instant.nanoseconds := by
    rw [Int.fmod_eq_emod_of_nonneg _ (by decide)]
    omega
  have seconds : wrapSeconds instant.seconds = instant.seconds :=
    Int.bmod_eq_of_le (by omega) (by omega)
  rw [ofUnix, whole, part, Int.add_zero, seconds, Int.toNat_natCast]

/-- An instant is read back as it was, on a clock that is not ahead. -/
theorem Regular.read_pack {instant : Instant} (regular : instant.Regular) (old : Instant) :
    read instant.pack old = some { instant with offset := 0 } := by
  obtain ⟨least, most, short⟩ := regular
  rw [← Regular.ofUnix_eq ⟨least, most, short⟩]
  have few : instant.nanoseconds < Nat.pow 256 4 := by
    have size : Nat.pow 256 4 = 0x100000000 := by decide
    omega
  unfold pack
  dsimp only
  split
  case isTrue early =>
    obtain ⟨seconds, toNat⟩ : ∃ seconds : Nat, instant.seconds = seconds :=
      ⟨instant.seconds.toNat, (Int.toNat_of_nonneg early.1).symm⟩
    have wrapped : (instant.seconds % 0x10000000000000000).toNat = seconds := by omega
    rw [wrapped, toNat]
    split
    case isTrue tiny =>
      have fits : seconds < Nat.pow 256 4 := by
        have size : Nat.pow 256 4 = 0x100000000 := by decide
        omega
      rw [read, if_neg (not_not_intro rfl), if_pos (Packed.length_bigEndian _ _),
        Packed.number_bigEndian_of_lt fits, tiny.1]
      rfl
    case isFalse =>
      have fits : instant.nanoseconds * 0x400000000 + seconds < Nat.pow 256 8 := by
        have size : Nat.pow 256 8 = 0x10000000000000000 := by decide
        omega
      have remainder : (instant.nanoseconds * 0x400000000 + seconds) % 0x400000000 = seconds := by
        omega
      have quotient : (instant.nanoseconds * 0x400000000 + seconds) / 0x400000000 =
          instant.nanoseconds := by
        omega
      rw [read, if_neg (not_not_intro rfl), Packed.length_bigEndian, if_neg (by decide),
        if_pos rfl, Packed.number_bigEndian_of_lt fits]
      norm_cast
      rw [remainder, quotient]
  case isFalse =>
    have front := Packed.length_bigEndian 4 instant.nanoseconds
    rw [read, if_neg (not_not_intro rfl), List.length_append, front, Packed.length_bigEndian,
      if_neg (by decide), if_neg (by decide), if_pos rfl, List.drop_left' front,
      List.take_left' front, Packed.number_bigEndian_of_lt few]
    have signed := Packed.integer_bigEndian (by decide : Nat.pow 256 8 = 0x10000000000000000)
      (by omega : -((0x10000000000000000 : Nat) : Int) ≤ 2 * instant.seconds) (by omega)
    exact congrArg (fun seconds => some (ofUnix seconds _ 0)) signed

end Instant

namespace CacheEntry

/-- Reading the bytes of an entry gives back the snapshot and where it came from, with the instant as
it is read. -/
theorem decode?_encode {entry : CacheEntry} {stored' : Instant}
    (named : entry.source.length < 0x100000000)
    (short : ∀ snapshot, entry.snapshot = some snapshot → snapshot.Short)
    (instant : Instant.read entry.stored.pack .unset = some stored') :
    decode? entry.encode = some { entry with stored := stored' } := by
  obtain ⟨source, stored, snapshot⟩ := entry
  dsimp only at named short instant
  have text : (Packed.text source).Sized := by
    rw [Packed.Sized]
    exact named
  obtain ⟨draft, inner, finished⟩ : ∃ draft : Option Snapshot.Draft,
      readSnapshot ((snapshot.map Snapshot.pack).getD .nil) none = some draft ∧
        draft.map Snapshot.Draft.finish = snapshot := by
    cases snapshot with
    | none => exact ⟨none, rfl, rfl⟩
    | some snapshot =>
      obtain ⟨draft, read, rfl⟩ := snapshot.read_pack
      refine ⟨some draft, ?_, rfl⟩
      rw [Option.map_some, Option.getD_some, readSnapshot, Option.getD_none, read]
      · rfl
      · exact fun absent => nomatch absent
  have last : ((snapshot.map Snapshot.pack).getD .nil).Sized := by
    cases snapshot with
    | none =>
      rw [Option.map_none, Option.getD_none, Packed.Sized]
      trivial
    | some snapshot => exact (short snapshot rfl).sized
  have sized : (CacheEntry.pack ⟨source, stored, snapshot⟩).Sized :=
    (((Packed.entries_entry (by decide) text).append
      (Packed.entries_entry (by decide) stored.sized_pack)).append
      (Packed.entries_entry (by decide) last)).sized_map (by decide)
  have whole := Packed.decode?_encode sized []
  rw [List.append_nil] at whole
  have record : Packed.readRecord fields {} (CacheEntry.pack ⟨source, stored, snapshot⟩) {} =
      some ⟨source, stored', draft⟩ := by
    simp only [CacheEntry.pack, Packed.readRecord, List.append_assoc]
    rw [← List.append_nil (Packed.entry "snap" _),
      Packed.readEntries_entry fields "src" Draft.source
        (fun draft source => { draft with source }) Packed.readBytes rfl rfl,
      Packed.readEntries_entry fields "at" Draft.stored
        (fun draft stored => { draft with stored }) Instant.read rfl instant,
      Packed.readEntries_entry fields "snap" Draft.snapshot
        (fun draft snapshot => { draft with snapshot }) readSnapshot rfl inner]
    rfl
  simp [decode?, encode, whole, record, Draft.finish, finished]

/-- What follows an entry does not change what is read. -/
theorem decode?_append {bytes : Bytes} {entry : CacheEntry} (decoded : decode? bytes = some entry)
    (more : Bytes) : decode? (bytes ++ more) = some entry := by
  obtain ⟨packed, unpacked, rest⟩ := Option.bind_eq_some_iff.mp decoded
  rw [decode?, Packed.decode?_append unpacked more]
  exact rest

end CacheEntry
end Blockwork
