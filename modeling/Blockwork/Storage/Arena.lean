/-!
# Arenas

An arena is an append-only store of entries, kept in chunks of equal length so that an entry never
changes its place. Through the view `toList` it is a flat list: pushing appends, a look-up by
handle is a look-up by position, and a write replaces one entry.
-/

namespace Blockwork

/-- An append-only store of entries in chunks of sixty-four. -/
structure Arena (α : Type) where
  /-- The chunks, each full but the last. -/
  chunks : Array (Array α)
  /-- The number of entries. -/
  size : Nat
  /-- There are just enough chunks for the entries. -/
  chunks_size : chunks.size = (size + 63) / 64
  /-- A chunk holds sixty-four entries, or as many as are left for it. -/
  chunk_size : ∀ index (inside : index < chunks.size),
    chunks[index].size = min 64 (size - 64 * index)
deriving DecidableEq, Repr

namespace Arena

variable {α : Type}

/-- The arena without entries. -/
def empty : Arena α where
  chunks := #[]
  size := 0
  chunks_size := rfl
  chunk_size := by intro index inside; simp at inside

instance : Inhabited (Arena α) := ⟨empty⟩

/-- Appends an entry: to a fresh chunk if every chunk is full, otherwise to the last one. Its
handle is the number of entries before. -/
def push (arena : Arena α) (entry : α) : Arena α :=
  if fresh : arena.size % 64 = 0 then
    { chunks := arena.chunks.push #[entry]
      size := arena.size + 1
      chunks_size := by
        have := arena.chunks_size
        simp only [Array.size_push]
        omega
      chunk_size := by
        intro index inside
        have count := arena.chunks_size
        simp only [Array.size_push] at inside
        rw [Array.getElem_push]
        split
        · rename_i old
          rw [arena.chunk_size index old]
          omega
        · simp only [List.size_toArray, List.length_cons, List.length_nil]
          omega }
  else
    { chunks := arena.chunks.modify (arena.size / 64) (·.push entry)
      size := arena.size + 1
      chunks_size := by
        have := arena.chunks_size
        simp only [Array.size_modify]
        omega
      chunk_size := by
        intro index inside
        have count := arena.chunks_size
        simp only [Array.size_modify] at inside
        rw [Array.getElem_modify]
        have old := arena.chunk_size index inside
        split
        · simp only [Array.size_push]
          omega
        · omega }

/-- The entry with the given handle. -/
def get? (arena : Arena α) (handle : Nat) : Option α :=
  if handle < arena.size then
    (arena.chunks[handle / 64]?).bind fun chunk => chunk[handle % 64]?
  else none

/-- Writes through a handle; nothing happens if there is no such entry. -/
def modify (arena : Arena α) (handle : Nat) (change : α → α) : Arena α where
  chunks := arena.chunks.modify (handle / 64) fun chunk => chunk.modify (handle % 64) change
  size := arena.size
  chunks_size := by simpa using arena.chunks_size
  chunk_size := by
    intro index inside
    simp only [Array.size_modify] at inside
    rw [Array.getElem_modify]
    have old := arena.chunk_size index inside
    split <;> simp_all

/-- Replaces the entry with the given handle. -/
def set (arena : Arena α) (handle : Nat) (entry : α) : Arena α :=
  arena.modify handle fun _ => entry

/-- The entries in insertion order. -/
def toList (arena : Arena α) : List α :=
  arena.chunks.toList.flatMap Array.toList

/-- The entries with their handles in insertion order. -/
def all (arena : Arena α) : List (Nat × α) :=
  arena.toList.zipIdx.map fun (entry, handle) => (handle, entry)

/-- The arena of the entries of a list. -/
def ofList (entries : List α) : Arena α := entries.foldl push empty

@[simp]
theorem size_empty : (empty : Arena α).size = 0 := rfl

@[simp]
theorem size_push (arena : Arena α) (entry : α) : (arena.push entry).size = arena.size + 1 := by
  unfold push
  split <;> rfl

@[simp]
theorem size_modify (arena : Arena α) (handle : Nat) (change : α → α) :
    (arena.modify handle change).size = arena.size := rfl

/-- An entry is found exactly if its handle is smaller than the number of entries. -/
theorem get?_isSome_iff (arena : Arena α) (handle : Nat) :
    (arena.get? handle).isSome ↔ handle < arena.size := by
  unfold get?
  split
  · rename_i inside
    have count := arena.chunks_size
    have place : handle / 64 < arena.chunks.size := by omega
    have length := arena.chunk_size _ place
    have offset : handle % 64 < arena.chunks[handle / 64].size := by omega
    simp [place, offset, inside]
  · simp_all

/-- A push keeps every entry and adds the new one under the old number of entries. -/
theorem get?_push (arena : Arena α) (entry : α) (handle : Nat) :
    (arena.push entry).get? handle =
      if handle = arena.size then some entry else arena.get? handle := by
  have count := arena.chunks_size
  unfold push
  split
  · rename_i fresh
    simp only [get?, Array.getElem?_push]
    by_cases same : handle = arena.size
    · subst same
      have place : arena.size / 64 = arena.chunks.size := by omega
      simp [place, fresh]
    · by_cases inside : handle < arena.size
      · have place : handle / 64 ≠ arena.chunks.size := by omega
        simp [same, inside, place, Nat.lt_succ_of_lt inside]
      · have outside : ¬ handle < arena.size + 1 := by omega
        simp [same, inside, outside]
  · rename_i partly
    simp only [get?, Array.getElem?_modify]
    by_cases same : handle = arena.size
    · subst same
      have place : arena.size / 64 < arena.chunks.size := by omega
      have length := arena.chunk_size _ place
      have last : arena.chunks[arena.size / 64].size = arena.size % 64 := by omega
      simp [place, Array.getElem_push, last]
    · by_cases inside : handle < arena.size
      · have place : handle / 64 < arena.chunks.size := by omega
        have length := arena.chunk_size _ place
        have offset : handle % 64 ≠ arena.chunks[handle / 64].size ∨
            handle / 64 ≠ arena.size / 64 := by omega
        by_cases chunk : arena.size / 64 = handle / 64
        · have offset : handle % 64 ≠ arena.chunks[handle / 64].size := by omega
          simp [same, inside, Nat.lt_succ_of_lt inside, chunk, place, Array.getElem?_push, offset]
        · simp [same, inside, Nat.lt_succ_of_lt inside, chunk]
      · have outside : ¬ handle < arena.size + 1 := by omega
        simp [same, inside, outside]

/-- A write changes the entry it names and no other. -/
theorem get?_modify (arena : Arena α) (handle : Nat) (change : α → α) (other : Nat) :
    (arena.modify handle change).get? other =
      if handle = other then (arena.get? other).map change else arena.get? other := by
  simp only [get?, modify, Array.getElem?_modify]
  by_cases inside : other < arena.size
  · simp only [inside, if_true]
    by_cases same : handle = other
    · subst same
      cases chunk : arena.chunks[handle / 64]? <;> simp [Array.getElem?_modify]
    · simp only [same, if_false]
      by_cases place : handle / 64 = other / 64
      · have offset : handle % 64 ≠ other % 64 := by omega
        cases chunk : arena.chunks[other / 64]? <;> simp [place, offset, Array.getElem?_modify]
      · simp [place]
  · simp [inside]

end Arena
end Blockwork
