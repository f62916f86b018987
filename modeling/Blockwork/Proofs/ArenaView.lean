import Blockwork.Storage.Arena
import Mathlib.Tactic.Common

/-!
# Arenas as lists

Through `toList` an arena is a flat list: the handle of an entry is its position, a push appends, a
write replaces one item. Two arenas with the same entries are equal, because the lengths of the
chunks leave no choice.
-/

namespace Blockwork
namespace Arena

variable {α : Type}

/-- Chunks of sixty-four entries, the last perhaps shorter, put together: an entry is found in the
chunk and at the place that its position tells. -/
theorem flatten_chunks (chunks : List (List α)) (total : Nat)
    (count : chunks.length = (total + 63) / 64)
    (lengths : ∀ index (inside : index < chunks.length),
      chunks[index].length = min 64 (total - 64 * index)) :
    chunks.flatten.length = total ∧
      ∀ position, position < total → chunks.flatten[position]? =
        chunks[position / 64]?.bind fun chunk => chunk[position % 64]? := by
  induction chunks generalizing total with
  | nil =>
    simp only [List.length_nil] at count
    constructor
    · simp only [List.flatten_nil, List.length_nil]
      omega
    · intro position inside
      omega
  | cons chunk rest ih =>
    simp only [List.length_cons] at count
    have first : chunk.length = min 64 total := lengths 0 (by simp)
    have tail := ih (total - 64) (by omega) (by
      intro index inside
      have length := lengths (index + 1) (by simpa using inside)
      simp only [List.getElem_cons_succ] at length
      omega)
    obtain ⟨restLength, restEntries⟩ := tail
    constructor
    · simp only [List.flatten_cons, List.length_append, restLength]
      omega
    · intro position inside
      rw [List.flatten_cons, List.getElem?_append]
      by_cases early : position < chunk.length
      · have place : position / 64 = 0 := by omega
        have offset : position % 64 = position := by omega
        simp [early, place, offset]
      · have place : position / 64 = (position - 64) / 64 + 1 := by omega
        have offset : position % 64 = (position - 64) % 64 := by omega
        have start : position - chunk.length = position - 64 := by omega
        rw [if_neg early, start, restEntries (position - 64) (by omega), place, offset,
          List.getElem?_cons_succ]

theorem toList_chunks (arena : Arena α) :
    arena.toList.length = arena.size ∧
      ∀ position, position < arena.size → arena.toList[position]? =
        (arena.chunks.toList.map Array.toList)[position / 64]?.bind fun chunk =>
          chunk[position % 64]? := by
  rw [toList, List.flatMap_def]
  apply flatten_chunks
  · simpa using arena.chunks_size
  · intro index inside
    simp only [List.length_map, Array.length_toList] at inside
    simpa using arena.chunk_size index inside

@[simp]
theorem length_toList (arena : Arena α) : arena.toList.length = arena.size :=
  arena.toList_chunks.1

/-- A look-up by handle is a look-up by position. -/
theorem get?_eq_getElem? (arena : Arena α) (handle : Nat) :
    arena.get? handle = arena.toList[handle]? := by
  by_cases inside : handle < arena.size
  · rw [arena.toList_chunks.2 handle inside, get?, if_pos inside]
    cases chunk : arena.chunks[handle / 64]? <;> simp [chunk]
  · rw [get?, if_neg inside, List.getElem?_eq_none (by simpa using inside)]

theorem get?_eq_some_lt {arena : Arena α} {handle : Nat} {entry : α}
    (found : arena.get? handle = some entry) : handle < arena.size := by
  rw [← arena.get?_isSome_iff, found]
  rfl

theorem exists_get?_of_lt {arena : Arena α} {handle : Nat} (inside : handle < arena.size) :
    ∃ entry, arena.get? handle = some entry :=
  Option.isSome_iff_exists.mp ((arena.get?_isSome_iff handle).mpr inside)

theorem mem_toList_iff {arena : Arena α} {entry : α} :
    entry ∈ arena.toList ↔ ∃ handle, arena.get? handle = some entry := by
  simp only [get?_eq_getElem?, List.mem_iff_getElem?]

/-- What is appended behind the entries moves none of them. -/
theorem get?_of_toList_eq_append {arena arena' : Arena α} {added : List α}
    (appended : arena'.toList = arena.toList ++ added) {handle : Nat} {entry : α}
    (found : arena.get? handle = some entry) : arena'.get? handle = some entry := by
  have inside : handle < arena.toList.length := by
    rw [length_toList]
    exact get?_eq_some_lt found
  rw [get?_eq_getElem?, appended, List.getElem?_append_left inside, ← get?_eq_getElem?, found]

@[simp]
theorem toList_empty : (empty : Arena α).toList = [] := rfl

@[simp]
theorem toList_push (arena : Arena α) (entry : α) :
    (arena.push entry).toList = arena.toList ++ [entry] := by
  apply List.ext_getElem?
  intro position
  rw [← get?_eq_getElem?, get?_push, List.getElem?_append, length_toList, get?_eq_getElem?]
  rcases Nat.lt_trichotomy position arena.size with before | rfl | after
  · simp [before, Nat.ne_of_lt before]
  · simp
  · have outside : arena.toList[position]? = none :=
      List.getElem?_eq_none (by simpa using Nat.le_of_lt after)
    have later : ¬ position < arena.size := by omega
    have beyond : [entry][position - arena.size]? = none :=
      List.getElem?_eq_none (by simp only [List.length_singleton]; omega)
    rw [if_neg (Nat.ne_of_gt after), if_neg later, outside, beyond]

@[simp]
theorem toList_modify (arena : Arena α) (handle : Nat) (change : α → α) :
    (arena.modify handle change).toList = arena.toList.modify handle change := by
  apply List.ext_getElem?
  intro position
  rw [← get?_eq_getElem?, get?_modify, List.getElem?_modify, get?_eq_getElem?]
  split <;> simp

@[simp]
theorem toList_set (arena : Arena α) (handle : Nat) (entry : α) :
    (arena.set handle entry).toList = arena.toList.set handle entry := by
  rw [set, toList_modify]
  apply List.ext_getElem?
  intro position
  rw [List.getElem?_modify, List.getElem?_set]
  by_cases same : handle = position
  · subst same
    by_cases inside : handle < arena.toList.length
    · simpa [List.getElem?_eq_getElem inside] using inside
    · simpa [List.getElem?_eq_none (Nat.le_of_not_lt inside)] using inside
  · simp [same]

@[simp]
theorem size_set (arena : Arena α) (handle : Nat) (entry : α) :
    (arena.set handle entry).size = arena.size := rfl

theorem get?_set (arena : Arena α) (handle : Nat) (entry : α) (other : Nat) :
    (arena.set handle entry).get? other =
      if handle = other then (arena.get? other).map (fun _ => entry) else arena.get? other :=
  arena.get?_modify handle _ other

/-- Changing an entry is replacing it by what it changes to. -/
theorem modify_eq_set {arena : Arena α} {handle : Nat} {entry : α}
    (found : arena.get? handle = some entry) (change : α → α) :
    arena.modify handle change = arena.set handle (change entry) := by
  unfold set modify
  simp only [mk.injEq, and_true]
  apply Array.ext
  · simp
  · intro index inside _
    simp only [Array.size_modify] at inside
    rw [Array.getElem_modify, Array.getElem_modify]
    split
    · rename_i here
      subst here
      have held : arena.chunks[handle / 64][handle % 64]? = some entry := by
        simpa [get?, get?_eq_some_lt found, Array.getElem?_eq_getElem inside] using found
      apply Array.ext_getElem?
      intro offset
      rw [Array.getElem?_modify, Array.getElem?_modify]
      split
      · rename_i there
        subst there
        rw [held]
        rfl
      · rfl
    · rfl

/-- An entry of a chunk has the handle that its place tells. -/
theorem getElem?_chunk {arena : Arena α} {index : Nat} (inside : index < arena.chunks.size)
    {offset : Nat} (near : offset < arena.chunks[index].size) :
    arena.chunks[index][offset]? = arena.get? (64 * index + offset) := by
  have length := arena.chunk_size index inside
  have place : (64 * index + offset) / 64 = index := by omega
  have rest : (64 * index + offset) % 64 = offset := by omega
  rw [get?, if_pos (by omega), place, rest, Array.getElem?_eq_getElem inside]
  rfl

/-- An arena is determined by its entries. -/
theorem toList_injective {left right : Arena α} (same : left.toList = right.toList) :
    left = right := by
  have size : left.size = right.size := by
    rw [← length_toList, same, length_toList]
  have chunks : left.chunks = right.chunks := by
    apply Array.ext
    · rw [left.chunks_size, right.chunks_size, size]
    · intro index insideLeft insideRight
      have length : left.chunks[index].size = right.chunks[index].size := by
        rw [left.chunk_size, right.chunk_size, size]
      apply Array.ext_getElem?
      intro offset
      by_cases near : offset < left.chunks[index].size
      · rw [getElem?_chunk insideLeft near, getElem?_chunk insideRight (length ▸ near),
          get?_eq_getElem?, get?_eq_getElem?, same]
      · rw [Array.getElem?_eq_none (Nat.le_of_not_lt near),
          Array.getElem?_eq_none (Nat.le_of_not_lt (length ▸ near))]
  obtain ⟨leftChunks, leftSize, _, _⟩ := left
  obtain ⟨rightChunks, rightSize, _, _⟩ := right
  subst size chunks
  rfl

theorem modify_modify (arena : Arena α) (handle : Nat) (first second : α → α) :
    (arena.modify handle first).modify handle second = arena.modify handle (second ∘ first) := by
  apply toList_injective
  simp only [toList_modify, List.modify_modify_eq]

/-- A change to the entry that was pushed last is pushed with it. -/
theorem modify_push_size (arena : Arena α) (entry : α) (change : α → α) :
    (arena.push entry).modify arena.size change = arena.push (change entry) := by
  apply toList_injective
  rw [toList_modify, toList_push, toList_push, ← length_toList]
  generalize arena.toList = entries
  induction entries with
  | nil => rfl
  | cons head rest ih => exact congrArg (head :: ·) ih

theorem toList_foldl_push (entries : List α) (arena : Arena α) :
    (entries.foldl push arena).toList = arena.toList ++ entries := by
  induction entries generalizing arena with
  | nil => simp
  | cons entry rest ih => simp [ih]

@[simp]
theorem toList_ofList (entries : List α) : (ofList entries).toList = entries := by
  simp [ofList, toList_foldl_push]

@[simp]
theorem size_ofList (entries : List α) : (ofList entries).size = entries.length := by
  rw [← length_toList, toList_ofList]

/-- The entries with their handles are the list with its positions. -/
theorem mem_all_iff {arena : Arena α} {handle : Nat} {entry : α} :
    (handle, entry) ∈ arena.all ↔ arena.get? handle = some entry := by
  simp only [all, List.mem_map, Prod.exists, Prod.mk.injEq, get?_eq_getElem?]
  constructor
  · rintro ⟨found, position, member, rfl, rfl⟩
    simpa using List.mk_mem_zipIdx_iff_getElem?.mp member
  · intro found
    exact ⟨entry, handle, List.mk_mem_zipIdx_iff_getElem?.mpr found, rfl, rfl⟩

end Arena
end Blockwork
