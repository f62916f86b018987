import Blockwork.Proofs.ArenaView
import Mathlib.Data.List.Infix

/-!
# Where entries live

An arena as it lies in memory: blocks of cells, a table of chunks that name the blocks, and pointers
that name cells. An index that leads out of a chunk stops the program here, and so does a number of
entries that does not fit into 32 bits; a chunk without room moves to another block, and then
pointers to its entries go astray. Nothing of this happens. The arena is the flat list of what was
pushed, with what was written, and every entry stays in the cell that it was pushed to.
-/

namespace Blockwork
namespace Arena

variable {α : Type}

/-! ## Memory -/

/-- What stops the program while it works on an arena. -/
inductive Stop where
  /-- The number of entries does not fit into 32 bits. -/
  | overflow
  /-- An index leads out of the table or out of a chunk. -/
  | outside
deriving DecidableEq, Repr

/-- A cell of memory, as a pointer names it. -/
structure Place where
  /-- The block of memory. -/
  block : Nat
  /-- The cell of the block. -/
  offset : Nat
deriving DecidableEq, Repr

/-- A chunk, as the table names it: the first cells of a block. -/
structure Chunk where
  /-- The block of memory. -/
  block : Nat
  /-- The number of its cells that are in use. -/
  length : Nat
  /-- The number of its cells. -/
  capacity : Nat
deriving DecidableEq, Repr

/-- An arena in memory. -/
structure Layout (α : Type) where
  /-- The blocks that have been handed out, with what was stored in their cells. -/
  blocks : Array (Array (Option α))
  /-- The chunks. -/
  table : Array Chunk
  /-- The number of chunks for which there is room in the table. -/
  reserve : Nat
  /-- The number of entries. -/
  count : Nat
deriving DecidableEq, Repr

namespace Layout

/-- The room that is made for something that has grown to the given length; any larger number would
do. -/
def grown (length : Nat) : Nat := 2 * length

/-- An arena without entries. The hint only decides how much room the table has. -/
def new (hint : UInt64) : Layout α where
  blocks := #[]
  table := #[]
  reserve := hint.toNat / 64 + 1
  count := 0

/-- Stores an entry behind a chunk. If the chunk has no room, it moves to a new block. -/
def append (blocks : Array (Array (Option α))) (chunk : Chunk) (entry : α) :
    Array (Array (Option α)) × Chunk :=
  if chunk.length < chunk.capacity then
    (blocks.modify chunk.block (·.setIfInBounds chunk.length (some entry)),
      { chunk with length := chunk.length + 1 })
  else
    let capacity := grown (chunk.length + 1)
    let moved := (blocks[chunk.block]?.getD #[]).extract 0 chunk.length ++ #[some entry]
    (blocks.push (moved ++ Array.replicate (capacity - moved.size) none),
      ⟨blocks.size, chunk.length + 1, capacity⟩)

/-- Adds an empty chunk of sixty-four cells to the table, which is moved if it has no room. -/
def addChunk (layout : Layout α) : Layout α :=
  { layout with
    blocks := layout.blocks.push (Array.replicate 64 none)
    table := layout.table.push ⟨layout.blocks.size, 0, 64⟩
    reserve := if layout.table.size < layout.reserve then layout.reserve
      else grown (layout.table.size + 1) }

/-- An arena with room for another entry: if every chunk is full, there is a new one. -/
def opened (layout : Layout α) : Layout α :=
  if layout.count % 64 = 0 then layout.addChunk else layout

/-- Stores an entry behind the last chunk. -/
def store (layout : Layout α) (entry : α) : Except Stop (Layout α) :=
  let last := layout.table.size - 1
  match layout.table[last]? with
  | none => .error .outside
  | some chunk =>
    let (blocks, chunk) := append layout.blocks chunk entry
    .ok { layout with
      blocks
      table := layout.table.setIfInBounds last chunk
      count := layout.count + 1 }

/-- Appends an entry, and gives its handle. -/
def push (layout : Layout α) (entry : α) : Except Stop (Layout α × UInt32) :=
  if layout.count < 0x100000000 then do
    let stored ← layout.opened.store entry
    pure (stored, UInt32.ofNat layout.count)
  else .error .overflow

/-- The cell of the entry with the given number. -/
def place (layout : Layout α) (index : Nat) : Except Stop Place :=
  match layout.table[index / 64]? with
  | none => .error .outside
  | some chunk =>
    if index % 64 < chunk.length then .ok ⟨chunk.block, index % 64⟩ else .error .outside

/-- The pointer to the entry with the given handle. -/
def get (layout : Layout α) (handle : UInt32) : Except Stop (Option Place) :=
  if layout.count ≤ handle.toNat then .ok none
  else do
    let place ← layout.place handle.toNat
    pure (some place)

/-- What is read through a pointer. -/
def read (layout : Layout α) (place : Place) : Option α :=
  (layout.blocks[place.block]?.bind fun cells => cells[place.offset]?).join

/-- Writes through a pointer. -/
def write (layout : Layout α) (place : Place) (entry : α) : Layout α :=
  { layout with
    blocks := layout.blocks.modify place.block (·.modify place.offset fun _ => some entry) }

/-- Hands out the handles and pointers of the entries with the given numbers, until they are no
longer wanted. -/
def walk (layout : Layout α) (wants : List (UInt32 × Place) → Bool)
    (seen : List (UInt32 × Place)) : List Nat → Except Stop (List (UInt32 × Place))
  | [] => .ok seen
  | index :: rest => do
    let place ← layout.place index
    let seen := seen ++ [(UInt32.ofNat index, place)]
    if wants seen then walk layout wants seen rest else pure seen

/-- Hands out handles and pointers in order, until they are no longer wanted. -/
def all (layout : Layout α) (wants : List (UInt32 × Place) → Bool) :
    Except Stop (List (UInt32 × Place)) :=
  layout.walk wants [] (List.range layout.count)

/-- Hands out pointers in order, until they are no longer wanted. -/
def values (layout : Layout α) (wants : List Place → Bool) : Except Stop (List Place) := do
  let seen ← layout.all fun seen => wants (seen.map Prod.snd)
  pure (seen.map Prod.snd)

end Layout

/-! ## An arena laid out -/

/-- The sixty-four cells of a block that holds the given entries. -/
def cells (entries : Array α) : Array (Option α) :=
  Array.ofFn fun offset : Fin 64 => entries[offset.val]?

/-- The cell of the entry with the given handle. -/
def Place.ofHandle (handle : Nat) : Place := ⟨handle / 64, handle % 64⟩

/-- Chunks laid out in memory: every chunk has the block of its number. -/
def Layout.ofChunks (chunks : Array (Array α)) (reserve count : Nat) : Layout α where
  blocks := chunks.map cells
  table := chunks.mapIdx fun index entries => ⟨index, entries.size, 64⟩
  reserve := reserve
  count := count

/-- An arena laid out in memory. -/
def laidOut (arena : Arena α) (reserve : Nat) : Layout α :=
  .ofChunks arena.chunks reserve arena.size

@[simp]
theorem count_laidOut (arena : Arena α) (reserve : Nat) :
    (arena.laidOut reserve).count = arena.size := rfl

theorem new_eq_laidOut (hint : UInt64) :
    Layout.new hint = (empty : Arena α).laidOut (hint.toNat / 64 + 1) := by
  simp [Layout.new, laidOut, Layout.ofChunks, empty]

theorem size_chunk {arena : Arena α} {index : Nat} {entries : Array α}
    (found : arena.chunks[index]? = some entries) :
    entries.size = min 64 (arena.size - 64 * index) := by
  obtain ⟨inside, rfl⟩ := Array.getElem?_eq_some_iff.mp found
  exact arena.chunk_size index inside

@[simp]
theorem size_cells (entries : Array α) : (cells entries).size = 64 :=
  Array.size_ofFn

theorem getElem?_cells (entries : Array α) (offset : Nat) :
    (cells entries)[offset]? = if offset < 64 then some entries[offset]? else none := by
  rw [cells, Array.getElem?_ofFn]
  rfl

/-- An entry is stored in the first cell that is not in use. -/
theorem setIfInBounds_cells (entries : Array α) (entry : α) :
    (cells entries).setIfInBounds entries.size (some entry) = cells (entries.push entry) := by
  apply Array.ext_getElem?
  intro offset
  rw [Array.getElem?_setIfInBounds, size_cells, getElem?_cells, getElem?_cells,
    Array.getElem?_push]
  by_cases here : entries.size = offset
  · rw [if_pos here, if_pos here.symm, here]
  · rw [if_neg here, if_neg (Ne.symm here)]

theorem modify_cells {entries : Array α} {offset : Nat} (inside : offset < entries.size)
    (entry : α) :
    (cells entries).modify offset (fun _ => some entry) =
      cells (entries.modify offset fun _ => entry) := by
  apply Array.ext_getElem?
  intro other
  rw [Array.getElem?_modify, getElem?_cells, getElem?_cells, Array.getElem?_modify]
  by_cases here : offset = other
  · subst here
    rw [if_pos rfl, if_pos rfl, Array.getElem?_eq_getElem inside]
    split <;> rfl
  · rw [if_neg here, if_neg here]

/-! ## Steps -/

variable {arena : Arena α} {reserve : Nat}

theorem place_laidOut {index : Nat} (inside : index < arena.size) :
    (arena.laidOut reserve).place index = .ok (.ofHandle index) := by
  have count := arena.chunks_size
  have there : index / 64 < arena.chunks.size := by omega
  have length := arena.chunk_size _ there
  have offset : index % 64 < arena.chunks[index / 64].size := by omega
  rw [Layout.place]
  simp only [laidOut, Layout.ofChunks, Array.getElem?_mapIdx, Array.getElem?_eq_getElem there,
    Option.map_some]
  rw [if_pos offset]
  rfl

theorem get_laidOut (handle : UInt32) :
    (arena.laidOut reserve).get handle =
      .ok (if handle.toNat < arena.size then some (.ofHandle handle.toNat) else none) := by
  rw [Layout.get, count_laidOut]
  by_cases inside : handle.toNat < arena.size
  · rw [if_neg (Nat.not_le.mpr inside), place_laidOut inside, if_pos inside]
    rfl
  · rw [if_pos (Nat.le_of_not_lt inside), if_neg inside]

theorem read_laidOut {handle : Nat} (inside : handle < arena.size) :
    (arena.laidOut reserve).read (.ofHandle handle) = arena.get? handle := by
  rw [Layout.read, get?, if_pos inside]
  simp only [laidOut, Layout.ofChunks, Place.ofHandle, Array.getElem?_map]
  cases arena.chunks[handle / 64]? with
  | none => rfl
  | some entries =>
    have offset : handle % 64 < 64 := Nat.mod_lt _ (by decide)
    change ((cells entries)[handle % 64]?).join = entries[handle % 64]?
    rw [getElem?_cells, if_pos offset]
    rfl

theorem write_laidOut {handle : Nat} (inside : handle < arena.size) (entry : α) :
    (arena.laidOut reserve).write (.ofHandle handle) entry =
      (arena.set handle entry).laidOut reserve := by
  have blocks : (arena.chunks.map cells).modify (handle / 64)
      (·.modify (handle % 64) fun _ => some entry) =
        ((arena.set handle entry).chunks).map cells := by
    apply Array.ext_getElem?
    intro index
    simp only [set, modify, Array.getElem?_modify, Array.getElem?_map]
    split
    · rename_i here
      subst here
      cases found : arena.chunks[handle / 64]? with
      | none => rfl
      | some entries =>
        have length := size_chunk found
        exact congrArg some (modify_cells (by omega) entry)
    · rfl
  have table : (arena.chunks.mapIdx fun index entries => (⟨index, entries.size, 64⟩ : Chunk)) =
      (arena.set handle entry).chunks.mapIdx fun index entries => ⟨index, entries.size, 64⟩ := by
    apply Array.ext_getElem?
    intro index
    simp only [set, modify, Array.getElem?_modify, Array.getElem?_mapIdx]
    split
    · rename_i here
      cases arena.chunks[index]? <;> simp
    · rfl
  simp only [Layout.write, laidOut, Layout.ofChunks, Place.ofHandle, blocks, table, size_set]

namespace Layout

variable {chunks : Array (Array α)} {count last : Nat} {entries : Array α}

theorem addChunk_ofChunks (chunks : Array (Array α)) (reserve count : Nat) :
    (ofChunks chunks reserve count).addChunk =
      ofChunks (chunks.push #[])
        (if chunks.size < reserve then reserve else grown (chunks.size + 1)) count := by
  have fresh : Array.replicate 64 none = cells (#[] : Array α) := by
    apply Array.ext_getElem?
    intro offset
    rw [getElem?_cells, Array.getElem?_replicate]
    rfl
  simp [addChunk, ofChunks, fresh, Array.map_push, Array.mapIdx_push]

/-- An entry goes to the block of the last chunk, if there is room. -/
theorem append_ofChunks (found : chunks[last]? = some entries) (room : entries.size < 64)
    (entry : α) :
    append (chunks.map cells) ⟨last, entries.size, 64⟩ entry =
      ((chunks.modify last (·.push entry)).map cells, ⟨last, entries.size + 1, 64⟩) := by
  rw [append, if_pos room, Prod.mk.injEq]
  refine ⟨?_, rfl⟩
  apply Array.ext_getElem?
  intro index
  simp only [Array.getElem?_modify, Array.getElem?_map]
  split
  · rename_i here
    subst here
    rw [found]
    exact congrArg some (setIfInBounds_cells entries entry)
  · rfl

theorem table_ofChunks (reserve count : Nat) (found : chunks[last]? = some entries) (entry : α) :
    (ofChunks chunks reserve count).table.setIfInBounds last ⟨last, entries.size + 1, 64⟩ =
      (ofChunks (chunks.modify last (·.push entry)) reserve count).table := by
  have inside := (Array.getElem?_eq_some_iff.mp found).1
  apply Array.ext_getElem?
  intro index
  simp only [ofChunks, Array.getElem?_setIfInBounds, Array.getElem?_mapIdx,
    Array.getElem?_modify, Array.size_mapIdx]
  split
  · rename_i here
    subst here
    rw [found]
    simp
  · rfl

theorem store_ofChunks (found : chunks[chunks.size - 1]? = some entries)
    (room : entries.size < 64) (entry : α) :
    (ofChunks chunks reserve count).store entry =
      .ok (ofChunks (chunks.modify (chunks.size - 1) (·.push entry)) reserve (count + 1)) := by
  have size : (ofChunks chunks reserve count).table.size = chunks.size := Array.size_mapIdx
  have chunk : (ofChunks chunks reserve count).table[chunks.size - 1]? =
      some ⟨chunks.size - 1, entries.size, 64⟩ := by
    simp [ofChunks, found]
  have table := table_ofChunks reserve count found entry
  rw [store, size]
  simp only [chunk]
  rw [ofChunks, append_ofChunks found room, ← ofChunks, table]
  rfl

end Layout

/-- Before an entry is stored there is room for it behind the last chunk. -/
theorem opened_laidOut (arena : Arena α) (reserve : Nat) (entry : α) :
    ∃ chunks reserve' entries,
      (arena.laidOut reserve).opened = .ofChunks chunks reserve' arena.size ∧
      chunks[chunks.size - 1]? = some entries ∧ entries.size < 64 ∧
      (arena.push entry).chunks = chunks.modify (chunks.size - 1) (·.push entry) := by
  have count := arena.chunks_size
  by_cases full : arena.size % 64 = 0
  · have last : (arena.chunks.push #[]).size - 1 = arena.chunks.size := by
      rw [Array.size_push, Nat.add_sub_cancel]
    have opened : (arena.laidOut reserve).opened = (arena.laidOut reserve).addChunk := if_pos full
    refine ⟨arena.chunks.push #[], _, #[], opened.trans (Layout.addChunk_ofChunks _ _ _), ?_,
      Nat.zero_lt_succ _, ?_⟩
    · rw [last, Array.getElem?_push_size]
    · rw [push, dif_pos full, last]
      apply Array.ext_getElem?
      intro index
      rw [Array.getElem?_modify, Array.getElem?_push, Array.getElem?_push]
      by_cases here : arena.chunks.size = index
      · rw [if_pos here, if_pos here.symm, if_pos here.symm]
        rfl
      · rw [if_neg here, if_neg (Ne.symm here), if_neg (Ne.symm here)]
  · have there : arena.size / 64 < arena.chunks.size := by omega
    have length := arena.chunk_size _ there
    have last : arena.chunks.size - 1 = arena.size / 64 := by omega
    refine ⟨arena.chunks, reserve, arena.chunks[arena.size / 64], if_neg full, ?_, by omega, ?_⟩
    · rw [last, Array.getElem?_eq_getElem there]
    · rw [push, dif_neg full, last]

/-- An entry is pushed to a chunk that has room for it, unless there are too many entries. -/
theorem push_laidOut (room : arena.size < 0x100000000) (reserve : Nat) (entry : α) :
    ∃ reserve', (arena.laidOut reserve).push entry =
      .ok ((arena.push entry).laidOut reserve', UInt32.ofNat arena.size) := by
  obtain ⟨chunks, reserve', entries, opened, found, free, pushed⟩ :=
    opened_laidOut arena reserve entry
  refine ⟨reserve', ?_⟩
  rw [Layout.push, count_laidOut, if_pos room, opened, Layout.store_ofChunks found free, laidOut,
    pushed, size_push]
  rfl

/-! ## Iteration -/

section Attending

variable {β γ : Type}

/-- What is handed out of a list to someone who takes one item after the other: the shortest
beginning, not empty, that leaves nothing to be wanted, or else all of it. -/
def attend (wants : List β → Bool) (list : List β) : List β :=
  (list.inits.tail.find? fun seen => !wants seen).getD list

@[simp]
theorem attend_nil (wants : List β → Bool) : attend wants [] = [] := rfl

theorem attend_cons (wants : List β → Bool) (item : β) (rest : List β) :
    attend wants (item :: rest) =
      item :: if wants [item] then attend (fun later => wants (item :: later)) rest else [] := by
  have first : rest.inits = [] :: rest.inits.tail := by
    cases rest <;> rfl
  rw [attend, List.inits_cons, List.tail_cons, first, List.map_cons, List.find?_cons]
  cases wanted : wants [item] with
  | false => simp
  | true =>
    rw [Bool.not_true, List.find?_map, attend]
    change Option.getD (Option.map _ (rest.inits.tail.find? fun later => !wants (item :: later))) _ =
      _
    cases rest.inits.tail.find? fun later => !wants (item :: later) <;> rfl

theorem attend_isPrefix (wants : List β → Bool) (list : List β) : attend wants list <+: list := by
  rw [attend]
  cases found : list.inits.tail.find? fun seen => !wants seen with
  | none => exact List.prefix_rfl
  | some seen =>
    exact (List.mem_inits seen list).mp (List.mem_of_mem_tail (List.mem_of_find?_eq_some found))

/-- Someone who only looks at what a function makes of the items is handed out the same number. -/
theorem attend_map (change : β → γ) (wants : List γ → Bool) (list : List β) :
    (attend (fun seen => wants (seen.map change)) list).map change =
      attend wants (list.map change) := by
  induction list generalizing wants with
  | nil => rfl
  | cons item rest ih =>
    simp only [List.map_cons, List.map_nil, attend_cons]
    congr 1
    cases wanted : wants [change item] with
    | false => simp
    | true => simpa [wanted] using ih fun later => wants (change item :: later)

/-- What is handed out of a numbered list is numbered alike. -/
theorem attend_range (change : β → γ) (wants : List γ → Bool) (item : Nat → β) (count : Nat) :
    attend (fun seen => wants (seen.map change)) ((List.range count).map item) =
      (List.range (attend wants ((List.range count).map (change ∘ item))).length).map item := by
  have early := attend_isPrefix (fun seen => wants (seen.map change)) ((List.range count).map item)
  have length := congrArg List.length (attend_map change wants ((List.range count).map item))
  rw [List.length_map, List.map_map] at length
  have shorter := early.length_le
  rw [List.length_map, List.length_range, length] at shorter
  have taken := List.prefix_iff_eq_take.mp early
  rw [length, ← List.map_take, List.take_range, Nat.min_eq_left shorter] at taken
  exact taken

/-- Whoever looks at the items of a numbered list is shown what a list of the looks would show, and
as many items are handed out. -/
theorem attend_looked {look : β → γ} {item : Nat → β} {count : Nat} {list : List γ}
    (looked : (List.range count).map (look ∘ item) = list) (wants : List γ → Bool) :
    (attend (fun seen => wants (seen.map look)) ((List.range count).map item)).map look =
        attend wants list ∧
      attend (fun seen => wants (seen.map look)) ((List.range count).map item) =
        (List.range (attend wants list).length).map item := by
  subst looked
  rw [attend_map, List.map_map]
  exact ⟨rfl, attend_range look wants item count⟩

end Attending

theorem Layout.walk_eq_attend {layout : Layout α} (spot : Nat → Place)
    (wants : List (UInt32 × Place) → Bool) (seen : List (UInt32 × Place)) (indices : List Nat)
    (found : ∀ index ∈ indices, layout.place index = .ok (spot index)) :
    layout.walk wants seen indices =
      .ok (seen ++ attend (fun later => wants (seen ++ later))
        (indices.map fun index => (UInt32.ofNat index, spot index))) := by
  induction indices generalizing seen with
  | nil => simp [walk]
  | cons index rest ih =>
    have here := found index List.mem_cons_self
    have there := ih (seen ++ [(UInt32.ofNat index, spot index)])
      fun other member => found other (List.mem_cons_of_mem _ member)
    rw [walk, here, List.map_cons, attend_cons]
    change (if wants (seen ++ [_]) then walk layout wants (seen ++ [_]) rest else pure _) = _
    split
    · rw [there]
      simp
    · rfl

theorem all_laidOut (wants : List (UInt32 × Place) → Bool) :
    (arena.laidOut reserve).all wants =
      .ok (attend wants ((List.range arena.size).map fun handle =>
        (UInt32.ofNat handle, .ofHandle handle))) := by
  rw [Layout.all, count_laidOut, Layout.walk_eq_attend .ofHandle]
  · rfl
  · intro index member
    exact place_laidOut (List.mem_range.mp member)

theorem values_laidOut (wants : List Place → Bool) :
    (arena.laidOut reserve).values wants =
      .ok (attend wants ((List.range arena.size).map .ofHandle)) := by
  rw [Layout.values, all_laidOut]
  refine congrArg Except.ok ?_
  rw [attend_map, List.map_map]
  rfl

/-! ## Shape -/

/-- The shape of an arena in memory. -/
structure Layout.Shaped (layout : Layout α) : Prop where
  /-- There are just enough chunks for the entries. -/
  enough : layout.table.size = (layout.count + 63) / 64
  /-- Every chunk but the last is full. -/
  full : ∀ (index : Nat) (chunk : Chunk), layout.table[index]? = some chunk →
    index + 1 < layout.table.size → chunk.length = 64
  /-- No chunk is empty, and none has more entries than there is room for. -/
  held : ∀ (index : Nat) (chunk : Chunk), layout.table[index]? = some chunk →
    0 < chunk.length ∧ chunk.length ≤ 64 ∧ chunk.capacity = 64
  /-- Every chunk is in the block that was handed out for it; none has moved. -/
  still : layout.blocks.size = layout.table.size ∧
    ∀ (index : Nat) (chunk : Chunk), layout.table[index]? = some chunk → chunk.block = index

theorem shaped_laidOut (arena : Arena α) (reserve : Nat) : (arena.laidOut reserve).Shaped := by
  have count := arena.chunks_size
  have size : (arena.laidOut reserve).table.size = arena.chunks.size := Array.size_mapIdx
  have named : ∀ index chunk, (arena.laidOut reserve).table[index]? = some chunk →
      index < arena.chunks.size ∧ chunk = ⟨index, min 64 (arena.size - 64 * index), 64⟩ := by
    intro index chunk found
    simp only [laidOut, Layout.ofChunks, Array.getElem?_mapIdx, Option.map_eq_some_iff] at found
    obtain ⟨entries, found, rfl⟩ := found
    exact ⟨(Array.getElem?_eq_some_iff.mp found).1, by rw [size_chunk found]⟩
  constructor
  case enough => exact size.trans count
  case full =>
    intro index chunk found more
    obtain ⟨inside, rfl⟩ := named index chunk found
    rw [size] at more
    change min 64 _ = 64
    omega
  case held =>
    intro index chunk found
    obtain ⟨inside, rfl⟩ := named index chunk found
    refine ⟨?_, Nat.min_le_left _ _, rfl⟩
    change 0 < min 64 _
    omega
  case still =>
    refine ⟨by rw [size]; exact Array.size_map, ?_⟩
    intro index chunk found
    obtain ⟨inside, rfl⟩ := named index chunk found
    rfl

end Arena
end Blockwork
