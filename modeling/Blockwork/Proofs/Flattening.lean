import Blockwork.Proofs.Residence

/-!
# Arenas as flat lists

Someone works on an arena: pushes entries, asks for pointers by handle, writes through any pointer
obtained before, and runs through the entries as far as wanted. From the answers, neither the arena
in memory nor the arena of chunks can be told from a flat list to which entries are appended. The
same pointer always leads to the same entry.
-/

namespace Blockwork
namespace Arena

variable {α σ π : Type}

/-! ## Calls -/

/-- What is done to a store of entries. -/
inductive Call (α : Type) where
  /-- Appends an entry. -/
  | push (entry : α)
  /-- Asks for the entry with the given handle. -/
  | get (handle : UInt32)
  /-- Writes an entry through the pointer with the given number among those obtained so far. -/
  | write (pointer : Nat) (entry : α)
  /-- Takes handles and entries as long as more are wanted, in view of what has been taken. -/
  | all (wants : List (UInt32 × Option α) → Bool)
  /-- Takes entries as long as more are wanted, in view of what has been taken. -/
  | values (wants : List (Option α) → Bool)

/-- Whether the call adds to the number of entries. -/
def Call.isPush : Call α → Bool
  | .push _ => true
  | _ => false

/-- What is seen of a call. Behind a pointer there may be a cell in which nothing was ever
stored. -/
inductive Answer (α : Type) where
  /-- The handle of the new entry. -/
  | pushed (handle : UInt32)
  /-- What is behind the pointer, if there is one. -/
  | got (entry : Option (Option α))
  /-- Nothing is seen of a write. -/
  | written
  /-- The handles that were taken, with what is behind their pointers. -/
  | all (seen : List (UInt32 × Option α))
  /-- What is behind the pointers that were taken. -/
  | values (seen : List (Option α))
deriving DecidableEq, Repr

/-- The operations of a store of entries. -/
structure Api (σ π α : Type) where
  /-- Appends an entry, and gives its handle. -/
  push : σ → α → Except Stop (σ × UInt32)
  /-- The pointer to the entry with the given handle. -/
  get : σ → UInt32 → Except Stop (Option π)
  /-- What is read through a pointer. -/
  read : σ → π → Option α
  /-- Writes through a pointer. -/
  write : σ → π → α → σ
  /-- Hands out handles and pointers, until they are no longer wanted. -/
  all : σ → (List (UInt32 × π) → Bool) → Except Stop (List (UInt32 × π))
  /-- Hands out pointers, until they are no longer wanted. -/
  values : σ → (List π → Bool) → Except Stop (List π)

/-- A store, and the pointers that were obtained from it. -/
structure Desk (σ π : Type) where
  /-- The store. -/
  store : σ
  /-- The pointers obtained so far, in order. -/
  pointers : List π
deriving DecidableEq, Repr

namespace Api

/-- A call. -/
def perform (api : Api σ π α) (desk : Desk σ π) : Call α → Except Stop (Desk σ π × Answer α)
  | .push entry => do
    let (store, handle) ← api.push desk.store entry
    pure ({ desk with store }, .pushed handle)
  | .get handle => do
    let pointer ← api.get desk.store handle
    pure ({ desk with pointers := desk.pointers ++ pointer.toList },
      .got (pointer.map (api.read desk.store)))
  | .write pointer entry =>
    match desk.pointers[pointer]? with
    | none => pure (desk, .written)
    | some pointer => pure ({ desk with store := api.write desk.store pointer entry }, .written)
  | .all wants => do
    let look := fun (taken : UInt32 × π) => (taken.1, api.read desk.store taken.2)
    let seen ← api.all desk.store fun seen => wants (seen.map look)
    pure ({ desk with pointers := desk.pointers ++ seen.map Prod.snd }, .all (seen.map look))
  | .values wants => do
    let look := api.read desk.store
    let seen ← api.values desk.store fun seen => wants (seen.map look)
    pure ({ desk with pointers := desk.pointers ++ seen }, .values (seen.map look))

/-- Calls one after the other, with their answers. -/
def run (api : Api σ π α) (desk : Desk σ π) :
    List (Call α) → Except Stop (Desk σ π × List (Answer α))
  | [] => pure (desk, [])
  | call :: rest => do
    let (next, answer) ← api.perform desk call
    let (last, answers) ← run api next rest
    pure (last, answer :: answers)

end Api

/-- The arena in memory. -/
def memory : Api (Layout α) Place α where
  push := Layout.push
  get := Layout.get
  read := Layout.read
  write := Layout.write
  all := Layout.all
  values := Layout.values

/-- The arena of chunks, where a handle takes the part of a pointer. -/
def chunked : Api (Arena α) Nat α where
  push arena entry := .ok (arena.push entry, UInt32.ofNat arena.size)
  get arena handle := .ok ((arena.get? handle.toNat).map fun _ => handle.toNat)
  read := get?
  write := set
  all arena wants :=
    .ok (attend wants (arena.all.map fun (handle, _) => (UInt32.ofNat handle, handle)))
  values arena wants := .ok (attend wants (arena.all.map Prod.fst))

/-! ## The flat list -/

/-- A flat list of entries, and the handles of the pointers that were obtained from it. -/
structure Flat (α : Type) where
  /-- The entries. -/
  entries : List α
  /-- The handles, in the order in which they were obtained. -/
  handles : List Nat
deriving DecidableEq, Repr

namespace Flat

/-- The list without entries. -/
def empty : Flat α := ⟨[], []⟩

/-- A call. -/
def perform (flat : Flat α) : Call α → Flat α × Answer α
  | .push entry =>
    ({ flat with entries := flat.entries ++ [entry] },
      .pushed (UInt32.ofNat flat.entries.length))
  | .get handle =>
    let found := if handle.toNat < flat.entries.length then [handle.toNat] else []
    ({ flat with handles := flat.handles ++ found }, .got (flat.entries[handle.toNat]?.map some))
  | .write pointer entry =>
    match flat.handles[pointer]? with
    | none => (flat, .written)
    | some handle => ({ flat with entries := flat.entries.set handle entry }, .written)
  | .all wants =>
    let seen := attend wants
      (flat.entries.zipIdx.map fun (entry, handle) => (UInt32.ofNat handle, some entry))
    ({ flat with handles := flat.handles ++ List.range seen.length }, .all seen)
  | .values wants =>
    let seen := attend wants (flat.entries.map some)
    ({ flat with handles := flat.handles ++ List.range seen.length }, .values seen)

/-- Calls one after the other, with their answers. -/
def run (flat : Flat α) : List (Call α) → Flat α × List (Answer α)
  | [] => (flat, [])
  | call :: rest =>
    let (next, answer) := flat.perform call
    let (last, answers) := next.run rest
    (last, answer :: answers)

/-- The handles are those of entries. -/
def Known (flat : Flat α) : Prop :=
  ∀ handle ∈ flat.handles, handle < flat.entries.length

theorem length_perform (flat : Flat α) (call : Call α) :
    (flat.perform call).1.entries.length =
      flat.entries.length + if call.isPush then 1 else 0 := by
  cases call with
  | push entry => simp [perform, Call.isPush]
  | get handle => rfl
  | write pointer entry =>
    rw [perform]
    cases flat.handles[pointer]? <;> simp [Call.isPush]
  | all wants => rfl
  | values wants => rfl

/-- Handles stay those of entries. -/
theorem Known.perform {flat : Flat α} (known : flat.Known) (call : Call α) :
    (flat.perform call).1.Known := by
  have more : ∀ {found : List Nat}, (∀ handle ∈ found, handle < flat.entries.length) →
      ∀ handle ∈ flat.handles ++ found, handle < flat.entries.length := by
    intro found new handle member
    exact (List.mem_append.mp member).elim (known handle) (new handle)
  cases call with
  | push entry =>
    intro handle member
    have before := known handle member
    simp only [Flat.perform, List.length_append, List.length_singleton]
    omega
  | get handle =>
    refine more ?_
    split
    · simpa using ‹_›
    · simp
  | write pointer entry =>
    rw [Flat.perform]
    cases flat.handles[pointer]? with
    | none => exact known
    | some handle =>
      intro other member
      rw [List.length_set]
      exact known other member
  | all wants =>
    refine more fun handle member => ?_
    have fewer := (attend_isPrefix wants
      (flat.entries.zipIdx.map fun (entry, handle) => (UInt32.ofNat handle, some entry))).length_le
    rw [List.length_map, List.length_zipIdx] at fewer
    exact (List.mem_range.mp member).trans_le fewer
  | values wants =>
    refine more fun handle member => ?_
    have fewer := (attend_isPrefix wants (flat.entries.map some)).length_le
    rw [List.length_map] at fewer
    exact (List.mem_range.mp member).trans_le fewer

/-- Running through the numbers of the entries is running through the entries. -/
theorem map_range_entries {β : Type} (entries : List α) (look : Nat → Option α → β) :
    ((List.range entries.length).map fun handle => look handle entries[handle]?) =
      entries.zipIdx.map fun (entry, handle) => look handle (some entry) := by
  apply List.ext_getElem
  · simp
  · intro position inside _
    rw [List.length_map, List.length_range] at inside
    simp [inside]

end Flat

/-! ## Refinement -/

/-- The operations do what they would do to a flat list; the pointer to an entry is the same at all
times. -/
structure Api.Refines (api : Api σ π α) (holds : σ → List α → Prop) (spot : Nat → π) : Prop where
  /-- An entry is appended, and its handle is the number of entries before. -/
  push : ∀ {store entries} entry, holds store entries → entries.length < 0x100000000 →
    ∃ next, api.push store entry = .ok (next, UInt32.ofNat entries.length) ∧
      holds next (entries ++ [entry])
  /-- There is a pointer exactly to every entry. -/
  get : ∀ {store entries} handle, holds store entries →
    api.get store handle =
      .ok (if handle.toNat < entries.length then some (spot handle.toNat) else none)
  /-- The entry is read. -/
  read : ∀ {store entries handle}, holds store entries → handle < entries.length →
    api.read store (spot handle) = entries[handle]?
  /-- The entry is replaced. -/
  write : ∀ {store entries handle} entry, holds store entries → handle < entries.length →
    holds (api.write store (spot handle) entry) (entries.set handle entry)
  /-- Handles and pointers are handed out in order. -/
  all : ∀ {store entries} wants, holds store entries →
    api.all store wants = .ok (attend wants
      ((List.range entries.length).map fun handle => (UInt32.ofNat handle, spot handle)))
  /-- Pointers are handed out in order. -/
  values : ∀ {store entries} wants, holds store entries →
    api.values store wants = .ok (attend wants ((List.range entries.length).map spot))

namespace Api.Refines

variable {api : Api σ π α} {holds : σ → List α → Prop} {spot : Nat → π}

/-- What is seen through the pointers to the entries is the entries. -/
theorem looked {β : Type} (refines : api.Refines holds spot) {store : σ} {entries : List α}
    (held : holds store entries) (look : Nat → Option α → β) :
    ((List.range entries.length).map fun handle => look handle (api.read store (spot handle))) =
      entries.zipIdx.map fun (entry, handle) => look handle (some entry) := by
  rw [← Flat.map_range_entries]
  apply List.map_congr_left
  intro handle member
  rw [refines.read held (List.mem_range.mp member)]

/-- A call has the answer that it has on the flat list. -/
theorem perform (refines : api.Refines holds spot) {store : σ} {flat : Flat α}
    (held : holds store flat.entries) (known : flat.Known) (call : Call α)
    (room : call.isPush → flat.entries.length < 0x100000000) :
    ∃ next, api.perform ⟨store, flat.handles.map spot⟩ call =
        .ok (⟨next, (flat.perform call).1.handles.map spot⟩, (flat.perform call).2) ∧
      holds next (flat.perform call).1.entries := by
  cases call with
  | push entry =>
    obtain ⟨next, pushed, held⟩ := refines.push entry held (room rfl)
    refine ⟨next, ?_, held⟩
    simp only [Api.perform, pushed]
    rfl
  | get handle =>
    refine ⟨store, ?_, held⟩
    simp only [Api.perform, refines.get handle held, Flat.perform]
    by_cases inside : handle.toNat < flat.entries.length
    · have read := refines.read held inside
      simp only [if_pos inside, List.getElem?_eq_getElem inside] at read ⊢
      change Except.ok _ = _
      simp [read]
    · simp only [if_neg inside, List.getElem?_eq_none (Nat.le_of_not_lt inside)]
      change Except.ok _ = _
      simp
  | write pointer entry =>
    simp only [Api.perform, Flat.perform, List.getElem?_map]
    cases found : flat.handles[pointer]? with
    | none => exact ⟨store, rfl, held⟩
    | some handle =>
      have inside := known handle (List.mem_of_getElem? found)
      exact ⟨_, rfl, refines.write entry held inside⟩
  | all wants =>
    refine ⟨store, ?_, held⟩
    let look := fun taken : UInt32 × π => (taken.1, api.read store taken.2)
    let item := fun handle => (UInt32.ofNat handle, spot handle)
    have looked : (List.range flat.entries.length).map (look ∘ item) = _ :=
      refines.looked held fun handle entry => (UInt32.ofNat handle, entry)
    obtain ⟨seen, numbered⟩ := attend_looked looked wants
    simp only [Api.perform, Flat.perform, refines.all _ held]
    change Except.ok (_, Answer.all (List.map look _)) = _
    rw [seen, numbered, List.map_map, List.map_append]
    rfl
  | values wants =>
    refine ⟨store, ?_, held⟩
    have looked : (List.range flat.entries.length).map (api.read store ∘ spot) = _ :=
      refines.looked held fun _ entry => entry
    have entries : (flat.entries.zipIdx.map fun (entry, _) => some entry) =
        flat.entries.map some := by
      rw [← List.zipIdx_map_fst 0 flat.entries, List.map_map, List.zipIdx_map_fst]
      rfl
    rw [entries] at looked
    obtain ⟨seen, numbered⟩ := attend_looked looked wants
    simp only [Api.perform, Flat.perform, refines.values _ held]
    change Except.ok (_, Answer.values (List.map (api.read store) _)) = _
    rw [seen, numbered, List.map_append]

/-- Calls have the answers that they have on the flat list, as long as there are not too many
entries. -/
theorem run (refines : api.Refines holds spot) {store : σ} {flat : Flat α}
    (held : holds store flat.entries) (known : flat.Known) (calls : List (Call α))
    (room : flat.entries.length + calls.countP Call.isPush ≤ 0x100000000) :
    ∃ last, api.run ⟨store, flat.handles.map spot⟩ calls =
        .ok (⟨last, (flat.run calls).1.handles.map spot⟩, (flat.run calls).2) ∧
      holds last (flat.run calls).1.entries := by
  induction calls generalizing store flat with
  | nil => exact ⟨store, rfl, held⟩
  | cons call rest ih =>
    rw [List.countP_cons] at room
    have free : call.isPush → flat.entries.length < 0x100000000 := by
      intro push
      rw [if_pos push] at room
      omega
    obtain ⟨next, performed, held⟩ := refines.perform held known call free
    have length := flat.length_perform call
    obtain ⟨last, ran, held⟩ := ih held (known.perform call) (by omega)
    refine ⟨last, ?_, held⟩
    simp only [Api.run, performed]
    change (do
      let (last, answers) ← api.run _ rest
      pure (last, _ :: answers)) = _
    rw [ran]
    rfl

end Api.Refines

theorem memory_refines : memory.Refines
    (fun (layout : Layout α) entries =>
      ∃ arena reserve, layout = laidOut arena reserve ∧ arena.toList = entries) .ofHandle where
  push := by
    rintro _ _ entry ⟨arena, reserve, rfl, rfl⟩ room
    rw [length_toList] at room
    obtain ⟨reserve', pushed⟩ := push_laidOut room reserve entry
    refine ⟨_, ?_, arena.push entry, reserve', rfl, toList_push arena entry⟩
    rw [length_toList]
    exact pushed
  get := by
    rintro _ _ handle ⟨arena, reserve, rfl, rfl⟩
    rw [length_toList]
    exact get_laidOut handle
  read := by
    rintro _ _ handle ⟨arena, reserve, rfl, rfl⟩ inside
    rw [← get?_eq_getElem?]
    exact read_laidOut (by rwa [length_toList] at inside)
  write := by
    rintro _ _ handle entry ⟨arena, reserve, rfl, rfl⟩ inside
    exact ⟨arena.set handle entry, reserve, write_laidOut (by rwa [length_toList] at inside) entry,
      toList_set arena handle entry⟩
  all := by
    rintro _ _ wants ⟨arena, reserve, rfl, rfl⟩
    rw [length_toList]
    exact all_laidOut wants
  values := by
    rintro _ _ wants ⟨arena, reserve, rfl, rfl⟩
    rw [length_toList]
    exact values_laidOut wants

theorem map_fst_all (arena : Arena α) : arena.all.map Prod.fst = List.range arena.size := by
  rw [all, List.map_map, ← length_toList, List.range_eq_range', ← List.zipIdx_map_snd]
  rfl

theorem chunked_refines :
    chunked.Refines (fun (arena : Arena α) entries => arena.toList = entries) id where
  push := by
    rintro arena _ entry rfl room
    exact ⟨arena.push entry, by rw [length_toList]; rfl, toList_push arena entry⟩
  get := by
    rintro arena _ handle rfl
    change Except.ok _ = _
    rw [get?_eq_getElem?]
    by_cases inside : handle.toNat < arena.toList.length
    · rw [List.getElem?_eq_getElem inside, if_pos inside]
      rfl
    · rw [List.getElem?_eq_none (Nat.le_of_not_lt inside), if_neg inside]
      rfl
  read := by
    rintro arena _ handle rfl inside
    exact get?_eq_getElem? arena handle
  write := by
    rintro arena _ handle entry rfl inside
    exact toList_set arena handle entry
  all := by
    rintro arena _ wants rfl
    rw [length_toList, ← map_fst_all, List.map_map]
    rfl
  values := by
    rintro arena _ wants rfl
    rw [length_toList, ← map_fst_all, List.map_id]
    rfl

/-- Whatever is done to a new arena, with no more entries than there are handles, is answered as by
a flat list. Nothing stops the program, the chunks keep their shape, and the pointer to an entry,
then and later, is the place that its handle tells. -/
theorem run_flat (hint : UInt64) (calls : List (Call α))
    (few : calls.countP Call.isPush ≤ 0x100000000) :
    ∃ layout arena reserve,
      memory.run ⟨.new hint, []⟩ calls =
        .ok (⟨layout, (Flat.empty.run calls).1.handles.map .ofHandle⟩,
          (Flat.empty.run calls).2) ∧
      chunked.run ⟨empty, []⟩ calls =
        .ok (⟨arena, (Flat.empty.run calls).1.handles⟩, (Flat.empty.run calls).2) ∧
      arena.toList = (Flat.empty.run calls).1.entries ∧
      layout = laidOut arena reserve ∧
      layout.Shaped ∧
      ∀ handle : UInt32, layout.get handle =
        .ok (if handle.toNat < arena.size then some (.ofHandle handle.toNat) else none) := by
  have known : (Flat.empty : Flat α).Known := by
    intro handle member
    cases member
  have room : (Flat.empty : Flat α).entries.length + calls.countP Call.isPush ≤ 0x100000000 := by
    change 0 + _ ≤ _
    omega
  obtain ⟨layout, ran, arena, reserve, rfl, entries⟩ :=
    memory_refines.run ⟨empty, _, new_eq_laidOut hint, toList_empty⟩ known calls room
  obtain ⟨arena', ran', entries'⟩ := chunked_refines.run toList_empty known calls room
  obtain rfl := toList_injective (entries.trans entries'.symm)
  simp only [List.map_id] at ran'
  exact ⟨_, arena, reserve, ran, ran', entries, rfl, shaped_laidOut arena reserve, get_laidOut⟩

/-- The sixty-fifth entry begins a chunk, and the pointers to those before stay what they were. -/
theorem run_flat_chunk :
    ∃ layout arena reserve,
      memory.run ⟨.new 0, []⟩ (.push 100 :: .get 0 :: (List.range 64).map .push ++
          [.write 0 7, .get 0, .get 64, .get 65, .values fun seen => seen.length < 2]) =
        .ok (⟨layout, [⟨0, 0⟩, ⟨0, 0⟩, ⟨1, 0⟩, ⟨0, 0⟩, ⟨0, 1⟩]⟩,
          .pushed 0 :: .got (some (some 100)) ::
            ((List.range 64).map fun index => .pushed (UInt32.ofNat (index + 1))) ++
            [.written, .got (some (some 7)), .got (some (some 63)), .got none,
              .values [some 7, some 0]]) ∧
      arena.toList = 7 :: List.range 64 ∧ layout = laidOut arena reserve := by
  obtain ⟨layout, arena, reserve, ran, _, entries, laid, _⟩ :=
    run_flat (α := Nat) 0 (.push 100 :: .get 0 :: (List.range 64).map .push ++
      [.write 0 7, .get 0, .get 64, .get 65, .values fun seen => seen.length < 2]) (by decide)
  exact ⟨layout, arena, reserve, ran, entries, laid⟩

end Arena
end Blockwork
