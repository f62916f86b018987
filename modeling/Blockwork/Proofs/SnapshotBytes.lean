import Blockwork.Proofs.Packing
import Blockwork.Snapshot.Codec

/-!
# Snapshots read back

The bytes of a snapshot are read back as that snapshot: every field that is written is found under
its name, and every field that is left out is zero. Names and lists have to be short enough for
their lengths to fit four bytes.
-/

namespace Blockwork

/-! ## Records -/

namespace Packed

/-- A field of a record is found under its name. The field is given by how it is looked up in a
record and how it is set. -/
theorem readEntries_entry {α β : Type} (fields : Fields α) (name : String) (get : α → β)
    (set : α → β → α) (item : Reader β)
    (found : fields.lookup (utf8 name) = some fun packed record =>
      (item packed (get record)).bind fun field => some (set record field))
    {value : Packed} {record : α} {field : β} (back : item value (get record) = some field)
    (rest : List Packed) :
    readEntries fields (entry name value ++ rest) record =
      readEntries fields rest (set record field) := by
  simp [entry, readEntries, toBytes?, found, back]

/-- A field that may be left out has its value in any case, if it is left out only where the record
has that value already. -/
theorem readEntries_entryUnless {α β : Type} (fields : Fields α) (name : String) (get : α → β)
    (set : α → β → α) (item : Reader β)
    (found : fields.lookup (utf8 name) = some fun packed record =>
      (item packed (get record)).bind fun field => some (set record field))
    (same : ∀ record, set record (get record) = record) {zero : Bool} {value : Packed} {record : α}
    {field : β} (back : item value (get record) = some field)
    (omitted : zero = true → field = get record) (rest : List Packed) :
    readEntries fields (entryUnless zero name value ++ rest) record =
      readEntries fields rest (set record field) := by
  cases zero with
  | true => rw [omitted rfl, same, entryUnless, if_pos rfl, List.nil_append]
  | false =>
    rw [entryUnless, if_neg Bool.false_ne_true, readEntries_entry fields name get set item found back]

/-- Items that are read into nothing are read one by one. -/
theorem readItems_map {α β : Type} {item : Reader β} {zero : β} {write : α → Packed} {make : α → β}
    {list : List α} (back : ∀ entry ∈ list, item (write entry) zero = some (make entry)) :
    readItems item zero (list.map write) [] = some (list.map make) := by
  induction list with
  | nil => rfl
  | cons entry rest ih =>
    have tail := ih fun other member => back other (List.mem_cons_of_mem _ member)
    simp [readItems, back entry List.mem_cons_self, tail]

/-- A list that was written is read back, and an absent one is empty. -/
theorem readSlots_ofList {α β : Type} {item : Reader β} {zero : β} {write : α → Packed}
    {make : α → β} {list : List α}
    (back : ∀ entry ∈ list, item (write entry) zero = some (make entry)) :
    readSlots item zero (ofList (list.map write)) {} =
      some ⟨list.map make, list.length⟩ := by
  cases list with
  | nil => rfl
  | cons entry rest =>
    have all := readItems_map back
    rw [List.map_cons] at all ⊢
    simp [ofList, readSlots, all]

theorem toList_slots {α : Type} (list : List α) :
    (⟨list, list.length⟩ : Slots α).toList = list := by
  simp [Slots.toList]

/-- Entries of a map that can be written, at most the given number of them. -/
structure Entries (count : Nat) (items : List Packed) : Prop where
  /-- Keys and values come in pairs. -/
  paired : items.length % 2 = 0
  /-- There are not too many. -/
  few : items.length ≤ 2 * count
  /-- Each fits its form. -/
  sized : SizedAll items

theorem Entries.append {count count' : Nat} {items items' : List Packed}
    (left : Entries count items) (right : Entries count' items') :
    Entries (count + count') (items ++ items') := by
  refine ⟨?_, ?_, ?_⟩
  · rw [List.length_append, Nat.add_mod, left.paired, right.paired]
  · have few := left.few
    have few' := right.few
    rw [List.length_append]
    omega
  · rw [sizedAll_iff]
    intro item member
    rcases List.mem_append.mp member with inLeft | inRight
    · exact sizedAll_iff.mp left.sized item inLeft
    · exact sizedAll_iff.mp right.sized item inRight

theorem entries_entry {name : String} {value : Packed} (short : (utf8 name).length < 0x100000000)
    (sized : value.Sized) : Entries 1 (entry name value) :=
  ⟨by simp [entry], by simp [entry], by simp [entry, SizedAll, Sized, short, sized]⟩

theorem entries_entryUnless {zero : Bool} {name : String} {value : Packed}
    (short : (utf8 name).length < 0x100000000) (sized : zero = false → value.Sized) :
    Entries 1 (entryUnless zero name value) := by
  cases zero with
  | true => exact ⟨by simp [entryUnless], by simp [entryUnless], by simp [entryUnless, SizedAll]⟩
  | false => exact entries_entry short (sized rfl)

theorem Entries.sized_map {count : Nat} {items : List Packed} (entries : Entries count items)
    (few : count < 0x100000000) : (map items).Sized := by
  have bound := entries.few
  rw [Sized]
  exact ⟨entries.paired, by omega, entries.sized⟩

theorem sized_ofList {items : List Packed} (few : items.length < 0x100000000)
    (sized : ∀ item ∈ items, item.Sized) : (ofList items).Sized := by
  unfold ofList
  split
  · trivial
  · rw [Sized]
    exact ⟨few, sizedAll_iff.mpr sized⟩

end Packed

/-! ## Numbers -/

namespace Snapshot

theorem readUInt8_pack (value old : UInt8) : readUInt8 (packUInt8 value) old = some value := by
  have bound := value.toNat_lt
  have kept : ((value.toNat : Int) % 0x100).toNat = value.toNat := by omega
  simp [readUInt8, Packed.readNumber, packUInt8, Packed.toInt?, kept]

theorem readUInt16_pack (value old : UInt16) :
    readUInt16 (.unsigned 1 value.toNat) old = some value := by
  have bound := value.toNat_lt
  have kept : ((value.toNat : Int) % 0x10000).toNat = value.toNat := by omega
  simp [readUInt16, Packed.readNumber, Packed.toInt?, kept]

theorem readUInt32_pack (value old : UInt32) :
    readUInt32 (.unsigned 2 value.toNat) old = some value := by
  have bound := value.toNat_lt
  have kept : ((value.toNat : Int) % 0x100000000).toNat = value.toNat := by omega
  simp [readUInt32, Packed.readNumber, Packed.toInt?, kept]

theorem readUInt64_pack (value old : UInt64) :
    readUInt64 (.unsigned 3 value.toNat) old = some value := by
  have bound := value.toNat_lt
  have kept : ((value.toNat : Int) % 0x10000000000000000).toNat = value.toNat := by omega
  simp [readUInt64, Packed.readNumber, Packed.toInt?, kept]

theorem readInt32_pack (value old : Int32) : readInt32 (packInt32 value) old = some value := by
  simp [readInt32, Packed.readNumber, packInt32, Packed.toInt?]

theorem sized_packUInt8 (value : UInt8) : (packUInt8 value).Sized := by
  rw [packUInt8, Packed.Sized]
  exact ⟨by decide, value.toNat_lt⟩

theorem sized_packInt32 (value : Int32) : (packInt32 value).Sized := by
  have least := value.le_toInt
  have most := value.toInt_lt
  rw [packInt32, Packed.Sized]
  refine ⟨by decide, ?_, ?_⟩
  · change -(4294967296 : Int) ≤ 2 * value.toInt
    omega
  · change 2 * value.toInt < 4294967296
    omega

/-! ## Types, blocks and values -/

theorem readDescriptor_pack (type : Descriptor) :
    readDescriptor (packDescriptor type) .invalid = some type := by
  rw [readDescriptor, packDescriptor, Packed.readRecord,
    ← List.append_nil (Packed.entryUnless _ _ _),
    Packed.readEntries_entry descriptorFields "k" Descriptor.kind
      (fun type kind => { type with kind }) readUInt8 rfl (readUInt8_pack type.kind _),
    Packed.readEntries_entryUnless descriptorFields "w" Descriptor.width
      (fun type width => { type with width }) readUInt32 rfl (fun _ => rfl)
      (readUInt32_pack type.width _)]
  · rfl
  · exact fun zero => eq_of_beq zero

theorem readBlock_pack (block : SnapshotBlock) :
    readBlock (packBlock block) {} = some block := by
  rw [readBlock, packBlock, Packed.readRecord, List.append_assoc,
    ← List.append_nil (Packed.entryUnless _ "ret" _),
    Packed.readEntries_entry blockFields "t" SnapshotBlock.terminator
      (fun block terminator => { block with terminator }) readUInt8 rfl
      (readUInt8_pack block.terminator _),
    Packed.readEntries_entryUnless blockFields "bb" SnapshotBlock.target
      (fun block target => { block with target }) readInt32 rfl (fun _ => rfl)
      (readInt32_pack block.target _),
    Packed.readEntries_entryUnless blockFields "ret" SnapshotBlock.result
      (fun block result => { block with result }) readInt32 rfl (fun _ => rfl)
      (readInt32_pack block.result _)]
  · rfl
  · exact fun zero => eq_of_beq zero
  · exact fun zero => eq_of_beq zero

theorem readList_pack (numbers old : List Int32) :
    Packed.readList readInt32 0 (.array (numbers.map packInt32)) old = some numbers := by
  have items := Packed.readItems_map fun number (_ : number ∈ numbers) => readInt32_pack number 0
  simp [Packed.readList, Packed.readSlots, items, Packed.Slots.toList]

theorem readValue_pack (value : SnapshotValue) :
    readValue (packValue value) {} = some value := by
  simp only [readValue, packValue, Packed.readRecord, List.append_assoc]
  rw [← List.append_nil (Packed.entryUnless _ "r" _),
    Packed.readEntries_entry valueFields "k" SnapshotValue.kind
      (fun value kind => { value with kind }) readUInt8 rfl (readUInt8_pack value.kind _),
    Packed.readEntries_entry valueFields "bb" SnapshotValue.block
      (fun value block => { value with block }) readInt32 rfl (readInt32_pack value.block _),
    Packed.readEntries_entry valueFields "ty" SnapshotValue.type
      (fun value type => { value with type }) readDescriptor rfl (readDescriptor_pack value.type),
    Packed.readEntries_entryUnless valueFields "lit" SnapshotValue.literal
      (fun value literal => { value with literal }) readUInt64 rfl (fun _ => rfl)
      (readUInt64_pack value.literal _),
    Packed.readEntries_entryUnless valueFields "fn" SnapshotValue.callee
      (fun value callee => { value with callee }) Packed.readBytes rfl (fun _ => rfl) rfl,
    Packed.readEntries_entryUnless valueFields "args" SnapshotValue.arguments
      (fun value arguments => { value with arguments }) (Packed.readList readInt32 0) rfl
      (fun _ => rfl) (readList_pack value.arguments _),
    Packed.readEntries_entryUnless valueFields "l" SnapshotValue.left
      (fun value left => { value with left }) readInt32 rfl (fun _ => rfl)
      (readInt32_pack value.left _),
    Packed.readEntries_entryUnless valueFields "r" SnapshotValue.right
      (fun value right => { value with right }) readInt32 rfl (fun _ => rfl)
      (readInt32_pack value.right _)]
  · rfl
  · exact fun zero => eq_of_beq zero
  · exact fun zero => eq_of_beq zero
  · exact fun empty => List.isEmpty_iff.mp empty
  · exact fun empty => List.isEmpty_iff.mp empty
  · exact fun zero => eq_of_beq zero

/-! ## Functions and snapshots -/

/-- A function as it has been read after it was written. -/
def draftOf (function : SnapshotFunction) : FunctionDraft where
  name := function.name
  inputs := ⟨function.inputs, function.inputs.length⟩
  output := function.output
  blocks := ⟨function.blocks, function.blocks.length⟩
  values := ⟨function.values, function.values.length⟩

theorem finish_draftOf (function : SnapshotFunction) : (draftOf function).finish = function := by
  simp [draftOf, FunctionDraft.finish, Packed.toList_slots]

theorem readFunction_pack (function : SnapshotFunction) :
    readFunction (packFunction function) {} = some (draftOf function) := by
  have inputs : Packed.readSlots readDescriptor .invalid
      (Packed.ofList (function.inputs.map packDescriptor)) {} =
        some ⟨function.inputs.map id, function.inputs.length⟩ :=
    Packed.readSlots_ofList fun type _ => readDescriptor_pack type
  have blocks : Packed.readSlots readBlock {} (Packed.ofList (function.blocks.map packBlock)) {} =
      some ⟨function.blocks.map id, function.blocks.length⟩ :=
    Packed.readSlots_ofList fun block _ => readBlock_pack block
  have values : Packed.readSlots readValue {} (Packed.ofList (function.values.map packValue)) {} =
      some ⟨function.values.map id, function.values.length⟩ :=
    Packed.readSlots_ofList fun value _ => readValue_pack value
  rw [List.map_id] at inputs blocks values
  simp only [readFunction, packFunction, Packed.readRecord, List.append_assoc]
  rw [← List.append_nil (Packed.entry "values" _),
    Packed.readEntries_entry functionFields "name" FunctionDraft.name
      (fun draft name => { draft with name }) Packed.readBytes rfl rfl,
    Packed.readEntries_entry functionFields "in" FunctionDraft.inputs
      (fun draft inputs => { draft with inputs }) (Packed.readSlots readDescriptor .invalid) rfl
      inputs,
    Packed.readEntries_entry functionFields "out" FunctionDraft.output
      (fun draft output => { draft with output }) readDescriptor rfl
      (readDescriptor_pack function.output),
    Packed.readEntries_entry functionFields "blocks" FunctionDraft.blocks
      (fun draft blocks => { draft with blocks }) (Packed.readSlots readBlock {}) rfl blocks,
    Packed.readEntries_entry functionFields "values" FunctionDraft.values
      (fun draft values => { draft with values }) (Packed.readSlots readValue {}) rfl values]
  rfl

/-- What was written of a snapshot is read. -/
theorem read_pack (snapshot : Snapshot) :
    ∃ draft, read snapshot.pack {} = some draft ∧ draft.finish = snapshot := by
  have functions : Packed.readSlots readFunction {}
      (Packed.ofList (snapshot.functions.map packFunction)) {} =
        some ⟨snapshot.functions.map draftOf, snapshot.functions.length⟩ :=
    Packed.readSlots_ofList fun function _ => readFunction_pack function
  refine ⟨⟨snapshot.schema, snapshot.optimize,
    ⟨snapshot.functions.map draftOf, snapshot.functions.length⟩⟩, ?_, ?_⟩
  · simp only [read, pack, Packed.readRecord, List.append_assoc]
    rw [← List.append_nil (Packed.entry "funcs" _),
      Packed.readEntries_entry fields "schema" Draft.schema
        (fun draft schema => { draft with schema }) readUInt16 rfl
        (readUInt16_pack snapshot.schema _),
      Packed.readEntries_entry fields "opt" Draft.optimize
        (fun draft optimize => { draft with optimize }) Packed.readBool rfl rfl,
      Packed.readEntries_entry fields "funcs" Draft.functions
        (fun draft functions => { draft with functions }) (Packed.readSlots readFunction {}) rfl
        functions]
    rfl
  · simp [Draft.finish, Packed.Slots.toList, Function.comp_def, finish_draftOf]

/-! ## Sizes -/

/-- Whether names and lists are short enough for their lengths to fit four bytes. -/
structure Short (snapshot : Snapshot) : Prop where
  /-- There are not too many functions. -/
  functions : snapshot.functions.length < 0x100000000
  /-- Names are not too long. -/
  names : ∀ function ∈ snapshot.functions, function.name.length < 0x100000000
  /-- No function takes too many arguments. -/
  inputs : ∀ function ∈ snapshot.functions, function.inputs.length < 0x100000000
  /-- No function has too many blocks. -/
  blocks : ∀ function ∈ snapshot.functions, function.blocks.length < 0x100000000
  /-- No function has too many values. -/
  values : ∀ function ∈ snapshot.functions, function.values.length < 0x100000000
  /-- Names of functions that are called are not too long. -/
  callees : ∀ function ∈ snapshot.functions, ∀ value ∈ function.values,
    value.callee.length < 0x100000000
  /-- No call passes too many arguments. -/
  arguments : ∀ function ∈ snapshot.functions, ∀ value ∈ function.values,
    value.arguments.length < 0x100000000

theorem sized_packDescriptor (type : Descriptor) : (packDescriptor type).Sized := by
  refine ((Packed.entries_entry (by decide) (sized_packUInt8 _)).append
    (Packed.entries_entryUnless (by decide) fun _ => ?_)).sized_map (by decide)
  rw [Packed.Sized]
  exact ⟨by decide, type.width.toNat_lt⟩

theorem sized_packBlock (block : SnapshotBlock) : (packBlock block).Sized :=
  (((Packed.entries_entry (by decide) (sized_packUInt8 _)).append
    (Packed.entries_entryUnless (by decide) fun _ => sized_packInt32 _)).append
    (Packed.entries_entryUnless (by decide) fun _ => sized_packInt32 _)).sized_map (by decide)

theorem sized_packValue {value : SnapshotValue} (callee : value.callee.length < 0x100000000)
    (arguments : value.arguments.length < 0x100000000) : (packValue value).Sized := by
  have literal : (Packed.unsigned 3 value.literal.toNat).Sized := by
    rw [Packed.Sized]
    exact ⟨by decide, value.literal.toNat_lt⟩
  have list : (Packed.array (value.arguments.map packInt32)).Sized := by
    rw [Packed.Sized, List.length_map, Packed.sizedAll_iff]
    refine ⟨arguments, fun item member => ?_⟩
    obtain ⟨number, -, rfl⟩ := List.mem_map.mp member
    exact sized_packInt32 number
  have name : (Packed.text value.callee).Sized := by
    rw [Packed.Sized]
    exact callee
  exact ((((((((Packed.entries_entry (by decide) (sized_packUInt8 _)).append
    (Packed.entries_entry (by decide) (sized_packInt32 _))).append
    (Packed.entries_entry (by decide) (sized_packDescriptor _))).append
    (Packed.entries_entryUnless (by decide) fun _ => literal)).append
    (Packed.entries_entryUnless (by decide) fun _ => name)).append
    (Packed.entries_entryUnless (by decide) fun _ => list)).append
    (Packed.entries_entryUnless (by decide) fun _ => sized_packInt32 _)).append
    (Packed.entries_entryUnless (by decide) fun _ => sized_packInt32 _)).sized_map (by decide)

theorem sized_ofList_map {α : Type} {write : α → Packed} {list : List α}
    (few : list.length < 0x100000000) (sized : ∀ item ∈ list, (write item).Sized) :
    (Packed.ofList (list.map write)).Sized := by
  apply Packed.sized_ofList
  · rw [List.length_map]
    exact few
  · intro packed member
    obtain ⟨item, inside, rfl⟩ := List.mem_map.mp member
    exact sized item inside

theorem Short.sized {snapshot : Snapshot} (short : snapshot.Short) : snapshot.pack.Sized := by
  have functions : ∀ function ∈ snapshot.functions, (packFunction function).Sized := by
    intro function member
    have name : (Packed.text function.name).Sized := by
      rw [Packed.Sized]
      exact short.names function member
    exact (((((Packed.entries_entry (by decide) name).append
      (Packed.entries_entry (by decide) (sized_ofList_map (short.inputs function member)
        fun type _ => sized_packDescriptor type))).append
      (Packed.entries_entry (by decide) (sized_packDescriptor _))).append
      (Packed.entries_entry (by decide) (sized_ofList_map (short.blocks function member)
        fun block _ => sized_packBlock block))).append
      (Packed.entries_entry (by decide) (sized_ofList_map (short.values function member)
        fun value inside => sized_packValue (short.callees function member value inside)
          (short.arguments function member value inside)))).sized_map (by decide)
  have schema : (Packed.unsigned 1 snapshot.schema.toNat).Sized := by
    rw [Packed.Sized]
    exact ⟨by decide, snapshot.schema.toNat_lt⟩
  have flag : (Packed.bool snapshot.optimize).Sized := by rw [Packed.Sized]; trivial
  exact (((Packed.entries_entry (by decide) schema).append
    (Packed.entries_entry (by decide) flag)).append
    (Packed.entries_entry (by decide) (sized_ofList_map short.functions functions))).sized_map
      (by decide)

/-- The bytes of a snapshot spell that snapshot. -/
theorem decode?_encode {snapshot : Snapshot} (short : snapshot.Short) :
    decode? snapshot.encode = some snapshot := by
  obtain ⟨draft, read, rfl⟩ := snapshot.read_pack
  have whole := Packed.decode?_encode short.sized []
  rw [List.append_nil] at whole
  simp [decode?, encode, whole, read]

end Snapshot
end Blockwork
