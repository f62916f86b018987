import Blockwork.MessagePack.Record
import Blockwork.Snapshot.Restore
import Blockwork.Snapshot.Take

/-!
# Snapshots as bytes

The fields of a snapshot are written in order under short names. Numbers keep the size of their
field; fields that are often zero are left out when they are.
-/

namespace Blockwork
namespace Snapshot

/-- A number of eight bits. -/
def packUInt8 (value : UInt8) : Packed := .unsigned 0 value.toNat

/-- A signed number of thirty-two bits. -/
def packInt32 (value : Int32) : Packed := .signed 2 value.toInt

/-- A descriptor as a map. -/
def packDescriptor (type : Descriptor) : Packed :=
  .map (Packed.entry "k" (packUInt8 type.kind) ++
    Packed.entryUnless (type.width == 0) "w" (.unsigned 2 type.width.toNat))

/-- A block as a map. -/
def packBlock (block : SnapshotBlock) : Packed :=
  .map (Packed.entry "t" (packUInt8 block.terminator) ++
    Packed.entryUnless (block.target == 0) "bb" (packInt32 block.target) ++
    Packed.entryUnless (block.result == 0) "ret" (packInt32 block.result))

/-- A value as a map. -/
def packValue (value : SnapshotValue) : Packed :=
  .map (Packed.entry "k" (packUInt8 value.kind) ++
    Packed.entry "bb" (packInt32 value.block) ++
    Packed.entry "ty" (packDescriptor value.type) ++
    Packed.entryUnless (value.literal == 0) "lit" (.unsigned 3 value.literal.toNat) ++
    Packed.entryUnless value.callee.isEmpty "fn" (.text value.callee) ++
    Packed.entryUnless value.arguments.isEmpty "args" (.array (value.arguments.map packInt32)) ++
    Packed.entryUnless (value.left == 0) "l" (packInt32 value.left) ++
    Packed.entryUnless (value.right == 0) "r" (packInt32 value.right))

/-- A function as a map. -/
def packFunction (function : SnapshotFunction) : Packed :=
  .map (Packed.entry "name" (.text function.name) ++
    Packed.entry "in" (.ofList (function.inputs.map packDescriptor)) ++
    Packed.entry "out" (packDescriptor function.output) ++
    Packed.entry "blocks" (.ofList (function.blocks.map packBlock)) ++
    Packed.entry "values" (.ofList (function.values.map packValue)))

/-- A snapshot as a map. -/
def pack (snapshot : Snapshot) : Packed :=
  .map (Packed.entry "schema" (.unsigned 1 snapshot.schema.toNat) ++
    Packed.entry "opt" (.bool snapshot.optimize) ++
    Packed.entry "funcs" (.ofList (snapshot.functions.map packFunction)))

/-- Reads a number of eight bits. -/
def readUInt8 : Packed.Reader UInt8 :=
  Packed.readNumber fun value => UInt8.ofNat (value % 0x100).toNat

/-- Reads a number of sixteen bits. -/
def readUInt16 : Packed.Reader UInt16 :=
  Packed.readNumber fun value => UInt16.ofNat (value % 0x10000).toNat

/-- Reads a number of thirty-two bits. -/
def readUInt32 : Packed.Reader UInt32 :=
  Packed.readNumber fun value => UInt32.ofNat (value % 0x100000000).toNat

/-- Reads a number of sixty-four bits. -/
def readUInt64 : Packed.Reader UInt64 :=
  Packed.readNumber fun value => UInt64.ofNat (value % 0x10000000000000000).toNat

/-- Reads a signed number of thirty-two bits. -/
def readInt32 : Packed.Reader Int32 := Packed.readNumber Int32.ofInt

/-- The fields of a descriptor. -/
def descriptorFields : Packed.Fields Descriptor :=
  [(utf8 "k", fun packed type => do pure { type with kind := ← readUInt8 packed type.kind }),
   (utf8 "w", fun packed type => do pure { type with width := ← readUInt32 packed type.width })]

/-- Reads a descriptor. -/
def readDescriptor : Packed.Reader Descriptor :=
  Packed.readRecord descriptorFields .invalid

/-- The fields of a block. -/
def blockFields : Packed.Fields SnapshotBlock :=
  [(utf8 "t", fun packed block => do
      pure { block with terminator := ← readUInt8 packed block.terminator }),
   (utf8 "bb", fun packed block => do
      pure { block with target := ← readInt32 packed block.target }),
   (utf8 "ret", fun packed block => do
      pure { block with result := ← readInt32 packed block.result })]

/-- Reads a block. -/
def readBlock : Packed.Reader SnapshotBlock := Packed.readRecord blockFields {}

/-- The fields of a value. -/
def valueFields : Packed.Fields SnapshotValue :=
  [(utf8 "k", fun packed value => do
      pure { value with kind := ← readUInt8 packed value.kind }),
   (utf8 "bb", fun packed value => do
      pure { value with block := ← readInt32 packed value.block }),
   (utf8 "ty", fun packed value => do
      pure { value with type := ← readDescriptor packed value.type }),
   (utf8 "lit", fun packed value => do
      pure { value with literal := ← readUInt64 packed value.literal }),
   (utf8 "fn", fun packed value => do
      pure { value with callee := ← Packed.readBytes packed value.callee }),
   (utf8 "args", fun packed value => do
      pure { value with arguments := ← Packed.readList readInt32 0 packed value.arguments }),
   (utf8 "l", fun packed value => do
      pure { value with left := ← readInt32 packed value.left }),
   (utf8 "r", fun packed value => do
      pure { value with right := ← readInt32 packed value.right })]

/-- Reads a value. -/
def readValue : Packed.Reader SnapshotValue := Packed.readRecord valueFields {}

/-- A function as far as it has been read. -/
structure FunctionDraft where
  /-- Its name. -/
  name : Bytes := []
  /-- The types of its arguments. -/
  inputs : Packed.Slots Descriptor := {}
  /-- The type of its result. -/
  output : Descriptor := .invalid
  /-- Its blocks. -/
  blocks : Packed.Slots SnapshotBlock := {}
  /-- Its values. -/
  values : Packed.Slots SnapshotValue := {}
deriving DecidableEq, Repr

/-- The function that has been read. -/
def FunctionDraft.finish (draft : FunctionDraft) : SnapshotFunction where
  name := draft.name
  inputs := draft.inputs.toList
  output := draft.output
  blocks := draft.blocks.toList
  values := draft.values.toList

/-- The fields of a function. -/
def functionFields : Packed.Fields FunctionDraft :=
  [(utf8 "name", fun packed draft => do
      pure { draft with name := ← Packed.readBytes packed draft.name }),
   (utf8 "in", fun packed draft => do
      pure { draft with inputs := ← Packed.readSlots readDescriptor .invalid packed draft.inputs }),
   (utf8 "out", fun packed draft => do
      pure { draft with output := ← readDescriptor packed draft.output }),
   (utf8 "blocks", fun packed draft => do
      pure { draft with blocks := ← Packed.readSlots readBlock {} packed draft.blocks }),
   (utf8 "values", fun packed draft => do
      pure { draft with values := ← Packed.readSlots readValue {} packed draft.values })]

/-- Reads a function. -/
def readFunction : Packed.Reader FunctionDraft := Packed.readRecord functionFields {}

/-- A snapshot as far as it has been read. -/
structure Draft where
  /-- The version of the layout. -/
  schema : UInt16 := 0
  /-- Whether backends are asked to optimize. -/
  optimize : Bool := false
  /-- The functions. -/
  functions : Packed.Slots FunctionDraft := {}
deriving DecidableEq, Repr

/-- The snapshot that has been read. -/
def Draft.finish (draft : Draft) : Snapshot where
  schema := draft.schema
  optimize := draft.optimize
  functions := draft.functions.toList.map FunctionDraft.finish

/-- The fields of a snapshot. -/
def fields : Packed.Fields Draft :=
  [(utf8 "schema", fun packed draft => do
      pure { draft with schema := ← readUInt16 packed draft.schema }),
   (utf8 "opt", fun packed draft => do
      pure { draft with optimize := ← Packed.readBool packed draft.optimize }),
   (utf8 "funcs", fun packed draft => do
      pure { draft with functions := ← Packed.readSlots readFunction {} packed draft.functions })]

/-- Reads a snapshot. -/
def read : Packed.Reader Draft := Packed.readRecord fields {}

/-- The bytes of a snapshot. -/
def encode (snapshot : Snapshot) : Bytes := snapshot.pack.encode

/-- The snapshot that bytes spell; what follows it is ignored. -/
def decode? (bytes : Bytes) : Option Snapshot := do
  let draft ← read (← Packed.decode? bytes) {}
  pure draft.finish

end Snapshot

namespace Context

/-- A context as bytes. -/
def marshal (context : Context) : Option Bytes := context.take.map Snapshot.encode

/-- Why bytes are no context. -/
inductive UnmarshalError where
  /-- They spell no snapshot. -/
  | undecodable
  /-- The snapshot was refused. -/
  | refused (failure : Failure)
deriving DecidableEq, Repr

/-- The context that bytes spell. -/
def unmarshal (bytes : Bytes) : Except UnmarshalError Context :=
  match Snapshot.decode? bytes with
  | none => .error .undecodable
  | some snapshot =>
    match snapshot.restore with
    | .ok context => .ok context
    | .error failure => .error (.refused failure)

end Context
end Blockwork
