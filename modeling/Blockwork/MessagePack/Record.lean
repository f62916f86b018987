import Blockwork.MessagePack

/-!
# Records in MessagePack

A record is written as a map from field names to values. It is read field by field into a record
that already has a value: a field that is not mentioned keeps it, one that is mentioned twice is
read twice. A record may also be given as a list of all its fields in order; an empty list and the
absence of a value stand for the record of zeros. The items of a list, too, are read into the items
that an earlier reading of the same field left at their places.
-/

namespace Blockwork
namespace Packed

/-- Reads a value into a record or field that has one already. -/
abbrev Reader (α : Type) := Packed → α → Option α

/-- The number of a value; the absence of a value is zero. -/
def toInt? : Packed → Option Int
  | .nil => some 0
  | .small byte => some (if byte < 0x80 then byte.toNat else (byte.toNat : Int) - 256)
  | .unsigned _ value => some value
  | .signed _ value => some value
  | _ => none

/-- The bytes of a text or byte string; the absence of a value is empty. -/
def toBytes? : Packed → Option Bytes
  | .nil => some []
  | .text bytes => some bytes
  | .binary bytes => some bytes
  | _ => none

/-- Reads a number, dropping the bits that the field has no room for. -/
def readNumber {α : Type} (wrap : Int → α) : Reader α := fun packed _ => packed.toInt?.map wrap

/-- Reads a text. -/
def readBytes : Reader Bytes := fun packed _ => packed.toBytes?

/-- Reads a truth value. -/
def readBool : Reader Bool
  | .nil, _ => some false
  | .bool flag, _ => some flag
  | _, _ => none

/-- Reads items one by one, each into the old item at its place or into a fresh one. -/
def readItems {α : Type} (item : Reader α) (zero : α) : List Packed → List α → Option (List α)
  | [], _ => some []
  | packed :: rest, old => do
    let first ← item packed (old.headD zero)
    let others ← readItems item zero rest old.tail
    pure (first :: others)

/-- A list that can be read into again. A shorter list leaves the items behind its end where they
are, for a longer one to start from. -/
structure Slots (α : Type) where
  /-- The items at all places that were ever read. -/
  items : List α := []
  /-- How many of them the list has now. -/
  length : Nat := 0
deriving DecidableEq, Repr

/-- The items of a list. -/
def Slots.toList {α : Type} (slots : Slots α) : List α := slots.items.take slots.length

/-- Reads a list. Its absence leaves nothing behind. -/
def readSlots {α : Type} (item : Reader α) (zero : α) : Reader (Slots α)
  | .nil, _ => some {}
  | .array items, old => do
    let read ← readItems item zero items old.items
    pure ⟨read ++ old.items.drop read.length, read.length⟩
  | _, _ => none

/-- Reads a list of items that do not depend on what was at their places. -/
def readList {α : Type} (item : Reader α) (zero : α) : Reader (List α) := fun packed _ => do
  let slots ← readSlots item zero packed {}
  pure slots.toList

/-- The fields of a record by name, each with the way it is read into the record. -/
abbrev Fields (α : Type) := List (Bytes × Reader α)

/-- Reads the entries of a map into a record; names that are no field are skipped. -/
def readEntries {α : Type} (fields : Fields α) : List Packed → α → Option α
  | key :: value :: rest, record => do
    let name ← key.toBytes?
    match fields.lookup name with
    | some read => readEntries fields rest (← read value record)
    | none => readEntries fields rest record
  | _, record => some record

/-- Reads all fields of a record in order. -/
def readInOrder {α : Type} : Fields α → List Packed → α → Option α
  | (_, read) :: fields, value :: rest, record => do
    readInOrder fields rest (← read value record)
  | _, _, record => some record

/-- Reads a record. -/
def readRecord {α : Type} (fields : Fields α) (zero : α) : Reader α
  | .nil, _ => some zero
  | .map items, record => readEntries fields items record
  | .array [], _ => some zero
  | .array (first :: rest), record =>
    if rest.length + 1 = fields.length then readInOrder fields (first :: rest) record else none
  | _, _ => none

/-- A field of a record as an entry of a map. -/
def entry (name : String) (value : Packed) : List Packed := [.text (utf8 name), value]

/-- A field that is left out if the condition holds. -/
def entryUnless (zero : Bool) (name : String) (value : Packed) : List Packed :=
  if zero then [] else entry name value

/-- A list, whose absence is written for the empty one. -/
def ofList (items : List Packed) : Packed := if items.isEmpty then .nil else .array items

end Packed
end Blockwork
