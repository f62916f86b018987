import Blockwork.Text.Bytes

/-!
# MessagePack

The binary format of snapshots. A packed value is a tree; writing it uses the shortest form for
lengths and the full size for numbers, reading accepts every form. Maps are kept flat, each key
followed by its value.
-/

namespace Blockwork

/-- A value of the format. -/
inductive Packed where
  /-- No value. -/
  | nil
  /-- A truth value. -/
  | bool (flag : Bool)
  /-- A small number in one byte: 0 to 127 or, as 224 to 255, -32 to -1. -/
  | small (byte : UInt8)
  /-- An unsigned number in `2 ^ size` bytes. -/
  | unsigned (size : Nat) (number : Nat)
  /-- A signed number in `2 ^ size` bytes. -/
  | signed (size : Nat) (number : Int)
  /-- A binary fraction of `2 ^ size` bytes. -/
  | float (size : Nat) (bits : Nat)
  /-- A text. -/
  | text (bytes : Bytes)
  /-- A byte string. -/
  | binary (bytes : Bytes)
  /-- A list. -/
  | array (items : List Packed)
  /-- A map: keys and values in turn. -/
  | map (items : List Packed)
  /-- An extension of the given type. -/
  | extension (type : UInt8) (bytes : Bytes)
deriving Repr

namespace Packed

/-- The number that bytes spell, most significant first. -/
def number (bytes : Bytes) : Nat :=
  bytes.foldl (fun value byte => value * 256 + byte.toNat) 0

/-- The number that bytes spell in two's complement. -/
def integer (bytes : Bytes) : Int :=
  let value := number bytes
  let bound := Nat.pow 256 bytes.length
  if 2 * value < bound then value else (value : Int) - bound

/-- A length after the first of three codes for lengths of one, two and four bytes. -/
def longLength (code : UInt8) (length : Nat) : Bytes :=
  if length < 0x100 then code :: Bytes.bigEndian 1 length
  else if length < 0x10000 then (code + 1) :: Bytes.bigEndian 2 length
  else (code + 2) :: Bytes.bigEndian 4 length

/-- The beginning of a text of the given length. -/
def textHead (length : Nat) : Bytes :=
  if length < 32 then [0xA0 + UInt8.ofNat length] else longLength 0xD9 length

/-- The beginning of a list or map with the given number of entries: in one byte, or after the
first of two codes for lengths of two and four bytes. -/
def listHead (short long : UInt8) (length : Nat) : Bytes :=
  if length < 16 then [short + UInt8.ofNat length]
  else if length < 0x10000 then long :: Bytes.bigEndian 2 length
  else (long + 1) :: Bytes.bigEndian 4 length

/-- The beginning of an extension of the given length. -/
def extensionHead (length : Nat) : Bytes :=
  if length = 1 then [0xD4]
  else if length = 2 then [0xD5]
  else if length = 4 then [0xD6]
  else if length = 8 then [0xD7]
  else if length = 16 then [0xD8]
  else longLength 0xC7 length

mutual

/-- The bytes of a value. -/
def encode : Packed → Bytes
  | .nil => [0xC0]
  | .bool flag => [if flag then 0xC3 else 0xC2]
  | .small byte => [byte]
  | .unsigned size value => (0xCC + UInt8.ofNat size) :: Bytes.bigEndian (Nat.pow 2 size) value
  | .signed size value =>
    let bytes := Nat.pow 2 size
    (0xD0 + UInt8.ofNat size) :: Bytes.bigEndian bytes (value % (Nat.pow 256 bytes : Nat)).toNat
  | .float size bits => (0xC8 + UInt8.ofNat size) :: Bytes.bigEndian (Nat.pow 2 size) bits
  | .text bytes => textHead bytes.length ++ bytes
  | .binary bytes => longLength 0xC4 bytes.length ++ bytes
  | .array items => listHead 0x90 0xDC items.length ++ encodeAll items
  | .map items => listHead 0x80 0xDE (items.length / 2) ++ encodeAll items
  | .extension type bytes => extensionHead bytes.length ++ type :: bytes

/-- The bytes of values one after the other. -/
def encodeAll : List Packed → Bytes
  | [] => []
  | item :: rest => encode item ++ encodeAll rest

end

/-- Takes a number of bytes. -/
def take? (count : Nat) (bytes : Bytes) : Option (Bytes × Bytes) :=
  if bytes.length < count then none else some (bytes.take count, bytes.drop count)

/-- Takes a number of the given number of bytes. -/
def takeNumber? (count : Nat) (bytes : Bytes) : Option (Nat × Bytes) :=
  (take? count bytes).map fun (taken, rest) => (number taken, rest)

/-- Takes a byte string after its length, which has the given number of bytes. -/
def takeString? (count : Nat) (bytes : Bytes) : Option (Bytes × Bytes) := do
  let (length, rest) ← takeNumber? count bytes
  take? length rest

/-- Takes an extension of the given length: its type and its content. -/
def takeExtension? (length : Nat) (bytes : Bytes) : Option (Packed × Bytes) :=
  match bytes with
  | [] => none
  | type :: rest => (take? length rest).map fun (content, rest) => (.extension type content, rest)

/-- The number of items that follow the beginning of a list or map, if the code is one, along with
the constructor for them. -/
def listOf? (code : UInt8) (rest : Bytes) : Option ((List Packed → Packed) × Nat × Bytes) :=
  if 0x80 ≤ code ∧ code < 0x90 then some (.map, 2 * (code.toNat - 0x80), rest)
  else if 0x90 ≤ code ∧ code < 0xA0 then some (.array, code.toNat - 0x90, rest)
  else if code = 0xDC then (takeNumber? 2 rest).map fun (count, rest) => (.array, count, rest)
  else if code = 0xDD then (takeNumber? 4 rest).map fun (count, rest) => (.array, count, rest)
  else if code = 0xDE then (takeNumber? 2 rest).map fun (count, rest) => (.map, 2 * count, rest)
  else if code = 0xDF then (takeNumber? 4 rest).map fun (count, rest) => (.map, 2 * count, rest)
  else none

/-- The value that follows a code other than that of a list or map. -/
def leaf? (code : UInt8) (rest : Bytes) : Option (Packed × Bytes) :=
  if code < 0x80 ∨ 0xE0 ≤ code then some (.small code, rest)
  else if code < 0xA0 then none
  else if code < 0xC0 then
    (take? (code.toNat - 0xA0) rest).map fun (bytes, rest) => (.text bytes, rest)
  else if code = 0xC0 then some (.nil, rest)
  else if code = 0xC1 then none
  else if code < 0xC4 then some (.bool (code = 0xC3), rest)
  else if code < 0xC7 then
    (takeString? (Nat.pow 2 (code.toNat - 0xC4)) rest).map fun (bytes, rest) =>
      (.binary bytes, rest)
  else if code < 0xCA then do
    let (length, rest) ← takeNumber? (Nat.pow 2 (code.toNat - 0xC7)) rest
    takeExtension? length rest
  else if code < 0xCC then
    let size := code.toNat - 0xC8
    (takeNumber? (Nat.pow 2 size) rest).map fun (bits, rest) => (.float size bits, rest)
  else if code < 0xD0 then
    let size := code.toNat - 0xCC
    (takeNumber? (Nat.pow 2 size) rest).map fun (value, rest) => (.unsigned size value, rest)
  else if code < 0xD4 then
    let size := code.toNat - 0xD0
    (take? (Nat.pow 2 size) rest).map fun (bytes, rest) => (.signed size (integer bytes), rest)
  else if code < 0xD9 then takeExtension? (Nat.pow 2 (code.toNat - 0xD4)) rest
  else if code < 0xDC then
    (takeString? (Nat.pow 2 (code.toNat - 0xD9)) rest).map fun (bytes, rest) => (.text bytes, rest)
  else none

mutual

/-- Takes a value. The fuel bounds the number of values begun. -/
def takeValue? : Nat → Bytes → Option (Packed × Bytes)
  | _, [] => none
  | 0, _ => none
  | fuel + 1, code :: rest =>
    match listOf? code rest with
    | some (make, count, rest) =>
      match takeValues? fuel count rest with
      | some (items, rest) => some (make items, rest)
      | none => none
    | none => leaf? code rest

/-- Takes the given number of values. -/
def takeValues? : Nat → Nat → Bytes → Option (List Packed × Bytes)
  | _, 0, bytes => some ([], bytes)
  | 0, _ + 1, _ => none
  | fuel + 1, count + 1, bytes =>
    match takeValue? fuel bytes with
    | none => none
    | some (item, rest) =>
      match takeValues? fuel count rest with
      | some (items, rest) => some (item :: items, rest)
      | none => none

end

/-- The first value in a byte string; what follows it is ignored. Every value takes at least one
byte, so twice the length is fuel enough. -/
def decode? (bytes : Bytes) : Option Packed :=
  (takeValue? (2 * bytes.length + 1) bytes).map (·.1)

end Packed
end Blockwork
