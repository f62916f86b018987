import Blockwork.Storage.Change
import Blockwork.Typing.Descriptor

/-!
# Interned types

Types are compared by number. The interner hands out the numbers: a descriptor seen for the first
time gets the next one, a descriptor seen before gets the one it has. Number zero names no type.
-/

namespace Blockwork

/-- The number of an interned type. -/
abbrev TypeId := Nat

/-- The number that names no type. -/
def TypeId.none : TypeId := 0

/-- The table of interned types and the way back from a descriptor to its number. -/
structure Interner where
  /-- The descriptors by number; the first describes no type. -/
  table : Array Descriptor
  /-- The number of each descriptor of the table. -/
  index : List (Descriptor × TypeId)
deriving DecidableEq, Repr

namespace Interner

/-- The number of interned descriptors, the one that describes no type included. -/
def size (interner : Interner) : Nat := interner.table.size

/-- Appends a descriptor under the next number. -/
def append (interner : Interner) (type : Descriptor) : Interner where
  table := interner.table.push type
  index := (type, interner.table.size) :: interner.index

/-- The number of a descriptor, with the interner that knows it. -/
def insert (interner : Interner) (type : Descriptor) : Interner × TypeId :=
  match interner.index.lookup type with
  | some id => (interner, id)
  | none => (interner.append type, interner.table.size)

/-- Writes a descriptor down under the next number. -/
def record (type : Descriptor) : Change Fault Interner TypeId := do
  let id := (← get).table.size
  modify fun interner => { interner with table := interner.table.push type }
  modify fun interner => { interner with index := (type, id) :: interner.index }
  pure id

/-- Finds the number of a type, or gives it one. A descriptor that describes no type is refused. -/
def present (type : Descriptor) : Change Fault Interner TypeId := do
  Change.ask fun _ => type.check
  match (← get).index.lookup type with
  | some id => pure id
  | none => record type

/-- The number of a type, with the interner that knows it. -/
def intern (interner : Interner) (type : Descriptor) : Except Fault (Interner × TypeId) :=
  (present type).outcome interner

/-- The types that every interner knows, in the order of their numbers from one on. -/
def builtins : List Descriptor :=
  [.bool, .int 1, .int 8, .int 16, .int 32, .int 64]

/-- The interner that knows the built-in types only. -/
def initial : Interner :=
  builtins.foldl (fun interner type => (interner.insert type).1)
    (append ⟨#[], []⟩ Descriptor.invalid)

instance : Inhabited Interner := ⟨initial⟩

/-- The number of the type of truth values. -/
def boolId : TypeId := 1

/-- The descriptor behind a number. -/
def lookup? (interner : Interner) (id : TypeId) : Option Descriptor :=
  if id = TypeId.none then .none else interner.table[id]?

/-- The way a type is written, by number. -/
def name (interner : Interner) (id : TypeId) : Bytes :=
  match interner.lookup? id with
  | some type => type.spelling
  | none => utf8 "<invalid>"

end Interner

/-- The types of a function: its inputs in order and its output. -/
structure Signature where
  /-- The types of the arguments. -/
  inputs : List TypeId
  /-- The type of the result. -/
  output : TypeId
deriving DecidableEq, Repr

namespace Signature

/-- The way a signature is written: inputs between brackets, an arrow, the output. -/
def spelling (signature : Signature) (interner : Interner) : Bytes :=
  utf8 "(" ++ Bytes.join (utf8 ", ") (signature.inputs.map interner.name) ++ utf8 ") -> " ++
    interner.name signature.output

/-- Whether the interner knows every type of a signature. -/
def Known (signature : Signature) (interner : Interner) : Prop :=
  (∀ input ∈ signature.inputs, (interner.lookup? input).isSome) ∧
    (interner.lookup? signature.output).isSome

instance (signature : Signature) (interner : Interner) : Decidable (signature.Known interner) :=
  inferInstanceAs (Decidable (_ ∧ _))

/-- Refuses a signature with a type that the interner does not know. -/
def check (signature : Signature) (interner : Interner) : Except Fault Unit :=
  if signature.Known interner then .ok () else .error { kind := .invalidType }

end Signature
end Blockwork
