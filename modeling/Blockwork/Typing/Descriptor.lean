import Blockwork.Failure.Kind

/-!
# Type descriptors

A type is an integer of some width or a truth value. A descriptor is what is written down about a
type, by kind and width; not every descriptor describes a type.
-/

namespace Blockwork

/-- What is written down about a type. -/
structure Descriptor where
  /-- The kind of type: one for integers, two for truth values; every other code is none. -/
  kind : UInt8
  /-- The number of bits of an integer; zero for truth values. -/
  width : UInt32
deriving DecidableEq, Repr

namespace Descriptor

/-- The widest integer that can be represented. -/
def maxWidth : Nat := 0x800000

/-- The descriptor of integers of the given width. -/
def int (width : UInt32) : Descriptor := ⟨1, width⟩

/-- The descriptor of truth values. -/
def bool : Descriptor := ⟨2, 0⟩

/-- The descriptor of no type. -/
def invalid : Descriptor := ⟨0, 0⟩

/-- A descriptor describes a type if it is an integer of a width that can be represented, or a
truth value without a width. -/
def Valid (type : Descriptor) : Prop :=
  type.kind = 1 ∧ 1 ≤ type.width.toNat ∧ type.width.toNat ≤ maxWidth ∨
    type.kind = 2 ∧ type.width = 0

instance (type : Descriptor) : Decidable type.Valid :=
  inferInstanceAs (Decidable (_ ∨ _))

/-- The name of a kind. -/
def kindName (kind : UInt8) : Bytes :=
  if kind = 0 then utf8 "invalid"
  else if kind = 1 then utf8 "int"
  else if kind = 2 then utf8 "bool"
  else utf8 "Kind(" ++ Bytes.decimal kind.toNat ++ utf8 ")"

/-- What is wrong with a descriptor that describes no type. -/
def fault (type : Descriptor) : Fault where
  kind := .invalidType
  detail :=
    if type.kind = 1 then
      utf8 "integer width " ++ Bytes.decimal type.width.toNat ++ utf8 " outside [1, " ++
        Bytes.decimal maxWidth ++ utf8 "]"
    else if type.kind = 2 then utf8 "bool carries width " ++ Bytes.decimal type.width.toNat
    else utf8 "kind " ++ kindName type.kind

/-- Refuses a descriptor that describes no type. -/
def check (type : Descriptor) : Except Fault Unit :=
  if type.Valid then .ok () else .error type.fault

/-- The way a type is written. -/
def spelling (type : Descriptor) : Bytes :=
  if type.kind = 1 then utf8 "i" ++ Bytes.decimal type.width.toNat
  else if type.kind = 2 then utf8 "bool"
  else utf8 "<invalid>"

end Descriptor
end Blockwork
