import Blockwork.Proofs.Interning
import Blockwork.Proofs.Words
import Mathlib.Data.List.Nodup

/-!
# The registry of types

Descriptors are interned one after the other, and a descriptor that is refused changes nothing.
However many there have been, types and numbers belong together one to one, for good. There are only
so many types, so the table has an end, and numbers of 32 bits are enough for it.
-/

namespace Blockwork

/-! ## All types -/

namespace Descriptor

/-- Every type there is. -/
def all : List Descriptor :=
  bool :: (List.range maxWidth).map fun width => int (UInt32.ofNat (width + 1))

theorem length_all : all.length = maxWidth + 1 := by
  rw [all, List.length_cons, List.length_map, List.length_range]

theorem toNat_ofNat_of_lt {width : Nat} (inside : width < maxWidth) :
    (UInt32.ofNat (width + 1)).toNat = width + 1 := by
  rw [UInt32.toNat_ofNat']
  exact Nat.mod_eq_of_lt (by unfold maxWidth at inside; omega)

theorem mem_all_iff {type : Descriptor} : type ∈ all ↔ type.Valid := by
  constructor
  · intro member
    rcases List.mem_cons.mp member with rfl | member
    · exact .inr ⟨rfl, rfl⟩
    · obtain ⟨width, inside, rfl⟩ := List.mem_map.mp member
      have bounded := List.mem_range.mp inside
      refine .inl ⟨rfl, ?_⟩
      rw [int, toNat_ofNat_of_lt bounded]
      omega
  · rintro (⟨kind, positive, bounded⟩ | ⟨kind, width⟩)
    · refine List.mem_cons_of_mem _ (List.mem_map.mpr ⟨type.width.toNat - 1, ?_, ?_⟩)
      · exact List.mem_range.mpr (by omega)
      · rw [Nat.sub_add_cancel positive, UInt32.ofNat_toNat, int, ← kind]
    · refine List.mem_cons.mpr (.inl ?_)
      rw [bool, ← kind, ← width]

theorem nodup_all : all.Nodup := by
  rw [all, List.nodup_cons]
  constructor
  · intro member
    obtain ⟨width, -, same⟩ := List.mem_map.mp member
    have kinds : (1 : UInt8) = 2 := congrArg Descriptor.kind same
    exact absurd kinds (by decide)
  · refine List.Nodup.map_on (fun first inside second inside' same => ?_) List.nodup_range
    have widths := congrArg (fun type : Descriptor => type.width.toNat) same
    simp only [int, toNat_ofNat_of_lt (List.mem_range.mp inside),
      toNat_ofNat_of_lt (List.mem_range.mp inside')] at widths
    exact Nat.succ.inj widths

end Descriptor

namespace Interner

/-! ## Calls in turn -/

/-- The interner after a descriptor has been presented; if it is refused, nothing changes. -/
def step (types : Interner) (type : Descriptor) : Interner :=
  match types.intern type with
  | .ok (types', _) => types'
  | .error _ => types

/-- The number that is answered when a descriptor is presented; none if it is refused. -/
def answer (types : Interner) (type : Descriptor) : TypeId :=
  match types.intern type with
  | .ok (_, id) => id
  | .error _ => TypeId.none

/-- The interner after descriptors have been presented in turn. -/
def run (types : Interner) (calls : List Descriptor) : Interner :=
  calls.foldl step types

variable {types : Interner} {type : Descriptor}

theorem intern_of_valid (types : Interner) (valid : type.Valid) :
    types.intern type = .ok (types.insert type) :=
  intern_eq_ok_iff.mpr ⟨valid, rfl⟩

theorem intern_of_not_valid (types : Interner) (invalid : ¬ type.Valid) :
    types.intern type = .error type.fault := by
  have refused : type.check = .error type.fault := if_neg invalid
  rw [intern_eq, refused]

theorem step_of_valid (types : Interner) (valid : type.Valid) :
    types.step type = (types.insert type).1 := by
  rw [step, intern_of_valid types valid]

theorem answer_of_valid (types : Interner) (valid : type.Valid) :
    types.answer type = (types.insert type).2 := by
  rw [answer, intern_of_valid types valid]

theorem step_of_not_valid (types : Interner) (invalid : ¬ type.Valid) :
    types.step type = types := by
  rw [step, intern_of_not_valid types invalid]

theorem answer_of_not_valid (types : Interner) (invalid : ¬ type.Valid) :
    types.answer type = TypeId.none := by
  rw [answer, intern_of_not_valid types invalid]

theorem extends_step (types : Interner) (type : Descriptor) : types.Extends (types.step type) := by
  by_cases valid : type.Valid
  · rw [step_of_valid types valid]
    exact extends_insert types type
  · rw [step_of_not_valid types valid]
    exact .refl types

/-- Numbers keep their meaning, whatever is presented later. -/
theorem extends_run (types : Interner) (calls : List Descriptor) :
    types.Extends (types.run calls) := by
  induction calls generalizing types with
  | nil => exact .refl types
  | cons call rest ih => exact (extends_step types call).trans (ih (types.step call))

namespace WellFormed

theorem step (known : types.WellFormed) (type : Descriptor) : (types.step type).WellFormed := by
  by_cases valid : type.Valid
  · rw [step_of_valid types valid]
    exact known.insert valid
  · rw [step_of_not_valid types valid]
    exact known

theorem run (known : types.WellFormed) (calls : List Descriptor) :
    (types.run calls).WellFormed := by
  induction calls generalizing types with
  | nil => exact known
  | cons call rest ih => exact ih (known.step call)

/-- The number that is answered names the type. -/
theorem lookup?_answer (known : types.WellFormed) (valid : type.Valid) :
    (types.step type).lookup? (types.answer type) = some type := by
  rw [step_of_valid types valid, answer_of_valid types valid]
  exact known.lookup?_insert valid

theorem answer_ne_none (known : types.WellFormed) (valid : type.Valid) :
    types.answer type ≠ TypeId.none :=
  (lookup?_eq_some_iff.mp (known.lookup?_answer valid)).1

/-- A type that is known is answered with its number, and nothing changes. -/
theorem intern_of_lookup? (known : types.WellFormed) {id : TypeId}
    (found : types.lookup? id = some type) : types.intern type = .ok (types, id) := by
  rw [intern_of_valid types (known.valid id type found), known.insert_of_lookup? found]

/-- Two answers are equal exactly if the types are, whatever is presented between the two. -/
theorem answer_eq_iff (known : types.WellFormed) {first second : Descriptor}
    (valid : first.Valid ∨ second.Valid) (between : List Descriptor) :
    types.answer first = ((types.step first).run between).answer second ↔ first = second := by
  have known' := (known.step first).run between
  by_cases valid₁ : first.Valid
  · have named : ((types.step first).run between).lookup? (types.answer first) = some first :=
      extends_run _ between _ _ (known.lookup?_answer valid₁)
    by_cases valid₂ : second.Valid
    · have named₁ := extends_step _ second _ _ named
      have named₂ := known'.lookup?_answer valid₂
      constructor
      · intro same
        rw [← same, named₁] at named₂
        exact Option.some.inj named₂
      · rintro rfl
        exact (known'.step first).lookup?_injective named₁ named₂
    · rw [answer_of_not_valid _ valid₂]
      exact iff_of_false (known.answer_ne_none valid₁) fun same => valid₂ (same ▸ valid₁)
  · have valid₂ := valid.resolve_left valid₁
    rw [answer_of_not_valid _ valid₁]
    exact iff_of_false (known'.answer_ne_none valid₂).symm fun same => valid₁ (same ▸ valid₂)

theorem name_of_lookup? {id : TypeId} (found : types.lookup? id = some type) :
    types.name id = type.spelling := by
  rw [name, found]

/-- Numbers are written differently. -/
theorem name_injective (known : types.WellFormed) {first second : TypeId}
    (named : (types.lookup? first).isSome) (named' : (types.lookup? second).isSome)
    (same : types.name first = types.name second) : first = second := by
  obtain ⟨type, found⟩ := Option.isSome_iff_exists.mp named
  obtain ⟨type', found'⟩ := Option.isSome_iff_exists.mp named'
  rw [name_of_lookup? found, name_of_lookup? found'] at same
  obtain rfl :=
    Descriptor.eq_of_spelling_eq (known.valid _ _ found) (known.valid _ _ found') same
  exact known.lookup?_injective found found'

/-- The table has room for every type and for the descriptor of none, and no more. -/
theorem size_le (known : types.WellFormed) : types.size ≤ Descriptor.maxWidth + 2 := by
  have listed : types.table.toList ⊆ Descriptor.invalid :: Descriptor.all := by
    intro type member
    rcases known.mem_table_iff.mp member with rfl | ⟨id, found⟩
    · exact List.mem_cons_self
    · exact List.mem_cons_of_mem _ (Descriptor.mem_all_iff.mpr (known.valid id type found))
  calc types.size = types.table.toList.length := Array.length_toList.symm
    _ ≤ (Descriptor.invalid :: Descriptor.all).length :=
      known.nodup_table.length_le_of_subset listed
    _ = Descriptor.maxWidth + 2 := by rw [List.length_cons, Descriptor.length_all]

end WellFormed

/-- A type that has been presented is known. -/
theorem exists_lookup?_run (known : types.WellFormed) {calls : List Descriptor}
    (valid : type.Valid) (presented : type ∈ calls) :
    ∃ id, (types.run calls).lookup? id = some type := by
  induction calls generalizing types with
  | nil => cases presented
  | cons call rest ih =>
    rcases List.mem_cons.mp presented with rfl | later
    · exact ⟨_, extends_run _ rest _ _ (known.lookup?_answer valid)⟩
    · exact ih (known.step call) later

/-- Presenting every type fills the table. -/
theorem size_run_all (known : types.WellFormed) :
    (types.run Descriptor.all).size = Descriptor.maxWidth + 2 := by
  have known' := known.run Descriptor.all
  refine Nat.le_antisymm known'.size_le ?_
  have fresh : (Descriptor.invalid :: Descriptor.all).Nodup :=
    List.nodup_cons.mpr
      ⟨fun member => invalid_not_valid (Descriptor.mem_all_iff.mp member), Descriptor.nodup_all⟩
  have listed :
      Descriptor.invalid :: Descriptor.all ⊆ (types.run Descriptor.all).table.toList := by
    intro type member
    rw [known'.mem_table_iff]
    rcases List.mem_cons.mp member with rfl | member
    · exact .inl rfl
    · exact .inr (exists_lookup?_run known (Descriptor.mem_all_iff.mp member) member)
  calc Descriptor.maxWidth + 2 = (Descriptor.invalid :: Descriptor.all).length := by
        rw [List.length_cons, Descriptor.length_all]
    _ ≤ (types.run Descriptor.all).table.toList.length := fresh.length_le_of_subset listed
    _ = (types.run Descriptor.all).size := Array.length_toList

/-! ## Counting with 32 bits -/

/-- What stops the program while it numbers types. -/
inductive Stop where
  /-- The number of descriptors does not fit into 32 bits. -/
  | overflow
  /-- A type that has to be there is refused. -/
  | refused (fault : Fault)
deriving DecidableEq, Repr

/-- The numbers of the built-in types. -/
structure Builtins where
  /-- No type. -/
  invalid : TypeId
  /-- Truth values. -/
  bool : TypeId
  /-- Integers of one bit. -/
  i1 : TypeId
  /-- Integers of 8 bits. -/
  i8 : TypeId
  /-- Integers of 16 bits. -/
  i16 : TypeId
  /-- Integers of 32 bits. -/
  i32 : TypeId
  /-- Integers of 64 bits. -/
  i64 : TypeId
deriving DecidableEq, Repr

namespace Counted

/-- A count as a number of 32 bits. -/
def fit (count : Nat) : Except Stop TypeId :=
  if count < 0x100000000 then .ok count else .error .overflow

/-- Appends a descriptor under the next number. -/
def append (types : Interner) (type : Descriptor) : Except Stop (Interner × TypeId) := do
  let id ← fit types.size
  pure ({ table := types.table.push type, index := (type, id) :: types.index }, id)

/-- The number of a type, or its refusal. -/
def intern (types : Interner) (type : Descriptor) :
    Except Stop (Except Fault (Interner × TypeId)) :=
  match type.check with
  | .error fault => pure (.error fault)
  | .ok () =>
    match types.index.lookup type with
    | some id => pure (.ok (types, id))
    | none => do
      let made ← append types type
      pure (.ok made)

/-- The number of a type that has to be there. -/
def require (types : Interner) (type : Descriptor) : Except Stop (Interner × TypeId) := do
  match ← intern types type with
  | .ok made => pure made
  | .error fault => .error (.refused fault)

/-- An interner with the built-in types, and their numbers. -/
def new : Except Stop (Interner × Builtins) := do
  let (types, invalid) ← append ⟨#[], []⟩ Descriptor.invalid
  let (types, bool) ← require types .bool
  let (types, i1) ← require types (.int 1)
  let (types, i8) ← require types (.int 8)
  let (types, i16) ← require types (.int 16)
  let (types, i32) ← require types (.int 32)
  let (types, i64) ← require types (.int 64)
  pure (types, { invalid, bool, i1, i8, i16, i32, i64 })

/-- The interner after descriptors have been presented in turn. -/
def run (types : Interner) : List Descriptor → Except Stop Interner
  | [] => .ok types
  | call :: rest => do
    match ← intern types call with
    | .ok (types, _) => run types rest
    | .error _ => run types rest

theorem new_eq : new = .ok (initial, ⟨0, 1, 2, 3, 4, 5, 6⟩) := rfl

theorem append_of_room {types : Interner} (room : types.size < 0x100000000) (type : Descriptor) :
    append types type = .ok (types.append type, types.size) := by
  rw [append, fit, if_pos room]
  rfl

theorem intern_of_room {types : Interner} (room : types.size < 0x100000000) (type : Descriptor) :
    intern types type = .ok (types.intern type) := by
  rw [intern, Interner.intern_eq]
  cases type.check with
  | error fault => rfl
  | ok _ =>
    rw [insert]
    cases types.index.lookup type with
    | some id => rfl
    | none =>
      rw [append_of_room room]
      rfl

end Counted

/-- A table of types is far shorter than numbers of 32 bits reach. -/
theorem WellFormed.room (known : types.WellFormed) : types.size < 0x100000000 :=
  Nat.lt_of_le_of_lt known.size_le (by decide)

theorem Counted.run_of_wellFormed (known : types.WellFormed) (calls : List Descriptor) :
    Counted.run types calls = .ok (types.run calls) := by
  induction calls generalizing types with
  | nil => rfl
  | cons call rest ih =>
    have later := ih (known.step call)
    rw [Counted.run, intern_of_room known.room call, Interner.run, List.foldl_cons,
      ← Interner.run, ← later, Interner.step]
    cases types.intern call <;> rfl

/-- Whatever is presented, counting with 32 bits never stops: making the interner does not, and
presenting descriptors does not, now or next. It gives what counting without a bound gives, and the
table is never longer than there are types. -/
theorem run_counted (calls : List Descriptor) :
    (∃ builtins, Counted.new = .ok (initial, builtins)) ∧
      Counted.run initial calls = .ok (initial.run calls) ∧
      (∀ type, Counted.intern (initial.run calls) type = .ok ((initial.run calls).intern type)) ∧
      (initial.run calls).size ≤ Nat.pow 2 23 + 2 := by
  have known := wellFormed_initial.run calls
  exact ⟨⟨_, Counted.new_eq⟩, Counted.run_of_wellFormed wellFormed_initial calls,
    Counted.intern_of_room known.room, known.size_le⟩

/-! ## Types and numbers -/

/-- Types and their numbers belong together one to one, for good. -/
structure Canonical (types : Interner) : Prop where
  /-- No descriptor stands in the table twice. -/
  nodup : types.table.toList.Nodup
  /-- The way back from a descriptor leads to its place in the table, and nowhere else. -/
  inverse : ∀ type id, types.index.lookup type = some id ↔ types.table[id]? = some type
  /-- The first place describes no type. -/
  first : types.table[0]? = some Descriptor.invalid
  /-- Every other place describes a type. -/
  checked : ∀ id type, id ≠ 0 → types.table[id]? = some type → type.check = .ok ()
  /-- A descriptor is interned exactly if it describes a type. -/
  accepts : ∀ type, (∃ made, types.intern type = .ok made) ↔ type.check = .ok ()
  /-- The number that a type is given names it from then on, whatever is presented later. -/
  names : ∀ type types' id later, types.intern type = .ok (types', id) →
    (types'.run later).lookup? id = some type
  /-- Two answers are the same exactly if the descriptors are, whatever is presented between the
  two. Of two descriptors that are both refused nothing is said. -/
  identifies : ∀ first second between, first.check = .ok () ∨ second.check = .ok () →
    (types.answer first = ((types.step first).run between).answer second ↔ first = second)
  /-- Interning a type again gives the number that it has, and changes nothing. -/
  again : ∀ type types' id later, types.intern type = .ok (types', id) →
    (types'.run later).intern type = .ok (types'.run later, id)
  /-- A number keeps its meaning, whatever is presented later. -/
  keeps : ∀ id type later, types.lookup? id = some type → (types.run later).lookup? id = some type
  /-- Numbers of types are written differently. -/
  spells : ∀ first second, (types.lookup? first).isSome → (types.lookup? second).isSome →
    types.name first = types.name second → first = second

theorem WellFormed.canonical (known : types.WellFormed) : types.Canonical where
  nodup := known.nodup_table
  inverse := known.inverse
  first := known.first
  checked id type positive found :=
    check_eq_ok_iff.mpr (known.valid id type (lookup?_eq_some_iff.mpr ⟨positive, found⟩))
  accepts type := by
    rw [check_eq_ok_iff]
    constructor
    · rintro ⟨made, interned⟩
      exact (intern_eq_ok_iff.mp interned).1
    · exact fun valid => ⟨_, intern_of_valid types valid⟩
  names type types' id later interned := by
    obtain ⟨valid, same⟩ := intern_eq_ok_iff.mp interned
    obtain ⟨rfl, rfl⟩ := Prod.mk.inj same
    exact extends_run _ later _ _ (known.lookup?_insert valid)
  identifies first second between valid := by
    rw [check_eq_ok_iff, check_eq_ok_iff] at valid
    exact known.answer_eq_iff valid between
  again type types' id later interned := by
    obtain ⟨valid, same⟩ := intern_eq_ok_iff.mp interned
    obtain ⟨rfl, rfl⟩ := Prod.mk.inj same
    exact ((known.insert valid).run later).intern_of_lookup?
      (extends_run _ later _ _ (known.lookup?_insert valid))
  keeps id type later found := extends_run types later id type found
  spells _ _ named named' same := known.name_injective named named' same

/-- After any descriptors have been presented to a new interner, types and numbers belong together
one to one, and the built-in types have the numbers that were given out when it was made. -/
theorem run_canonical (calls : List Descriptor) :
    (initial.run calls).Canonical ∧
      ∃ builtins, Counted.new = .ok (initial, builtins) ∧
        (initial.run calls).lookup? builtins.invalid = none ∧
        ∀ type id, (type, id) ∈ [(Descriptor.bool, builtins.bool), (.int 1, builtins.i1),
            (.int 8, builtins.i8), (.int 16, builtins.i16), (.int 32, builtins.i32),
            (.int 64, builtins.i64)] →
          (initial.run calls).intern type = .ok (initial.run calls, id) := by
  have known := wellFormed_initial.run calls
  refine ⟨known.canonical, _, Counted.new_eq, rfl, fun type id member => ?_⟩
  have named : ∀ entry ∈ [(Descriptor.bool, 1), (.int 1, 2), (.int 8, 3), (.int 16, 4),
      (.int 32, 5), (.int 64, 6)], initial.lookup? entry.2 = some entry.1 := by decide
  have found : initial.lookup? id = some type := named (type, id) member
  exact known.intern_of_lookup? (extends_run initial calls id type found)

end Interner
end Blockwork
