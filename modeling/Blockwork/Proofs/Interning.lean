import Blockwork.Proofs.Changes
import Blockwork.Typing.Interner
import Mathlib.Data.List.Nodup
import Mathlib.Tactic.Common

/-!
# Laws of interning

The table of an interner and its way back are inverse to each other, so a descriptor has at most one
number. Interning only ever extends the table: a number keeps its meaning for good.
-/

namespace Blockwork
namespace Interner

/-- Table and way back belong together, and every number but the first names a type. -/
structure WellFormed (types : Interner) : Prop where
  /-- The way back from a descriptor leads to its place in the table. -/
  inverse : ∀ type id, types.index.lookup type = some id ↔ types.table[id]? = some type
  /-- The first place describes no type. -/
  first : types.table[0]? = some Descriptor.invalid
  /-- What a number names is a type. -/
  valid : ∀ id type, types.lookup? id = some type → type.Valid

/-- Every number keeps its meaning from one interner to another. -/
def Extends (before after : Interner) : Prop :=
  ∀ id type, before.lookup? id = some type → after.lookup? id = some type

theorem Extends.refl (types : Interner) : types.Extends types :=
  fun _ _ found => found

theorem Extends.trans {first second third : Interner} (early : first.Extends second)
    (late : second.Extends third) : first.Extends third :=
  fun id type found => late id type (early id type found)

theorem Extends.isSome {before after : Interner} (extends_ : before.Extends after) {id : TypeId}
    (known : (before.lookup? id).isSome) : (after.lookup? id).isSome := by
  obtain ⟨type, found⟩ := Option.isSome_iff_exists.mp known
  rw [extends_ id type found]
  rfl

theorem lookup?_eq_some_iff {types : Interner} {id : TypeId} {type : Descriptor} :
    types.lookup? id = some type ↔ id ≠ 0 ∧ types.table[id]? = some type := by
  unfold lookup? TypeId.none
  split <;> simp_all

theorem name_of_lookup? {types : Interner} {id : TypeId} {type : Descriptor}
    (found : types.lookup? id = some type) : types.name id = type.spelling := by
  rw [name, found]

theorem ne_size_of_found {types : Interner} {id : TypeId} {type : Descriptor}
    (found : types.table[id]? = some type) : id ≠ types.table.size :=
  Nat.ne_of_lt (Array.getElem?_eq_some_iff.mp found).choose

theorem invalid_not_valid : ¬ Descriptor.invalid.Valid := by decide

namespace WellFormed

variable {types : Interner}

/-- A type has one number only. -/
theorem lookup?_injective (known : types.WellFormed) {first second : TypeId} {type : Descriptor}
    (left : types.lookup? first = some type) (right : types.lookup? second = some type) :
    first = second := by
  have leftIndex := (known.inverse type first).mpr (lookup?_eq_some_iff.mp left).2
  have rightIndex := (known.inverse type second).mpr (lookup?_eq_some_iff.mp right).2
  exact Option.some.inj (leftIndex.symm.trans rightIndex)

theorem ne_zero_of_valid (known : types.WellFormed) {id : TypeId} {type : Descriptor}
    (valid : type.Valid) (found : types.table[id]? = some type) : id ≠ 0 := by
  rintro rfl
  rw [known.first] at found
  cases found
  exact invalid_not_valid valid

/-- Appending a type that is not in the table keeps table and way back together. -/
theorem append (known : types.WellFormed) {type : Descriptor} (valid : type.Valid)
    (fresh : types.index.lookup type = none) : (types.append type).WellFormed where
  inverse other id := by
    simp only [Interner.append, List.lookup_cons, Array.getElem?_push]
    by_cases same : other = type
    · subst same
      simp only [beq_self_eq_true, Option.some.injEq]
      constructor
      · rintro rfl
        simp
      · intro found
        split at found
        · exact Eq.symm ‹_›
        · rw [(known.inverse other id).mpr found] at fresh
          cases fresh
    · have differs : (other == type) = false := by simpa using same
      rw [differs]
      simp only [known.inverse other id]
      constructor
      · intro found
        rw [if_neg (ne_size_of_found found)]
        exact found
      · intro found
        split at found
        · cases found
          exact absurd rfl same
        · exact found
  first := by
    simp only [Interner.append, Array.getElem?_push]
    rw [if_neg (ne_size_of_found known.first), known.first]
  valid id other found := by
    obtain ⟨positive, found⟩ := lookup?_eq_some_iff.mp found
    simp only [Interner.append, Array.getElem?_push] at found
    split at found
    · cases found
      exact valid
    · exact known.valid id other (lookup?_eq_some_iff.mpr ⟨positive, found⟩)

theorem insert (known : types.WellFormed) {type : Descriptor} (valid : type.Valid) :
    (types.insert type).1.WellFormed := by
  unfold Interner.insert
  split
  · exact known
  · exact known.append valid ‹_›

/-- The number that interning answers with names the type. -/
theorem lookup?_insert (known : types.WellFormed) {type : Descriptor} (valid : type.Valid) :
    (types.insert type).1.lookup? (types.insert type).2 = some type := by
  have inserted := known.insert valid
  rw [lookup?_eq_some_iff]
  suffices found : (types.insert type).1.table[(types.insert type).2]? = some type from
    ⟨inserted.ne_zero_of_valid valid found, found⟩
  unfold Interner.insert
  split
  · rename_i id found
    exact (known.inverse type id).mp found
  · simp [Interner.append]

/-- Interning a type that is known changes nothing and answers with its number. -/
theorem insert_of_lookup? (known : types.WellFormed) {type : Descriptor} {id : TypeId}
    (found : types.lookup? id = some type) : types.insert type = (types, id) := by
  have index := (known.inverse type id).mpr (lookup?_eq_some_iff.mp found).2
  simp [Interner.insert, index]

theorem nodup_table (known : types.WellFormed) : types.table.toList.Nodup := by
  rw [List.nodup_iff_getElem?_ne_getElem?]
  intro first second before inside same
  have held : types.table[second]? = some types.table.toList[second] := by
    rw [← Array.getElem?_toList]
    exact List.getElem?_eq_getElem inside
  have held' : types.table[first]? = some types.table.toList[second] := by
    rw [← held, ← Array.getElem?_toList, ← Array.getElem?_toList]
    exact same
  have equal := ((known.inverse _ first).mpr held').symm.trans ((known.inverse _ second).mpr held)
  exact Nat.ne_of_lt before (Option.some.inj equal)

theorem mem_table_iff (known : types.WellFormed) {type : Descriptor} :
    type ∈ types.table.toList ↔
      type = Descriptor.invalid ∨ ∃ id, types.lookup? id = some type := by
  rw [List.mem_iff_getElem?]
  simp only [Array.getElem?_toList]
  constructor
  · rintro ⟨id, found⟩
    by_cases zero : id = 0
    · subst zero
      exact .inl (Option.some.inj (found.symm.trans known.first))
    · exact .inr ⟨id, lookup?_eq_some_iff.mpr ⟨zero, found⟩⟩
  · rintro (rfl | ⟨id, found⟩)
    · exact ⟨0, known.first⟩
    · exact ⟨id, (lookup?_eq_some_iff.mp found).2⟩

end WellFormed

/-- Interning keeps the meaning of every number. -/
theorem extends_insert (types : Interner) (type : Descriptor) :
    types.Extends (types.insert type).1 := by
  intro id other found
  unfold insert
  split
  · exact found
  · obtain ⟨positive, found⟩ := lookup?_eq_some_iff.mp found
    refine lookup?_eq_some_iff.mpr ⟨positive, ?_⟩
    simp only [append, Array.getElem?_push]
    rw [if_neg (ne_size_of_found found)]
    exact found

/-- The table that holds the descriptor of no type only. -/
theorem wellFormed_seed : (append ⟨#[], []⟩ Descriptor.invalid).WellFormed where
  inverse type id := by
    simp only [append, List.lookup_cons, List.lookup_nil, List.push_toArray, List.nil_append,
      List.size_toArray, List.length_nil]
    by_cases same : type = Descriptor.invalid
    · subst same
      cases id <;> simp
    · have differs : (type == Descriptor.invalid) = false := by simpa using same
      rw [differs]
      cases id <;> simp [Ne.symm same]
  first := rfl
  valid id type found := by
    obtain ⟨positive, found⟩ := lookup?_eq_some_iff.mp found
    cases id with
    | zero => exact absurd rfl positive
    | succ id => simp [append] at found

theorem wellFormed_foldl_insert (list : List Descriptor) (valid : ∀ type ∈ list, type.Valid)
    {types : Interner} (known : types.WellFormed) :
    (list.foldl (fun interner type => (interner.insert type).1) types).WellFormed := by
  induction list generalizing types with
  | nil => exact known
  | cons type rest ih =>
    exact ih (fun other member => valid other (List.mem_cons_of_mem _ member))
      (known.insert (valid type List.mem_cons_self))

theorem wellFormed_initial : initial.WellFormed :=
  wellFormed_foldl_insert builtins (by decide) wellFormed_seed

theorem lookup?_boolId_initial : initial.lookup? boolId = some Descriptor.bool := by decide

theorem check_eq_ok_iff {type : Descriptor} : type.check = .ok () ↔ type.Valid := by
  unfold Descriptor.check
  split <;> simp_all

/-- A descriptor is refused, or known, or it is written down. -/
theorem intern_eq (types : Interner) (type : Descriptor) :
    types.intern type =
      match type.check with
      | .error fault => .error fault
      | .ok () => .ok (types.insert type) := by
  rw [intern, present, Change.outcome_ask_bind]
  cases type.check with
  | error fault => rfl
  | ok _ =>
    rw [ok_bind, Change.outcome_get_bind, insert]
    cases types.index.lookup type <;> rfl

/-- A descriptor that is refused is not written down. -/
theorem spares_present (type : Descriptor) : (present type).Spares := by
  refine .ask_bind fun _ => .get_bind fun types => ?_
  cases types.index.lookup type with
  | some id => exact (Change.Sure.pure id).spares
  | none =>
    refine Change.Sure.spares (.get_bind fun types => ?_)
    exact (Change.Sure.modify _).bind fun _ => (Change.Sure.modify _).bind fun _ => .pure _

theorem intern_eq_ok_iff {types : Interner} {type : Descriptor} {result : Interner × TypeId} :
    types.intern type = .ok result ↔ type.Valid ∧ result = types.insert type := by
  rw [intern_eq]
  cases checked : type.check with
  | error fault =>
    have invalid : ¬ type.Valid := by
      rw [← check_eq_ok_iff, checked]
      simp
    simp [invalid]
  | ok _ => simp [check_eq_ok_iff.mp checked, eq_comm]

end Interner
end Blockwork
