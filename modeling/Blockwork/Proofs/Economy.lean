import Blockwork.Proofs.Flags
import Blockwork.Proofs.Growth
import Blockwork.Proofs.Outline

/-!
# Types in use

Construction may intern types that no function uses. Reading a source text and restoring a snapshot
do not: whatever they intern becomes the type of an argument, a result or a value. So two contexts
that were made in one of these ways and have the same outlines know equally many types, in whatever
order they met them.
-/

namespace Blockwork

/-- Whether a function uses a type, by number. -/
def Function.Uses (function : Function) (type : TypeId) : Prop :=
  type ∈ function.signature.inputs ∨ type = function.signature.output ∨
    ∃ id, function.typeOf? id = some type

namespace Context

/-- Whether some function uses a type, by number. -/
def Uses (context : Context) (type : TypeId) : Prop :=
  ∃ id function, context.functions.get? id = some function ∧ function.Uses type

variable {context context' : Context}

theorem Build.uses (built : context.Build context') {type : TypeId} (uses : context.Uses type) :
    context'.Uses type := by
  obtain ⟨id, function, found, used⟩ := uses
  obtain ⟨function', found', grown⟩ := built.grows.functions id function found
  refine ⟨id, function', found', ?_⟩
  rcases used with input | output | ⟨number, typed⟩
  · exact .inl (grown.signature ▸ input)
  · exact .inr (.inl (grown.signature ▸ output))
  · obtain ⟨value, held, same⟩ := Function.typeOf?_eq_some_iff.mp typed
    exact .inr (.inr ⟨number,
      Function.typeOf?_eq_some_iff.mpr ⟨value, grown.values _ _ held, same⟩⟩)

theorem Builds.uses (built : context.Builds context') {type : TypeId}
    (uses : context.Uses type) : context'.Uses type := by
  induction built with
  | refl => exact uses
  | tail _ step ih => exact step.uses ih

/-- Every type that has become known from one context to another is in use. -/
def Sparing (before after : Context) : Prop :=
  ∀ id, (after.types.lookup? id).isSome → (before.types.lookup? id).isSome ∨ after.Uses id

theorem Sparing.refl (context : Context) : context.Sparing context :=
  fun _ known => .inl known

theorem Sparing.trans {middle : Context} (early : context.Sparing middle)
    (late : middle.Sparing context') (built : middle.Builds context') :
    context.Sparing context' := by
  intro id known
  rcases late id known with old | used
  · exact (early id old).imp_right built.uses
  · exact .inr used

theorem Sparing.of_types_eq (same : context'.types = context.types) :
    context.Sparing context' :=
  fun _ known => .inl (same ▸ known)

end Context

theorem Interner.known_insert {types : Interner} {type : Descriptor} {id : TypeId}
    (known : ((types.insert type).1.lookup? id).isSome) :
    (types.lookup? id).isSome ∨ id = (types.insert type).2 := by
  unfold Interner.insert at known ⊢
  split at known
  · exact .inl known
  · obtain ⟨found, held⟩ := Option.isSome_iff_exists.mp known
    obtain ⟨positive, held⟩ := lookup?_eq_some_iff.mp held
    rw [Interner.append, Array.getElem?_push] at held
    split at held
    · rename_i last
      exact .inr last
    · rw [lookup?_eq_some_iff.mpr ⟨positive, held⟩]
      exact .inl rfl

open Context

/-- A function that has been declared uses the types of its signature. -/
theorem Context.uses_of_addFunction {context context' : Context} {raw : Bytes}
    {signature : Signature} {id : FunctionId}
    (added : context.addFunction raw signature = .ok (context', id)) :
    context'.types = context.types ∧
      ∀ type, type ∈ signature.inputs ∨ type = signature.output → context'.Uses type := by
  obtain ⟨-, -, -, -, same⟩ := addFunction_eq_ok_iff.mp added
  cases same
  refine ⟨rfl, fun type used =>
    ⟨context.functions.size, Function.declare (Text.normalize raw) signature, ?_, ?_⟩⟩
  · exact (context.functions.get?_push _ _).trans (if_pos rfl)
  · rcases used with input | output
    · exact .inl input
    · exact .inr (.inl output)

theorem Context.Appends.types_eq {context : Context} {place : Place}
    {added : Context × ValueId} (appended : context.Appends place added) :
    added.1.types = context.types := by
  obtain ⟨function, block, type, instruction, -, rfl⟩ := appended
  rfl

/-! ## Source texts -/

namespace Reader

theorem known_internAll {list : List Descriptor} {types : Interner} {id : TypeId}
    (known : ((internAll types list).1.lookup? id).isSome) :
    (types.lookup? id).isSome ∨ id ∈ (internAll types list).2 := by
  induction list generalizing types with
  | nil => exact .inl known
  | cons type rest ih =>
    rcases ih known with early | late
    · exact (Interner.known_insert early).imp_right fun same =>
        List.mem_cons.mpr (.inl same)
    · exact .inr (List.mem_cons_of_mem _ late)

theorem sparing_of_declareHeader {context context' : Context} {header : Grammar.Header}
    {id : FunctionId} (declared : declareHeader context header = .ok (context', id)) :
    context.Sparing context' := by
  obtain ⟨types, uses⟩ := uses_of_addFunction (declareHeader_eq_ok_iff.mp declared)
  intro type known
  rw [types] at known
  rcases Interner.known_insert known with early | output
  · exact (known_internAll early).imp_right fun input => uses type (.inl input)
  · exact .inr (uses type (.inr output))

/-- The types that have become known while a body was gathered are those of its value lines. -/
def Gathered.Owes (start : Context) (gathered : Gathered) : Prop :=
  ∀ id, (gathered.context.types.lookup? id).isSome →
    (start.types.lookup? id).isSome ∨ ∃ value ∈ gathered.values, value.type = id

theorem Gathered.Owes.gatherLine {start : Context} {function : FunctionId}
    {gathered gathered' : Gathered} {line : Line}
    (read : gatherLine function gathered line = .ok gathered') (owes : gathered.Owes start) :
    gathered'.Owes start := by
  rcases gatherLine_cases read with
    ⟨_, _, -, added, rfl⟩ | ⟨head, _, headRead, rfl⟩ | ⟨_, _, _, -, rfl⟩
  · obtain ⟨content, -, -, same⟩ := addBlock_eq_ok_iff.mp added
    cases same
    exact owes
  · intro id known
    rcases Interner.known_insert known with early | here
    · refine (owes id early).imp_right ?_
      rintro ⟨value, member, same⟩
      exact ⟨value, List.mem_cons_of_mem _ member, same⟩
    · exact .inr ⟨_, List.mem_cons_self, here.symm⟩
  · exact owes

/-- A value that has been built uses the type that its line gives it. -/
theorem uses_of_replayValue {file : Bytes} {function : FunctionId} {context context' : Context}
    {value : PendingValue} (replayed : replayValue file function context value = .ok context') :
    value.type = TypeId.none ∨ context'.Uses value.type := by
  obtain ⟨_, id, -, -, typed⟩ := replayValue_cases replayed
  refine typed.imp_right ?_
  rintro ⟨holder, found, held⟩
  exact ⟨function, holder, found, .inr (.inr ⟨id, held⟩)⟩

theorem uses_of_replayValues {file : Bytes} {function : FunctionId} {values : List PendingValue}
    {context context' : Context}
    (replayed : replayValues file function context values = .ok context') :
    ∀ value ∈ values, value.type = TypeId.none ∨ context'.Uses value.type := by
  induction values generalizing context with
  | nil => exact fun _ member => nomatch member
  | cons value rest ih =>
    rw [replayValues] at replayed
    split at replayed
    · rename_i middle first
      intro other member
      rcases List.mem_cons.mp member with rfl | inside
      · exact (uses_of_replayValue first).imp_right (builds_of_replayValues replayed).uses
      · exact ih replayed other inside
    · cases replayed

theorem types_of_buildInstruction {context context' : Context} {place : Place} {type : TypeId}
    {instruction : Instruction} {id : ValueId}
    (built : buildInstruction context place type instruction = .ok (context', id)) :
    context'.types = context.types := by
  cases instruction with
  | const literal => exact (appends_of_buildConst built).types_eq
  | call callee arguments =>
    have built : context.buildCall place (.own callee) (arguments.map .own) = .ok (context', id) :=
      built
    exact (appends_of_buildCall built).types_eq
  | binary operator left right => exact (appends_of_buildBinary built).types_eq

theorem types_of_replayValues {file : Bytes} {function : FunctionId} {values : List PendingValue}
    {context context' : Context}
    (replayed : replayValues file function context values = .ok context') :
    context'.types = context.types := by
  refine replayValues_keeps (motive := fun later => later.types = context.types)
    (fun value _ _ _ first early => ?_) replayed rfl
  obtain ⟨_, _, -, built, -⟩ := replayValue_cases first
  exact (types_of_buildInstruction built).trans early

theorem types_of_replayTerminators {file : Bytes} {function : FunctionId}
    {terminators : List PendingTerminator} {context context' : Context}
    (replayed : replayTerminators file function context terminators = .ok context') :
    context'.types = context.types := by
  refine replayTerminators_keeps (motive := fun later => later.types = context.types)
    (fun pending _ _ _ first early => ?_) replayed rfl
  rcases replayTerminator_cases first with ⟨_, -, built⟩ | ⟨_, -, built⟩
  · obtain ⟨_, _, _, -, -, -, rfl⟩ := buildBranch_eq_ok_iff.mp built
    exact early
  · obtain ⟨_, _, _, -, -, -, rfl⟩ := buildReturn_eq_ok_iff.mp built
    exact early

theorem sparing_of_readBody {file : Bytes} {context context' : Context}
    {declaration : Declaration} (read : readBody file context declaration = .ok context') :
    context.Sparing context' := by
  obtain ⟨gathered, lines, read⟩ := bind_eq_ok_iff.mp read
  obtain ⟨middle, values, terminators⟩ := bind_eq_ok_iff.mp read
  have start : (({ context } : Gathered)).Owes context := fun _ known => .inl known
  have owes := gather_keeps Gathered.Owes.gatherLine lines start
  intro id known
  rw [types_of_replayTerminators terminators, types_of_replayValues values] at known
  rcases owes id known with old | ⟨value, member, rfl⟩
  · exact .inl old
  · have sorted : value ∈ sortByNumber gathered.values.reverse :=
      (perm_sortByNumber _).mem_iff.mpr (List.mem_reverse.mpr member)
    rcases uses_of_replayValues values value sorted with none | uses
    · rw [none] at known
      cases known
    · exact .inr ((builds_of_replayTerminators terminators).uses uses)

end Reader

/-- Reading a source text interns no type that is not used. -/
theorem Context.sparing_of_parse {file source : Bytes} {optimize : Bool} {context : Context}
    (parsed : Context.parse file source optimize = .ok context) :
    (Context.new optimize).Sparing context := by
  have both := Reader.parse_keeps
    (motive := fun later => (Context.new optimize).Builds later ∧ (Context.new optimize).Sparing later)
    (fun read added early => ?_) (fun body early => ?_) parsed ⟨.refl, .refl _⟩
  · exact both.2
  · obtain ⟨inputs, output⟩ := Grammar.valid_of_readHeader read
    have step := Reader.builds_of_declareHeader (early.1.phase_eq.trans rfl) inputs output added
    exact ⟨early.1.trans step, early.2.trans (Reader.sparing_of_declareHeader added) step⟩
  · have step := Reader.builds_of_readBody (early.1.phase_eq.trans rfl) body
    exact ⟨early.1.trans step, early.2.trans (Reader.sparing_of_readBody body) step⟩

/-! ## Snapshots -/

namespace Snapshot

theorem known_of_intern {context context' : Context} {type : Descriptor} {number : TypeId}
    (interned : context.intern type = .ok (context', number)) {id : TypeId}
    (known : (context'.types.lookup? id).isSome) :
    (context.types.lookup? id).isSome ∨ id = number := by
  obtain ⟨-, -, same⟩ := intern_eq_ok_iff.mp interned
  cases same
  exact Interner.known_insert known

theorem known_of_restoreInputs {name : Bytes} {list : List Descriptor} {index : Nat}
    {context context' : Context} {ids : List TypeId}
    (restored : restoreInputs context name index list = .ok (context', ids)) {id : TypeId}
    (known : (context'.types.lookup? id).isSome) :
    (context.types.lookup? id).isSome ∨ id ∈ ids := by
  induction list generalizing index context ids with
  | nil =>
    cases restored
    exact .inl known
  | cons type rest ih =>
    rw [restoreInputs] at restored
    split at restored
    · cases restored
    · rename_i middle number interned
      obtain ⟨⟨last, others⟩, tail, done⟩ := bind_eq_ok_iff.mp restored
      cases done
      rcases ih tail with early | late
      · exact (known_of_intern interned early).imp_right fun same => List.mem_cons.mpr (.inl same)
      · exact .inr (List.mem_cons_of_mem _ late)

theorem sparing_of_restoreHeader {context context' : Context} {function : SnapshotFunction}
    (restored : restoreHeader context function = .ok context') : context.Sparing context' := by
  unfold restoreHeader at restored
  split at restored
  · cases restored
  · rename_i first output interned
    obtain ⟨⟨middle, inputs⟩, inner, rest⟩ := bind_eq_ok_iff.mp restored
    simp only at rest
    split at rest
    · rename_i added
      cases rest
      obtain ⟨types, uses⟩ := uses_of_addFunction added
      intro id known
      rw [types] at known
      rcases known_of_restoreInputs inner known with early | input
      · exact (known_of_intern interned early).imp_right fun same => uses id (.inr same)
      · exact .inr (uses id (.inl input))
    · cases rest

theorem sparing_of_restoreHeaders {functions : List SnapshotFunction} {context context' : Context}
    (restored : restoreHeaders context functions = .ok context') : context.Sparing context' := by
  induction functions generalizing context with
  | nil =>
    cases restored
    exact .refl _
  | cons function rest ih =>
    obtain ⟨middle, header, tail⟩ := bind_eq_ok_iff.mp restored
    exact (sparing_of_restoreHeader header).trans (ih tail) (builds_of_restoreHeaders tail)

theorem types_of_restoreBlocks {id : FunctionId} {blocks : List SnapshotBlock}
    {context context' : Context} (restored : restoreBlocks context id blocks = .ok context') :
    context'.types = context.types := by
  induction blocks generalizing context with
  | nil =>
    cases restored
    rfl
  | cons block rest ih =>
    rw [restoreBlocks] at restored
    split at restored
    · rename_i middle number added
      obtain ⟨content, -, -, same⟩ := addBlock_eq_ok_iff.mp added
      cases same
      have later := ih restored
      exact later
    · cases restored

theorem sparing_of_restoreValue {context context' : Context} {id : FunctionId}
    {value : SnapshotValue} (restored : restoreValue context id value = .ok context') :
    context.Sparing context' := by
  unfold restoreValue at restored
  split at restored
  · cases restored
  · split at restored
    · cases restored
    · split at restored
      · cases restored
      · rename_i first type interned
        obtain ⟨⟨middle, number⟩, instruction, rest⟩ := bind_eq_ok_iff.mp restored
        obtain ⟨rebuilt, done⟩ := of_ite_eq_ok rest
        cases done
        have types : context'.types = first.types := by
          rcases restoreInstruction_cases instruction with
            ⟨_, built⟩ | ⟨_, _, built⟩ | ⟨_, _, _, built⟩
          · exact (appends_of_buildConst built).types_eq
          · exact (appends_of_buildCall built).types_eq
          · exact (appends_of_buildBinary built).types_eq
        intro other known
        rw [types] at known
        rcases known_of_intern interned known with old | rfl
        · exact .inl old
        · split at rebuilt
          · rename_i content found
            obtain ⟨holder, holderFound, held⟩ := Option.bind_eq_some_iff.mp found
            exact .inr ⟨id, holder, holderFound, .inr (.inr
              ⟨number, Function.typeOf?_eq_some_iff.mpr ⟨content, held, rebuilt⟩⟩)⟩
          · rw [← rebuilt] at known
            cases known

theorem sparing_of_restoreValues {id : FunctionId} {values : List SnapshotValue}
    {context context' : Context} (restored : restoreValues context id values = .ok context') :
    context.Sparing context' := by
  induction values generalizing context with
  | nil =>
    cases restored
    exact .refl _
  | cons value rest ih =>
    obtain ⟨middle, first, tail⟩ := bind_eq_ok_iff.mp restored
    exact (sparing_of_restoreValue first).trans (ih tail) (builds_of_restoreValues tail)

theorem types_of_restoreTerminators {id : FunctionId} {blocks : List SnapshotBlock}
    {number : BlockId} {context context' : Context}
    (restored : restoreTerminators context id number blocks = .ok context') :
    context'.types = context.types := by
  induction blocks generalizing number context with
  | nil =>
    cases restored
    rfl
  | cons block rest ih =>
    obtain ⟨middle, first, tail⟩ := bind_eq_ok_iff.mp restored
    refine (ih tail).trans ?_
    unfold restoreTerminator at first
    split at first
    · cases first
    · simp only at first
      split at first
      · cases first
      · cases first
      · rename_i ended
        cases first
        split at ended
        · split at ended
          · cases ended
          · obtain ⟨_, _, _, -, -, -, rfl⟩ := buildBranch_eq_ok_iff.mp (Except.ok.inj ended)
            rfl
        · split at ended
          · obtain ⟨value, -, built⟩ := bind_eq_ok_iff.mp ended
            obtain ⟨_, _, _, -, -, -, rfl⟩ := buildReturn_eq_ok_iff.mp (Except.ok.inj built)
            rfl
          · cases ended
            rfl

theorem sparing_of_restoreBodies {functions : List SnapshotFunction} {id : FunctionId}
    {context context' : Context} (restored : restoreBodies context id functions = .ok context') :
    context.Sparing context' := by
  induction functions generalizing id context with
  | nil =>
    cases restored
    exact .refl _
  | cons function rest ih =>
    rw [restoreBodies] at restored
    split at restored
    · cases restored
    · rename_i middle body
      obtain ⟨first, blocks, body⟩ := bind_eq_ok_iff.mp body
      obtain ⟨second, values, terminators⟩ := bind_eq_ok_iff.mp body
      have early : context.Sparing middle :=
        ((Sparing.of_types_eq (types_of_restoreBlocks blocks)).trans
          (sparing_of_restoreValues values) (builds_of_restoreValues values)).trans
          (.of_types_eq (types_of_restoreTerminators terminators))
          (builds_of_restoreTerminators terminators)
      exact early.trans (ih restored) (builds_of_restoreBodies restored)

/-- Restoring a snapshot interns no type that is not used. -/
theorem sparing_of_restore {snapshot : Snapshot} {context : Context}
    (restored : snapshot.restore = .ok context) :
    (Context.new snapshot.optimize).Sparing context := by
  unfold restore at restored
  split at restored
  · cases restored
  · obtain ⟨middle, headers, bodies⟩ := bind_eq_ok_iff.mp restored
    exact (sparing_of_restoreHeaders headers).trans (sparing_of_restoreBodies bodies)
      (builds_of_restoreBodies bodies)

end Snapshot

/-! ## Counting types -/

/-- Whether a function uses a type, as far as its outline tells. -/
def Outline.Uses (outline : Outline) (type : Descriptor) : Prop :=
  some type ∈ outline.inputs ∨ outline.output = some type ∨
    ∃ origin, (some type, origin) ∈ outline.values

namespace Context

variable {context context' : Context}

theorem Uses.outline {id : TypeId} {type : Descriptor} (uses : context.Uses id)
    (found : context.types.lookup? id = some type) :
    ∃ outline ∈ context.outlines, outline.Uses type := by
  obtain ⟨number, function, functionFound, used⟩ := uses
  refine ⟨function.outline context.types,
    List.mem_map_of_mem (Arena.mem_toList_iff.mpr ⟨number, functionFound⟩), ?_⟩
  rcases used with input | rfl | ⟨value, typed⟩
  · exact .inl (found ▸ List.mem_map_of_mem input)
  · exact .inr (.inl found)
  · obtain ⟨content, held, rfl⟩ := Function.typeOf?_eq_some_iff.mp typed
    refine .inr (.inr ⟨content.origin, ?_⟩)
    have described : content.described context.types = (some type, content.origin) := by
      rw [Value.described, found]
    exact described ▸ List.mem_map_of_mem (Arena.mem_toList_iff.mpr ⟨value, held⟩)

theorem exists_of_uses {outline : Outline} (member : outline ∈ context.outlines)
    {type : Descriptor} (uses : outline.Uses type) : ∃ id, context.types.lookup? id = some type := by
  obtain ⟨function, -, rfl⟩ := List.mem_map.mp member
  rcases uses with input | output | ⟨origin, value⟩
  · obtain ⟨id, -, found⟩ := List.mem_map.mp input
    exact ⟨id, found⟩
  · exact ⟨_, output⟩
  · obtain ⟨content, -, same⟩ := List.mem_map.mp value
    exact ⟨_, (Prod.mk.inj same).1⟩

/-- The types that a sparing context knows can be read off its outlines. -/
theorem Sparing.known_iff {optimize : Bool} (sparing : (Context.new optimize).Sparing context)
    (built : (Context.new optimize).Builds context) {type : Descriptor} :
    (∃ id, context.types.lookup? id = some type) ↔
      (∃ id, Interner.initial.lookup? id = some type) ∨
        ∃ outline ∈ context.outlines, outline.Uses type := by
  have extended : Interner.initial.Extends context.types := built.keeps.types
  constructor
  · rintro ⟨id, found⟩
    rcases sparing id (by rw [found]; rfl) with early | uses
    · obtain ⟨old, held⟩ := Option.isSome_iff_exists.mp early
      cases (extended id old held).symm.trans found
      exact .inl ⟨id, held⟩
    · exact .inr (uses.outline found)
  · rintro (⟨id, found⟩ | ⟨outline, member, uses⟩)
    · exact ⟨id, extended id type found⟩
    · exact exists_of_uses member uses

/-- Sparing contexts with the same outlines know equally many types. -/
theorem Sparing.size_eq {optimize optimize' : Bool}
    (sparing : (Context.new optimize).Sparing context)
    (built : (Context.new optimize).Builds context)
    (sparing' : (Context.new optimize').Sparing context')
    (built' : (Context.new optimize').Builds context')
    (same : context.outlines = context'.outlines) : context.types.size = context'.types.size := by
  have known := ((WellFormed.new optimize).builds built).types
  have known' := ((WellFormed.new optimize').builds built').types
  have members : ∀ type, type ∈ context.types.table.toList ↔ type ∈ context'.types.table.toList := by
    intro type
    rw [known.mem_table_iff, known'.mem_table_iff, sparing.known_iff built,
      sparing'.known_iff built', same]
  have permuted := (List.perm_ext_iff_of_nodup known.nodup_table known'.nodup_table).mpr members
  exact permuted.length_eq

end Context
end Blockwork
