import Blockwork.Proofs.Replaying
import Blockwork.Proofs.Restoring

/-!
# What restoring keeps

A snapshot may come from anywhere. If it is restored at all, the context says what the snapshot
says: taking a snapshot of it gives back every field that means something, names up to their normal
form. The proof follows restoring step by step, each step adding to the outlines what is written
down as the part of the snapshot that was read.

One thing is not kept. A block whose terminator code is neither that of a branch nor that of a
return is left open, and open blocks are written down with code zero.
-/

namespace Blockwork

/-! ## Agreement of snapshots -/

/-- Two blocks that end alike. -/
structure SnapshotBlock.Agrees (taken original : SnapshotBlock) : Prop where
  /-- The code is the same. -/
  terminator : taken.terminator = original.terminator
  /-- A branch goes to the same block. -/
  target : original.terminator = 1 → taken.target = original.target
  /-- A return returns the same value. -/
  result : original.terminator = 2 → taken.result = original.result

/-- Two values that are computed alike. -/
structure SnapshotValue.Agrees (taken original : SnapshotValue) : Prop where
  /-- The code of the kind is the same. -/
  kind : taken.kind = original.kind
  /-- The block is the same. -/
  block : taken.block = original.block
  /-- The type is the same. -/
  type : taken.type = original.type
  /-- Constants have the same literal. -/
  literal : original.kind = KindCode.const → taken.literal = original.literal
  /-- Calls call the same function. -/
  callee : original.kind = KindCode.call → taken.callee = Text.normalize original.callee
  /-- Calls have the same arguments. -/
  arguments : original.kind = KindCode.call → taken.arguments = original.arguments
  /-- Operators have the same left operand. -/
  left : (Operator.ofCode? original.kind).isSome → taken.left = original.left
  /-- Operators have the same right operand. -/
  right : (Operator.ofCode? original.kind).isSome → taken.right = original.right

/-- Two functions with the same heading, whose blocks and values agree one by one. -/
structure SnapshotFunction.Agrees (taken original : SnapshotFunction) : Prop where
  /-- The name is the same up to its normal form. -/
  name : taken.name = Text.normalize original.name
  /-- The types of the arguments are the same. -/
  inputs : taken.inputs = original.inputs
  /-- The type of the result is the same. -/
  output : taken.output = original.output
  /-- The blocks agree. -/
  blocks : List.Forall₂ SnapshotBlock.Agrees taken.blocks original.blocks
  /-- The values agree. -/
  values : List.Forall₂ SnapshotValue.Agrees taken.values original.values

/-- Two snapshots that agree in everything that means something. -/
structure Snapshot.Agrees (taken original : Snapshot) : Prop where
  /-- The version of the layout is the same. -/
  schema : taken.schema = original.schema
  /-- The flag is the same. -/
  optimize : taken.optimize = original.optimize
  /-- The functions agree. -/
  functions : List.Forall₂ SnapshotFunction.Agrees taken.functions original.functions

/-- A kind code that stands for a way to compute a value. -/
def KindCode.Known (code : UInt8) : Prop :=
  code = KindCode.const ∨ code = KindCode.call ∨ (Operator.ofCode? code).isSome

/-- A block as restoring understands it: a code that stands for no terminator counts as zero. -/
def SnapshotBlock.understood (block : SnapshotBlock) : SnapshotBlock :=
  if block.terminator = 1 ∨ block.terminator = 2 then block else { block with terminator := 0 }

/-- A function as restoring understands it. -/
def SnapshotFunction.understood (function : SnapshotFunction) : SnapshotFunction :=
  { function with blocks := function.blocks.map SnapshotBlock.understood }

/-- A snapshot as restoring understands it. -/
def Snapshot.understood (snapshot : Snapshot) : Snapshot :=
  { snapshot with functions := snapshot.functions.map SnapshotFunction.understood }

/-- A snapshot without terminator codes that stand for nothing. -/
def Snapshot.Regular (snapshot : Snapshot) : Prop :=
  ∀ function ∈ snapshot.functions, ∀ block ∈ function.blocks, block.terminator ≤ 2

theorem SnapshotBlock.understood_terminator_eq_iff (block : SnapshotBlock) :
    block.understood.terminator = block.terminator ↔ block.terminator ≤ 2 := by
  have zero : (0 : UInt8) = block.terminator ∨ block.terminator = 1 ∨ block.terminator = 2 ↔
      block.terminator ≤ 2 := by
    simp only [UInt8.le_iff_toNat_le, ← UInt8.toNat_inj, UInt8.toNat_zero, UInt8.toNat_one,
      UInt8.reduceToNat]
    omega
  rw [← zero, understood]
  split
  · rename_i ends
    exact iff_of_true rfl (.inr ends)
  · rename_i unended
    exact ⟨.inl, fun code => code.resolve_right unended⟩

theorem SnapshotBlock.understood_eq {block : SnapshotBlock} (small : block.terminator ≤ 2) :
    block.understood = block := by
  have code := block.understood_terminator_eq_iff.mpr small
  unfold understood at code ⊢
  split at code
  · rw [if_pos ‹_›]
  · rw [if_neg ‹_›, show (0 : UInt8) = block.terminator from code]

/-- The terminator codes, function by function and block by block. -/
def Snapshot.codes (snapshot : Snapshot) : List (List UInt8) :=
  snapshot.functions.map fun function => function.blocks.map SnapshotBlock.terminator

theorem map_eq_of_forall₂ {α β γ : Type} {related : α → β → Prop} {first : α → γ} {second : β → γ}
    {ones : List α} {twos : List β} (all : List.Forall₂ related ones twos)
    (same : ∀ one two, related one two → first one = second two) :
    ones.map first = twos.map second := by
  rw [← List.forall₂_eq_eq_eq, List.forall₂_map_left_iff, List.forall₂_map_right_iff]
  exact all.imp same

theorem exists_mem_of_forall₂ {α β : Type} {related : α → β → Prop} {ones : List α}
    {twos : List β} (all : List.Forall₂ related ones twos) {two : β} (member : two ∈ twos) :
    ∃ one ∈ ones, related one two := by
  induction all with
  | nil => cases member
  | cons head _ ih =>
    rcases List.mem_cons.mp member with rfl | inside
    · exact ⟨_, List.mem_cons_self, head⟩
    · obtain ⟨one, listed, found⟩ := ih inside
      exact ⟨one, List.mem_cons_of_mem _ listed, found⟩

theorem Snapshot.Agrees.codes_eq {taken original : Snapshot} (agrees : taken.Agrees original) :
    taken.codes = original.codes :=
  map_eq_of_forall₂ agrees.functions fun _ _ function =>
    map_eq_of_forall₂ function.blocks fun _ _ block => block.terminator

theorem Snapshot.regular_iff {snapshot : Snapshot} :
    snapshot.Regular ↔ snapshot.understood.codes = snapshot.codes := by
  simp only [Regular, codes, understood, SnapshotFunction.understood, List.map_map,
    List.map_inj_left, Function.comp_apply, SnapshotBlock.understood_terminator_eq_iff]

theorem Snapshot.Regular.understood_eq {snapshot : Snapshot} (regular : snapshot.Regular) :
    snapshot.understood = snapshot := by
  have functions : snapshot.functions.map SnapshotFunction.understood = snapshot.functions := by
    conv_rhs => rw [← List.map_id snapshot.functions]
    refine List.map_congr_left fun function member => ?_
    have blocks : function.blocks.map SnapshotBlock.understood = function.blocks := by
      conv_rhs => rw [← List.map_id function.blocks]
      exact List.map_congr_left fun block inside =>
        SnapshotBlock.understood_eq (regular function member block inside)
    rw [SnapshotFunction.understood, blocks, id]
  rw [understood, functions]

/-- What was understood of a snapshot is all of it exactly if every code stands for something. -/
theorem Snapshot.Agrees.agrees_iff_regular {taken original : Snapshot}
    (agrees : taken.Agrees original.understood) : taken.Agrees original ↔ original.Regular := by
  constructor
  · intro whole
    rw [regular_iff, ← agrees.codes_eq, whole.codes_eq]
  · intro regular
    rwa [regular.understood_eq] at agrees

theorem Operator.code_of_ofCode? {code : UInt8} {operator : Operator}
    (decoded : ofCode? code = some operator) : operator.code = code := by
  have found := List.find?_some decoded
  simpa using found

namespace Snapshot

/-! ## Numbers -/

theorem ofNat_of_below? {number : Int32} {size id : Nat} (found : below? number size = some id) :
    Int32.ofNat id = number := by
  unfold below? at found
  split at found
  · rename_i inside
    obtain rfl := Option.some.inj found
    rw [← Int32.ofInt_eq_ofNat, Int.toNat_of_nonneg inside.1, Int32.ofInt_toInt]
  · cases found

theorem ofNat_of_valueNumber {function : Function} {number : Int32} {id : ValueId}
    (found : valueNumber function number = .ok id) : Int32.ofNat id = number := by
  unfold valueNumber at found
  split at found
  · rename_i below
    cases found
    exact ofNat_of_below? below
  · cases found

theorem map_ofNat_of_mapM {function : Function} {numbers : List Int32} {ids : List ValueId}
    (found : numbers.mapM (valueNumber function) = .ok ids) : ids.map Int32.ofNat = numbers := by
  induction numbers generalizing ids with
  | nil =>
    cases found
    rfl
  | cons number rest ih =>
    rw [List.mapM_cons] at found
    obtain ⟨id, first, found⟩ := bind_eq_ok_iff.mp found
    obtain ⟨others, tail, done⟩ := bind_eq_ok_iff.mp found
    cases done
    rw [List.map_cons, ofNat_of_valueNumber first, ih tail]

/-! ## What is written down -/

variable {outlines outlines' : List Outline}

/-- Of the other functions only their names are written down. -/
theorem recordValue_congr (heads : outlines'.map Outline.head = outlines.map Outline.head) :
    recordValue outlines' = recordValue outlines := by
  funext ⟨type, origin⟩
  cases origin with
  | parameter index => rfl
  | instruction block instruction =>
    cases instruction <;> simp [recordValue, record, nameIn_congr heads]

theorem known_record (type : Descriptor) (block : BlockId) (instruction : Instruction) :
    KindCode.Known (record outlines type block instruction).kind := by
  cases instruction with
  | const literal => exact .inl rfl
  | call callee arguments => exact .inr (.inl rfl)
  | binary operator left right =>
    refine .inr (.inr ?_)
    rw [record, operator.ofCode?_code]
    rfl

theorem known_of_mem_record {values : List (Option Descriptor × Origin)} {value : SnapshotValue}
    (member : value ∈ values.flatMap (recordValue outlines)) : KindCode.Known value.kind := by
  obtain ⟨⟨type, origin⟩, -, inside⟩ := List.mem_flatMap.mp member
  cases origin with
  | parameter index => cases inside
  | instruction block instruction =>
    obtain rfl := List.mem_singleton.mp inside
    exact known_record _ block instruction

theorem recordFunction_congr (heads : outlines'.map Outline.head = outlines.map Outline.head) :
    recordFunction outlines' = recordFunction outlines := by
  funext outline
  rw [recordFunction, recordFunction, recordValue_congr heads]

/-! ## Values -/

variable {context context' : Context} {before after : List Outline} {outline : Outline}

/-- A value is restored by building an instruction that is written down as what was read. -/
theorem exists_of_restoreInstruction (sketches : context.Sketches outlines) {place : Place}
    {function : Function} {type : TypeId} {value : SnapshotValue} {added : Context × ValueId}
    {block : BlockId} (home : Int32.ofNat block = value.block)
    (restored : restoreInstruction context place function type value = .ok added) :
    ∃ instruction, Reader.buildInstruction context place type instruction = .ok added ∧
      (record outlines value.type block instruction).Agrees value := by
  unfold restoreInstruction at restored
  dsimp only at restored
  split at restored
  · rename_i isConst
    refine ⟨.const value.literal, eq_ok_of_reported restored, ?_⟩
    constructor <;> simp [record, home, isConst, show KindCode.const ≠ KindCode.call by decide,
      show Operator.ofCode? KindCode.const = none by decide]
  · rename_i notConst
    split at restored
    · rename_i isCall
      split at restored
      · cases restored
      · rename_i callee named
        obtain ⟨arguments, numbers, rest⟩ := bind_eq_ok_iff.mp restored
        refine ⟨.call callee arguments, eq_ok_of_reported rest, ?_⟩
        constructor <;> simp [record, home, isCall, nameIn_of_functionNamed? sketches named,
          map_ofNat_of_mapM numbers, show KindCode.call ≠ KindCode.const by decide,
          show Operator.ofCode? KindCode.call = none by decide]
    · rename_i notCall
      obtain ⟨left, leftNumber, rest⟩ := bind_eq_ok_iff.mp restored
      obtain ⟨right, rightNumber, rest⟩ := bind_eq_ok_iff.mp rest
      have built := eq_ok_of_reported rest
      obtain ⟨-, -, operator, -, -, -, -, decoded, -⟩ := Context.buildBinary_eq_ok_iff.mp built
      have code := Operator.code_of_ofCode? decoded
      rw [← code] at built
      refine ⟨.binary operator left right, built, ?_⟩
      constructor <;> simp [record, home, code, notConst, notCall,
        ofNat_of_valueNumber leftNumber, ofNat_of_valueNumber rightNumber]

/-- A restored value is one value more, written down as what was read. -/
theorem exists_of_restoreValue (sketches : context.Sketches (before ++ outline :: after))
    {value : SnapshotValue} (restored : restoreValue context before.length value = .ok context') :
    ∃ block instruction,
      context'.Sketches (before ++ { outline with
        values := outline.values ++
          [(some value.type, .instruction block instruction)] } :: after) ∧
      (record (before ++ outline :: after) value.type block instruction).Agrees value := by
  obtain ⟨function, found, shape⟩ := sketches.exists_function
  unfold restoreValue at restored
  simp only [found] at restored
  split at restored
  · cases restored
  · rename_i block home
    split at restored
    · cases restored
    · rename_i typed type interned
      obtain ⟨-, valid, same⟩ := Context.intern_eq_ok_iff.mp interned
      obtain ⟨rfl, rfl⟩ := Prod.mk.inj same
      obtain ⟨added, instructed, rest⟩ := bind_eq_ok_iff.mp restored
      obtain ⟨rebuilt, done⟩ := of_ite_eq_ok rest
      have sketches' := sketches.insert valid
      obtain ⟨instruction, built, agrees⟩ :=
        exists_of_restoreInstruction sketches' (ofNat_of_below? home) instructed
      obtain ⟨holder, content, type, opened, fits, same⟩ :=
        Reader.exists_of_buildInstruction built
      cases found.symm.trans opened.function_eq
      subst same
      obtain rfl := Except.ok.inj done
      have kept : type = (context.types.insert value.type).2 := by
        simpa [Context.append, Context.get?_replace, found, Function.get?_pushValue] using rebuilt
      have known := sketches.formed.types.lookup?_insert valid
      refine ⟨block, instruction, sketches'.step (.append type instruction opened fits) ?_, agrees⟩
      have shape' : function.outline (context.types.insert value.type).1 = outline := by
        obtain ⟨again, foundAgain, shape'⟩ := sketches'.exists_function
        cases found.symm.trans foundAgain
        exact shape'
      rw [Context.outlines_append, sketches'.set_outlines, shape', kept, known]

/-- Restored values are values more, written down as what was read. -/
theorem exists_of_restoreValues {values : List SnapshotValue}
    (sketches : context.Sketches (before ++ outline :: after))
    (restored : restoreValues context before.length values = .ok context') :
    ∃ added, context'.Sketches
        (before ++ { outline with values := outline.values ++ added } :: after) ∧
      List.Forall₂ SnapshotValue.Agrees
        (added.flatMap (recordValue (before ++ outline :: after))) values := by
  induction values generalizing context outline with
  | nil =>
    cases restored
    exact ⟨[], by simpa using sketches, .nil⟩
  | cons value rest ih =>
    obtain ⟨middle, first, tail⟩ := bind_eq_ok_iff.mp restored
    obtain ⟨block, instruction, sketches', agrees⟩ := exists_of_restoreValue sketches first
    obtain ⟨added, done, others⟩ := ih sketches' tail
    refine ⟨(some value.type, .instruction block instruction) :: added, by simpa using done, ?_⟩
    -- The value that was added changes no heading.
    have heads : (before ++ { outline with values := outline.values ++
          [(some value.type, .instruction block instruction)] } :: after).map Outline.head =
        (before ++ outline :: after).map Outline.head := by
      simp [Outline.head]
    rw [recordValue_congr heads] at others
    exact .cons agrees others

/-! ## Ends -/

/-- A block is ended by what is written down as the end that was read, or left open. -/
theorem exists_of_restoreTerminator (sketches : context.Sketches (before ++ outline :: after))
    {number : BlockId} {block : SnapshotBlock} (opened : outline.ends[number]? = some none)
    (restored : restoreTerminator context before.length number block = .ok context') :
    ∃ ending, context'.Sketches
        (before ++ { outline with ends := outline.ends.set number ending } :: after) ∧
      (takeTerminator ending).Agrees block.understood := by
  obtain ⟨function, found, shape⟩ := sketches.exists_function
  unfold restoreTerminator at restored
  simp only [found] at restored
  split at restored
  · cases restored
  · cases restored
  · rename_i ended
    cases restored
    split at ended
    · rename_i isBranch
      split at ended
      · cases ended
      · rename_i target number
        have built := Except.ok.inj ended
        obtain ⟨holder, content, id, place, own, fits, -⟩ :=
          Context.buildBranch_eq_ok_iff.mp built
        cases own
        cases found.symm.trans place.function_eq
        obtain ⟨_, again, done⟩ := sketches.finish opened (shape ▸ fits.suits context.types)
        cases built.symm.trans again
        refine ⟨_, done, ?_⟩
        constructor <;> simp [takeTerminator, SnapshotBlock.understood, isBranch,
          ofNat_of_below? number]
    · rename_i notBranch
      split at ended
      · rename_i isReturn
        obtain ⟨value, number, built⟩ := bind_eq_ok_iff.mp ended
        have built := Except.ok.inj built
        obtain ⟨holder, content, id, place, own, fits, -⟩ :=
          Context.buildReturn_eq_ok_iff.mp built
        cases own
        cases found.symm.trans place.function_eq
        obtain ⟨_, again, done⟩ := sketches.finish opened (shape ▸ fits.suits context.types)
        cases built.symm.trans again
        refine ⟨_, done, ?_⟩
        constructor <;> simp [takeTerminator, SnapshotBlock.understood, isReturn,
          ofNat_of_valueNumber number]
      · rename_i notReturn
        cases ended
        have same : outline.ends.set number none = outline.ends := by
          obtain ⟨inside, held⟩ := List.getElem?_eq_some_iff.mp opened
          rw [← held, List.set_getElem_self]
        refine ⟨none, by rw [same]; exact sketches, ?_⟩
        constructor <;> simp [takeTerminator, SnapshotBlock.understood, notBranch, notReturn]

/-- The ends from a block on are written down as what was read. -/
theorem exists_of_restoreTerminators {blocks : List SnapshotBlock}
    {done : List (Option Terminator)}
    (sketches : context.Sketches (before ++
      { outline with ends := done ++ List.replicate blocks.length none } :: after))
    (restored : restoreTerminators context before.length done.length blocks = .ok context') :
    ∃ ends, context'.Sketches (before ++ { outline with ends := done ++ ends } :: after) ∧
      List.Forall₂ SnapshotBlock.Agrees (ends.map takeTerminator)
        (blocks.map SnapshotBlock.understood) := by
  induction blocks generalizing context done with
  | nil =>
    cases restored
    exact ⟨[], sketches, .nil⟩
  | cons block rest ih =>
    obtain ⟨middle, first, tail⟩ := bind_eq_ok_iff.mp restored
    obtain ⟨ending, sketches', agrees⟩ := exists_of_restoreTerminator sketches
      (by simp [List.replicate_succ]) first
    have ended : (done ++ List.replicate (block :: rest).length none).set done.length ending =
        (done ++ [ending]) ++ List.replicate rest.length none := by
      simp [List.replicate_succ]
    simp only [ended] at sketches'
    have tail : restoreTerminators middle before.length (done ++ [ending]).length rest =
        .ok context' := by
      simpa using tail
    obtain ⟨ends, sketches'', others⟩ := ih sketches' tail
    exact ⟨ending :: ends, by simpa using sketches'', .cons agrees others⟩

/-! ## Functions -/

theorem valid_of_restoreInputs {name : Bytes} {index : Nat} {types : List Descriptor}
    {restored : Context × List TypeId}
    (inner : restoreInputs context name index types = .ok restored) :
    ∀ type ∈ types, type.Valid := by
  induction types generalizing context index restored with
  | nil => exact fun type member => nomatch member
  | cons type rest ih =>
    rw [restoreInputs] at inner
    split at inner
    · cases inner
    · rename_i interned
      obtain ⟨_, tail, -⟩ := bind_eq_ok_iff.mp inner
      obtain ⟨-, valid, -⟩ := Context.intern_eq_ok_iff.mp interned
      exact List.forall_mem_cons.mpr ⟨valid, ih tail⟩

/-- A function that has only been declared. -/
def declared (function : SnapshotFunction) : Outline where
  name := Text.normalize function.name
  inputs := function.inputs.map some
  output := some function.output
  ends := []
  values := (function.inputs.map some).zipIdx.map fun (type, index) => (type, .parameter index)

theorem stage_declared (function : SnapshotFunction) (blocks : Nat) :
    (declared function).stage blocks (declared function).values.length 0 =
      { declared function with ends := List.replicate blocks none } := by
  rw [Outline.stage, List.take_length]
  rfl

/-- A restored header declares the function. -/
theorem sketches_of_restoreHeader {function : SnapshotFunction}
    (sketches : context.Sketches outlines)
    (restored : restoreHeader context function = .ok context') :
    context'.Sketches (outlines ++ [declared function]) := by
  unfold restoreHeader at restored
  split at restored
  · cases restored
  · rename_i first output interned
    obtain ⟨-, valid, same⟩ := Context.intern_eq_ok_iff.mp interned
    obtain ⟨rfl, rfl⟩ := Prod.mk.inj same
    obtain ⟨⟨second, inputs⟩, inner, rest⟩ := bind_eq_ok_iff.mp restored
    obtain ⟨_, _, again, extended, described, sketches'⟩ := restoreInputs_spec function.name 0
      (valid_of_restoreInputs inner) (sketches.insert valid)
    cases inner.symm.trans again
    have outputKnown := extended _ _ (sketches.formed.types.lookup?_insert valid)
    dsimp only at rest
    split at rest
    · rename_i third id added
      cases rest
      refine sketches'.step (Context.build_of_addFunction added) ?_
      obtain ⟨-, -, -, -, same⟩ := Context.addFunction_eq_ok_iff.mp added
      obtain ⟨rfl, rfl⟩ := Prod.mk.inj same
      have outline := Context.outline_declare second.types (Text.normalize function.name)
        ⟨inputs, (context.types.insert function.output).2⟩
      simp only [described, outputKnown] at outline
      rw [← sketches'.outlines_eq]
      simp [Context.outlines, outline, declared]
    · cases rest

theorem sketches_of_restoreHeaders {functions : List SnapshotFunction}
    (sketches : context.Sketches outlines)
    (restored : restoreHeaders context functions = .ok context') :
    context'.Sketches (outlines ++ functions.map declared) := by
  induction functions generalizing context outlines with
  | nil =>
    cases restored
    simpa using sketches
  | cons function rest ih =>
    obtain ⟨middle, header, tail⟩ := bind_eq_ok_iff.mp restored
    simpa using ih (sketches_of_restoreHeader sketches header) tail

/-- A restored body makes of the declared function one that is written down as what was read. -/
theorem exists_of_restoreBody {function : SnapshotFunction}
    (sketches : context.Sketches (before ++ declared function :: after))
    (restored : restoreBody context before.length function = .ok context') :
    ∃ outline, context'.Sketches (before ++ outline :: after) ∧
      outline.head = (declared function).head ∧
      (recordFunction (before ++ declared function :: after) outline).Agrees
        function.understood := by
  obtain ⟨first, blocks, rest⟩ := bind_eq_ok_iff.mp restored
  obtain ⟨second, values, ends⟩ := bind_eq_ok_iff.mp rest
  have start : context.Sketches (before ++
      (declared function).stage 0 (declared function).values.length 0 :: after) := by
    rw [stage_declared]
    exact sketches
  obtain ⟨_, again, sketches⟩ := restoreBlocks_record function.blocks start
  cases blocks.symm.trans again
  rw [stage_declared, Nat.zero_add] at sketches
  obtain ⟨added, sketches, valuesAgree⟩ := exists_of_restoreValues sketches values
  have early : second.Sketches (before ++
      { ({ declared function with values := (declared function).values ++ added } : Outline) with
        ends := [] ++ List.replicate function.blocks.length none } :: after) := sketches
  obtain ⟨ended, done, blocksAgree⟩ := exists_of_restoreTerminators early ends
  refine ⟨_, done, rfl, ?_⟩
  have heads : (before ++ { declared function with
        ends := List.replicate function.blocks.length none } :: after).map Outline.head =
      (before ++ declared function :: after).map Outline.head := by
    simp [Outline.head]
  rw [recordValue_congr heads] at valuesAgree
  have parameters : (declared function).values.flatMap
      (recordValue (before ++ declared function :: after)) = [] := by
    simp [declared, recordValue, List.flatMap_map]
  constructor
  case name => rfl
  case inputs => simp [recordFunction, declared, SnapshotFunction.understood]
  case output => rfl
  case blocks => exact blocksAgree
  case values =>
    rw [recordFunction, List.flatMap_append, parameters, List.nil_append]
    exact valuesAgree

/-- Restored bodies make of the declared functions ones that are written down as what was read. -/
theorem exists_of_restoreBodies {functions : List SnapshotFunction} {id : FunctionId}
    (sketches : context.Sketches (before ++ functions.map declared))
    (position : id = before.length)
    (restored : restoreBodies context id functions = .ok context') :
    ∃ bodies, context'.Sketches (before ++ bodies) ∧
      bodies.map Outline.head = (functions.map declared).map Outline.head ∧
      List.Forall₂ SnapshotFunction.Agrees
        (bodies.map (recordFunction (before ++ functions.map declared)))
        (functions.map SnapshotFunction.understood) := by
  induction functions generalizing context before id with
  | nil =>
    cases restored
    exact ⟨[], sketches, rfl, .nil⟩
  | cons function rest ih =>
    subst position
    rw [restoreBodies] at restored
    split at restored
    · cases restored
    · rename_i middle body
      obtain ⟨outline, sketches', head, agrees⟩ := exists_of_restoreBody sketches body
      have start : middle.Sketches ((before ++ [outline]) ++ rest.map declared) := by
        simpa using sketches'
      obtain ⟨bodies, done, heads, others⟩ := ih start (by simp) restored
      have same : (before ++ [outline] ++ rest.map declared).map Outline.head =
          (before ++ (function :: rest).map declared).map Outline.head := by
        simp [head]
      rw [recordFunction_congr same] at others
      exact ⟨outline :: bodies, by simpa using done, by simp [head, heads], .cons agrees others⟩

end Snapshot

/-- A snapshot that is restored is kept: taking a snapshot of the context gives back what was
understood of it. That is all of it, unless some terminator code stands for nothing; a kind code
that stands for nothing is never accepted. -/
theorem Snapshot.exists_take_of_restore (snapshot : Snapshot) (context : Context)
    (restored : snapshot.restore = .ok context) :
    ∃ taken, context.take = some taken ∧ taken.Agrees snapshot.understood ∧
      (taken.Agrees snapshot ↔ snapshot.Regular) ∧
      ∀ function ∈ snapshot.functions, ∀ value ∈ function.values,
        KindCode.Known value.kind := by
  have built := builds_of_restore restored
  unfold restore at restored
  obtain ⟨schema, restored⟩ := of_ite_error_eq_ok restored
  obtain ⟨middle, headers, bodies⟩ := bind_eq_ok_iff.mp restored
  have declares := sketches_of_restoreHeaders (.new snapshot.optimize) headers
  obtain ⟨outlines, sketches, heads, agree⟩ := exists_of_restoreBodies declares rfl bodies
  rw [List.nil_append] at sketches agree
  have alive : context.phase ≠ .destroyed := by
    rw [sketches.building]
    decide
  have taken := sketches.formed.take_eq alive
  rw [built.optimize_eq, sketches.outlines_eq] at taken
  rw [recordFunction_congr heads.symm] at agree
  have understood : (recordAll snapshot.optimize outlines).Agrees snapshot.understood :=
    ⟨(Decidable.not_not.mp schema).symm, rfl, agree⟩
  refine ⟨_, taken, understood, understood.agrees_iff_regular,
    fun function member value inside => ?_⟩
  obtain ⟨_, listed, same⟩ := exists_mem_of_forall₂ agree (List.mem_map_of_mem member)
  obtain ⟨outline, -, rfl⟩ := List.mem_map.mp listed
  obtain ⟨taken, recorded, agrees⟩ := exists_mem_of_forall₂ same.values inside
  rw [← agrees.kind]
  exact known_of_mem_record recorded

/-- A snapshot of a function that doubles its argument. Its name is not in normal form, and the code
of its only terminator is damaged. -/
def damagedSnapshot : Snapshot where
  schema := 1
  optimize := true
  functions := [{
    name := utf8 "cafe\u0301"
    inputs := [.int 32]
    output := .int 32
    blocks := [{ terminator := 3, result := 1 }]
    values := [{ kind := Operator.add.code, type := .int 32 }] }]

theorem exists_take_of_restore_damagedSnapshot :
    ∃ context taken, damagedSnapshot.restore = .ok context ∧ context.take = some taken ∧
      taken.Agrees damagedSnapshot.understood ∧ ¬ taken.Agrees damagedSnapshot := by
  have restores : damagedSnapshot.restore.isOk = true := by decide +kernel
  cases restored : damagedSnapshot.restore with
  | error failure =>
    rw [restored] at restores
    cases restores
  | ok context =>
    obtain ⟨taken, done, agrees, whole, -⟩ :=
      damagedSnapshot.exists_take_of_restore context restored
    have irregular : ¬ damagedSnapshot.Regular := by
      rw [Snapshot.regular_iff]
      decide
    exact ⟨context, taken, rfl, done, agrees, fun all => irregular (whole.mp all)⟩

/-- Restoring does not keep everything: the damaged terminator is gone, and nothing was refused. -/
theorem damagedSnapshot_not_kept :
    ¬ ∀ (snapshot : Snapshot) (context : Context), snapshot.restore = .ok context →
      ∃ taken, context.take = some taken ∧ taken.Agrees snapshot := by
  intro kept
  have codes : (damagedSnapshot.restore.toOption.bind Context.take).map Snapshot.codes =
      some [[0]] := by
    decide +kernel
  cases restored : damagedSnapshot.restore with
  | error failure =>
    rw [restored] at codes
    cases codes
  | ok context =>
    obtain ⟨taken, done, agrees⟩ := kept damagedSnapshot context restored
    rw [restored] at codes
    have same : taken.codes = [[0]] := by
      simpa [Except.toOption, done] using codes
    rw [agrees.codes_eq] at same
    exact absurd same (by decide)

end Blockwork
