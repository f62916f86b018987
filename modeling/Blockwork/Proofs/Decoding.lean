import Blockwork.Proofs.Steps
import Blockwork.Snapshot.Restore
import Blockwork.Source.Reader
import Mathlib.Data.List.Sort

/-!
# Decoders construct

Reading a source text and restoring a snapshot change a context by steps of construction only,
whatever they are given. So everything that construction keeps true holds of what they make.
-/

namespace Blockwork

open Context

/-! ## Snapshots -/

namespace Snapshot

theorem builds_of_restoreInputs {name : Bytes} {list : List Descriptor} {index : Nat}
    {context context' : Context} {ids : List TypeId}
    (restored : restoreInputs context name index list = .ok (context', ids)) :
    context.Builds context' := by
  induction list generalizing index context ids with
  | nil =>
    cases restored
    exact .refl
  | cons type rest ih =>
    rw [restoreInputs] at restored
    split at restored
    · cases restored
    · rename_i interned
      obtain ⟨⟨last, others⟩, tail, done⟩ := bind_eq_ok_iff.mp restored
      cases done
      exact .head (build_of_intern interned) (ih tail)

theorem builds_of_restoreHeader {context context' : Context} {function : SnapshotFunction}
    (restored : restoreHeader context function = .ok context') : context.Builds context' := by
  unfold restoreHeader at restored
  split at restored
  · cases restored
  · rename_i interned
    obtain ⟨⟨middle, inputs⟩, inner, rest⟩ := bind_eq_ok_iff.mp restored
    simp only at rest
    split at rest
    · rename_i added
      cases rest
      exact (Relation.ReflTransGen.head (build_of_intern interned)
        (builds_of_restoreInputs inner)).tail (build_of_addFunction added)
    · cases rest

theorem builds_of_restoreHeaders {functions : List SnapshotFunction} {context context' : Context}
    (restored : restoreHeaders context functions = .ok context') : context.Builds context' := by
  induction functions generalizing context with
  | nil =>
    cases restored
    exact .refl
  | cons function rest ih =>
    obtain ⟨middle, header, tail⟩ := bind_eq_ok_iff.mp restored
    exact (builds_of_restoreHeader header).trans (ih tail)

theorem builds_of_restoreBlocks {id : FunctionId} {blocks : List SnapshotBlock}
    {context context' : Context} (restored : restoreBlocks context id blocks = .ok context') :
    context.Builds context' := by
  induction blocks generalizing context with
  | nil =>
    cases restored
    exact .refl
  | cons block rest ih =>
    rw [restoreBlocks] at restored
    split at restored
    · rename_i added
      exact .head (build_of_addBlock added) (ih restored)
    · cases restored

theorem eq_ok_of_reported {built : Added} {added : Context × ValueId}
    (reported : (match built with
      | .ok added => (pure added : Except Failure (Context × ValueId))
      | .error error => .error (.build error)) = .ok added) : built = .ok added := by
  split at reported
  · rw [Except.ok.inj reported]
  · cases reported

/-- A value is restored by one of the three ways to build values. -/
theorem restoreInstruction_cases {context : Context} {place : Place} {function : Function}
    {type : TypeId} {value : SnapshotValue} {added : Context × ValueId}
    (restored : restoreInstruction context place function type value = .ok added) :
    (∃ literal, context.buildConst place type literal = .ok added) ∨
      (∃ callee operands, context.buildCall place callee operands = .ok added) ∨
      ∃ code left right, context.buildBinary place code left right = .ok added := by
  unfold restoreInstruction at restored
  dsimp only at restored
  split at restored
  · exact .inl ⟨_, eq_ok_of_reported restored⟩
  · split at restored
    · split at restored
      · cases restored
      · obtain ⟨arguments, -, rest⟩ := bind_eq_ok_iff.mp restored
        exact .inr (.inl ⟨_, _, eq_ok_of_reported rest⟩)
    · obtain ⟨left, -, rest⟩ := bind_eq_ok_iff.mp restored
      obtain ⟨right, -, rest⟩ := bind_eq_ok_iff.mp rest
      exact .inr (.inr ⟨_, _, _, eq_ok_of_reported rest⟩)

theorem build_of_restoreInstruction {context context' : Context} {place : Place}
    {function : Function} {type : TypeId} {value : SnapshotValue} {id : ValueId}
    (restored : restoreInstruction context place function type value = .ok (context', id)) :
    context.Build context' := by
  rcases restoreInstruction_cases restored with
    ⟨_, built⟩ | ⟨_, _, built⟩ | ⟨_, _, _, built⟩
  · exact build_of_buildConst built
  · exact build_of_buildCall built
  · exact build_of_buildBinary built

theorem builds_of_restoreValue {context context' : Context} {id : FunctionId}
    {value : SnapshotValue} (restored : restoreValue context id value = .ok context') :
    context.Builds context' := by
  unfold restoreValue at restored
  split at restored
  · cases restored
  · split at restored
    · cases restored
    · split at restored
      · cases restored
      · rename_i interned
        obtain ⟨⟨middle, number⟩, instruction, rest⟩ := bind_eq_ok_iff.mp restored
        obtain ⟨-, done⟩ := of_ite_eq_ok rest
        cases done
        exact .head (build_of_intern interned) (.single (build_of_restoreInstruction instruction))

theorem builds_of_restoreValues {id : FunctionId} {values : List SnapshotValue}
    {context context' : Context} (restored : restoreValues context id values = .ok context') :
    context.Builds context' := by
  induction values generalizing context with
  | nil =>
    cases restored
    exact .refl
  | cons value rest ih =>
    obtain ⟨middle, first, tail⟩ := bind_eq_ok_iff.mp restored
    exact (builds_of_restoreValue first).trans (ih tail)

theorem builds_of_restoreTerminator {context context' : Context} {id : FunctionId}
    {number : BlockId} {block : SnapshotBlock}
    (restored : restoreTerminator context id number block = .ok context') :
    context.Builds context' := by
  unfold restoreTerminator at restored
  split at restored
  · cases restored
  · rename_i function _
    simp only at restored
    split at restored
    · cases restored
    · cases restored
    · rename_i ended
      cases restored
      split at ended
      · split at ended
        · cases ended
        · exact .single (build_of_buildBranch (Except.ok.inj ended))
      · split at ended
        · obtain ⟨value, -, built⟩ := bind_eq_ok_iff.mp ended
          exact .single (build_of_buildReturn (Except.ok.inj built))
        · cases ended
          exact .refl

theorem builds_of_restoreTerminators {id : FunctionId} {blocks : List SnapshotBlock}
    {number : BlockId} {context context' : Context}
    (restored : restoreTerminators context id number blocks = .ok context') :
    context.Builds context' := by
  induction blocks generalizing number context with
  | nil =>
    cases restored
    exact .refl
  | cons block rest ih =>
    obtain ⟨middle, first, tail⟩ := bind_eq_ok_iff.mp restored
    exact (builds_of_restoreTerminator first).trans (ih tail)

theorem builds_of_restoreBodies {functions : List SnapshotFunction} {id : FunctionId}
    {context context' : Context} (restored : restoreBodies context id functions = .ok context') :
    context.Builds context' := by
  induction functions generalizing id context with
  | nil =>
    cases restored
    exact .refl
  | cons function rest ih =>
    rw [restoreBodies] at restored
    split at restored
    · cases restored
    · rename_i middle body
      obtain ⟨first, blocks, body⟩ := bind_eq_ok_iff.mp body
      obtain ⟨second, values, terminators⟩ := bind_eq_ok_iff.mp body
      exact (((builds_of_restoreBlocks blocks).trans (builds_of_restoreValues values)).trans
        (builds_of_restoreTerminators terminators)).trans (ih restored)

/-- A snapshot is restored by construction from the empty context. -/
theorem builds_of_restore {snapshot : Snapshot} {context : Context}
    (restored : snapshot.restore = .ok context) :
    (Context.new snapshot.optimize).Builds context := by
  unfold restore at restored
  split at restored
  · cases restored
  · obtain ⟨middle, headers, bodies⟩ := bind_eq_ok_iff.mp restored
    exact (builds_of_restoreHeaders headers).trans (builds_of_restoreBodies bodies)

end Snapshot

/-! ## Source texts -/

namespace Grammar

theorem valid_of_typeOf {token : Token} {type : Descriptor} (read : typeOf token = .ok type) :
    type.Valid := by
  obtain ⟨found, -, rest⟩ := bind_eq_ok_iff.mp read
  split at rest
  · rename_i checked
    cases rest
    exact Interner.check_eq_ok_iff.mp checked
  · cases rest

theorem valid_of_readType {stop : Token} {tokens rest : List Token} {type : Descriptor}
    (read : readType stop tokens = .ok (type, rest)) : type.Valid := by
  obtain ⟨found, typed, done⟩ := bind_eq_ok_iff.mp read
  cases done
  exact valid_of_typeOf typed

theorem valid_of_readTypes {stop : Token} {tokens : List Token} {types : List Descriptor}
    {rest : List Token} (read : readTypes stop tokens = .ok (types, rest)) :
    ∀ type ∈ types, type.Valid := by
  fun_induction readTypes stop tokens generalizing types rest with
  | case1 token separator after ih =>
    obtain ⟨type, typed, more⟩ := bind_eq_ok_iff.mp read
    have valid := valid_of_typeOf typed
    split at more
    · cases more
      simpa using valid
    · obtain ⟨⟨others, last⟩, tail, done⟩ := bind_eq_ok_iff.mp more
      cases done
      simpa using ⟨valid, ih tail⟩
    · cases more
  | case2 tokens _ =>
    obtain ⟨type, -, done⟩ := bind_eq_ok_iff.mp read
    cases done

/-- Behind the inputs of a header comes its output. -/
theorem valid_of_readOutput {stop name : Token} {inputs : List Descriptor} {tokens : List Token}
    {header : Header} (valid : ∀ type ∈ inputs, type.Valid)
    (read : (do
      let (_, tokens) ← keyword stop "->" tokens
      let (output, tokens) ← readType stop tokens
      let (_, tokens) ← mark stop .leftBrace tokens
      finish stop tokens
      pure (⟨name.text, name.column, inputs, output⟩ : Header)) = .ok header) :
    (∀ type ∈ header.inputs, type.Valid) ∧ header.output.Valid := by
  obtain ⟨⟨arrow, afterArrow⟩, -, read⟩ := bind_eq_ok_iff.mp read
  obtain ⟨⟨output, afterOutput⟩, typed, read⟩ := bind_eq_ok_iff.mp read
  obtain ⟨⟨brace, afterBrace⟩, -, read⟩ := bind_eq_ok_iff.mp read
  obtain ⟨-, -, done⟩ := bind_eq_ok_iff.mp read
  cases done
  exact ⟨valid, valid_of_readType typed⟩

theorem valid_of_readHeader {stop : Token} {tokens : List Token} {header : Header}
    (read : readHeader stop tokens = .ok header) :
    (∀ type ∈ header.inputs, type.Valid) ∧ header.output.Valid := by
  unfold readHeader at read
  obtain ⟨⟨name, afterName⟩, -, read⟩ := bind_eq_ok_iff.mp read
  obtain ⟨⟨paren, afterParen⟩, -, read⟩ := bind_eq_ok_iff.mp read
  dsimp only at read
  split at read
  · exact valid_of_readOutput (by simp) read
  · obtain ⟨⟨inputs, afterInputs⟩, types, read⟩ := bind_eq_ok_iff.mp read
    exact valid_of_readOutput (valid_of_readTypes types) read

theorem valid_of_readValueHead {stop : Token} {tokens : List Token} {head : ValueHead}
    (read : readValueHead stop tokens = .ok head) : head.type.Valid := by
  unfold readValueHead at read
  obtain ⟨⟨number, afterNumber⟩, -, read⟩ := bind_eq_ok_iff.mp read
  obtain ⟨⟨colon, afterColon⟩, -, read⟩ := bind_eq_ok_iff.mp read
  obtain ⟨⟨type, afterType⟩, typed, read⟩ := bind_eq_ok_iff.mp read
  obtain ⟨⟨equals, afterEquals⟩, -, read⟩ := bind_eq_ok_iff.mp read
  dsimp only at read
  split at read
  · cases read
  · cases read
    exact valid_of_readType typed

end Grammar

namespace Reader

theorem insertByNumber_eq (value : PendingValue) (values : List PendingValue) :
    insertByNumber value values =
      values.orderedInsert (fun left right => left.number ≤ right.number) value := by
  induction values with
  | nil => rfl
  | cons next rest ih => rw [insertByNumber, List.orderedInsert_cons, ih]

theorem sortByNumber_eq (values : List PendingValue) :
    sortByNumber values =
      values.insertionSort fun left right => left.number ≤ right.number := by
  induction values with
  | nil => rfl
  | cons value rest ih =>
    rw [List.insertionSort_cons, ← ih, ← insertByNumber_eq]
    rfl

theorem perm_sortByNumber (values : List PendingValue) : (sortByNumber values).Perm values := by
  rw [sortByNumber_eq]
  exact List.perm_insertionSort _ values

theorem pairwise_sortByNumber (values : List PendingValue) :
    (sortByNumber values).Pairwise fun left right => left.number ≤ right.number := by
  have total : Std.Total fun left right : PendingValue => left.number ≤ right.number :=
    ⟨fun left right => Nat.le_total left.number right.number⟩
  have trans : IsTrans PendingValue fun left right => left.number ≤ right.number :=
    ⟨fun _ _ _ => Nat.le_trans⟩
  rw [sortByNumber_eq]
  exact List.pairwise_insertionSort _ values

theorem builds_of_internAll {list : List Descriptor} {context : Context}
    (building : context.phase = .building) (valid : ∀ type ∈ list, type.Valid) :
    context.Builds { context with types := (internAll context.types list).1 } := by
  induction list generalizing context with
  | nil => exact .refl
  | cons type rest ih =>
    have first := Build.intern type building (valid type List.mem_cons_self)
    exact .head first (ih building fun other member => valid other (List.mem_cons_of_mem _ member))

theorem declareHeader_eq_ok_iff {context : Context} {header : Grammar.Header}
    {added : Context × FunctionId} :
    declareHeader context header = .ok added ↔
      { context with
        types := ((internAll context.types header.inputs).1.insert header.output).1 }.addFunction
          (Text.normalize header.name)
          ⟨(internAll context.types header.inputs).2,
            ((internAll context.types header.inputs).1.insert header.output).2⟩ = .ok added := by
  unfold declareHeader
  dsimp only
  split
  · rename_i found
    simp [found]
  · rename_i refused
    simp [refused]

theorem builds_of_declareHeader {context context' : Context} {header : Grammar.Header}
    {id : FunctionId} (building : context.phase = .building)
    (inputs : ∀ type ∈ header.inputs, type.Valid) (output : header.output.Valid)
    (declared : declareHeader context header = .ok (context', id)) : context.Builds context' := by
  have added := build_of_addFunction (declareHeader_eq_ok_iff.mp declared)
  have early := (builds_of_internAll building inputs).tail (.intern header.output building output)
  exact early.tail added

/-- The round over the headers keeps what declaring a header keeps. -/
theorem declare_keeps {motive : Context → Prop}
    (step : ∀ {context context' : Context} {stop : Token} {tokens : List Token}
      {header : Grammar.Header} {id : FunctionId}, Grammar.readHeader stop tokens = .ok header →
        declareHeader context header = .ok (context', id) → motive context → motive context')
    {file : Bytes} {lines : List Line} {last : Line} {context context' : Context}
    {current : Option Declaration} {declarations : List Declaration}
    (declared : declare file last context current lines = .ok (context', declarations))
    (start : motive context) : motive context' := by
  induction lines generalizing last context current declarations with
  | nil =>
    cases current with
    | none =>
      cases declared
      exact start
    | some declaration => cases declared
  | cons line rest ih =>
    unfold declare at declared
    dsimp only at declared
    split at declared
    · exact ih declared start
    · split at declared
      · split at declared
        · split at declared
          · cases declared
          · rename_i header read
            split at declared
            · cases declared
            · rename_i added
              exact ih declared (step read added start)
        · cases declared
      · split at declared
        · split at declared
          · obtain ⟨⟨middle, others⟩, tail, done⟩ := bind_eq_ok_iff.mp declared
            cases done
            exact ih tail start
          · cases declared
        · exact ih declared start

/-- A line of a body is a label, a value line or a terminator line. -/
theorem gatherLine_cases {function : FunctionId} {gathered gathered' : Gathered} {line : Line}
    (read : gatherLine function gathered line = .ok gathered') :
    (∃ context id, Grammar.readLabel (stopOf line) line.tokens = .ok gathered.blocks ∧
      gathered.context.addBlock function = .ok (context, id) ∧
      gathered' = { gathered with context, blocks := gathered.blocks + 1, ended := false }) ∨
    (∃ head column, Grammar.readValueHead (stopOf line) line.tokens = .ok head ∧
      gathered' = { gathered with
        context :=
          { gathered.context with types := (gathered.context.types.insert head.type).1 }
        values := ⟨line, gathered.blocks - 1, head.number, column,
          (gathered.context.types.insert head.type).2, head.instruction⟩ :: gathered.values }) ∨
    ∃ terminator column referenceColumn,
      Grammar.readTerminator (stopOf line) line.tokens = .ok (terminator, referenceColumn) ∧
      gathered' = { gathered with
        ended := true
        terminators := ⟨line, gathered.blocks - 1, column, terminator, referenceColumn⟩ ::
          gathered.terminators } := by
  unfold gatherLine at read
  dsimp only at read
  split at read
  · unfold gatherLabel at read
    obtain ⟨number, label, checked⟩ := bind_eq_ok_iff.mp read
    obtain ⟨expected, accepted⟩ := of_ite_error_eq_ok checked
    rw [Decidable.not_not.mp expected] at label
    split at accepted
    · rename_i added
      cases accepted
      exact .inl ⟨_, _, label, added, rfl⟩
    · cases accepted
  · obtain ⟨-, read⟩ := of_ite_error_eq_ok read
    obtain ⟨-, read⟩ := of_ite_error_eq_ok read
    unfold gatherContent at read
    dsimp only at read
    split at read
    · obtain ⟨head, headRead, done⟩ := bind_eq_ok_iff.mp read
      cases done
      exact .inr (.inl ⟨head, _, headRead, rfl⟩)
    · obtain ⟨-, read⟩ := of_ite_eq_ok read
      obtain ⟨⟨terminator, column⟩, terminatorRead, done⟩ := bind_eq_ok_iff.mp read
      cases done
      exact .inr (.inr ⟨terminator, _, column, terminatorRead, rfl⟩)

/-- Gathering a body keeps what gathering a line keeps. -/
theorem gather_keeps {motive : Gathered → Prop} {function : FunctionId}
    (step : ∀ {gathered gathered' : Gathered} {line : Line},
      gatherLine function gathered line = .ok gathered' → motive gathered → motive gathered')
    {file : Bytes} {lines : List Line} {gathered gathered' : Gathered}
    (read : gather file function gathered lines = .ok gathered') (start : motive gathered) :
    motive gathered' := by
  induction lines generalizing gathered with
  | nil =>
    cases read
    exact start
  | cons line rest ih =>
    rw [gather] at read
    split at read
    · rename_i first
      exact ih read (step first start)
    · cases read

theorem builds_of_gather {file : Bytes} {function : FunctionId} {lines : List Line}
    {gathered gathered' : Gathered} (building : gathered.context.phase = .building)
    (read : gather file function gathered lines = .ok gathered') :
    gathered.context.Builds gathered'.context := by
  refine gather_keeps (motive := fun later => gathered.context.Builds later.context)
    (fun line early => ?_) read .refl
  rcases gatherLine_cases line with
    ⟨_, _, -, added, rfl⟩ | ⟨head, _, headRead, rfl⟩ | ⟨_, _, _, -, rfl⟩
  · exact early.tail (build_of_addBlock added)
  · exact early.tail (.intern head.type (early.phase_eq.trans building)
      (Grammar.valid_of_readValueHead headRead))
  · exact early

theorem build_of_buildInstruction {context context' : Context} {place : Place} {type : TypeId}
    {instruction : Instruction} {id : ValueId}
    (built : buildInstruction context place type instruction = .ok (context', id)) :
    context.Build context' := by
  cases instruction with
  | const literal => exact build_of_buildConst built
  | call callee arguments =>
    have built : context.buildCall place (.own callee) (arguments.map .own) = .ok (context', id) :=
      built
    exact build_of_buildCall built
  | binary operator left right => exact build_of_buildBinary built

/-- The value of a line is built by its instruction and has the type that the line gives it, or no
type at all. -/
theorem replayValue_cases {file : Bytes} {function : FunctionId} {context context' : Context}
    {value : PendingValue} (replayed : replayValue file function context value = .ok context') :
    ∃ instruction id, readInstruction file context value = .ok instruction ∧
      buildInstruction context ⟨function, value.block⟩ value.type instruction =
        .ok (context', id) ∧
      (value.type = TypeId.none ∨ ∃ holder, context'.functions.get? function = some holder ∧
        holder.typeOf? id = some value.type) := by
  unfold replayValue at replayed
  obtain ⟨-, accepted⟩ := of_ite_error_eq_ok replayed
  split at accepted
  · cases accepted
  · rename_i instruction read
    split at accepted
    · cases accepted
    · rename_i id built
      obtain ⟨typed, done⟩ := of_ite_eq_ok accepted
      cases done
      refine ⟨instruction, id, read, built, ?_⟩
      split at typed
      · rename_i content found
        obtain ⟨holder, holderFound, held⟩ := Option.bind_eq_some_iff.mp found
        exact .inr ⟨holder, holderFound, Function.typeOf?_eq_some_iff.mpr ⟨content, held, typed⟩⟩
      · exact .inl typed.symm

theorem build_of_replayValue {file : Bytes} {function : FunctionId} {context context' : Context}
    {value : PendingValue} (replayed : replayValue file function context value = .ok context') :
    context.Build context' := by
  obtain ⟨_, _, -, built, -⟩ := replayValue_cases replayed
  exact build_of_buildInstruction built

/-- Building the values of a body keeps what building one of them keeps. -/
theorem replayValues_keeps {motive : Context → Prop} {file : Bytes} {function : FunctionId}
    {values : List PendingValue}
    (step : ∀ value ∈ values, ∀ {context context' : Context},
      replayValue file function context value = .ok context' → motive context → motive context')
    {context context' : Context}
    (replayed : replayValues file function context values = .ok context') (start : motive context) :
    motive context' := by
  induction values generalizing context with
  | nil =>
    cases replayed
    exact start
  | cons value rest ih =>
    rw [replayValues] at replayed
    split at replayed
    · rename_i first
      exact ih (fun other member => step other (List.mem_cons_of_mem _ member)) replayed
        (step value List.mem_cons_self first start)
    · cases replayed

theorem builds_of_replayValues {file : Bytes} {function : FunctionId} {values : List PendingValue}
    {context context' : Context}
    (replayed : replayValues file function context values = .ok context') :
    context.Builds context' :=
  replayValues_keeps (fun _ _ _ _ first early => early.tail (build_of_replayValue first)) replayed
    .refl

/-- A terminator line ends its block by what it says. -/
theorem replayTerminator_cases {function : FunctionId} {context context' : Context}
    {pending : PendingTerminator}
    (replayed : replayTerminator function context pending = .ok context') :
    (∃ target, pending.terminator = .branch target ∧
      context.buildBranch ⟨function, pending.block⟩ (.own target) = .ok context') ∨
    ∃ value, pending.terminator = .result value ∧
      context.buildReturn ⟨function, pending.block⟩ (.own value) = .ok context' := by
  unfold replayTerminator at replayed
  dsimp only at replayed
  split at replayed
  · rename_i target ends
    obtain ⟨-, accepted⟩ := of_ite_error_eq_ok replayed
    split at accepted
    · rename_i built
      cases accepted
      exact .inl ⟨target, ends, built⟩
    · cases accepted
  · rename_i value ends
    obtain ⟨-, accepted⟩ := of_ite_error_eq_ok replayed
    split at accepted
    · rename_i built
      cases accepted
      exact .inr ⟨value, ends, built⟩
    · cases accepted

theorem build_of_replayTerminator {function : FunctionId} {context context' : Context}
    {pending : PendingTerminator}
    (replayed : replayTerminator function context pending = .ok context') :
    context.Build context' := by
  rcases replayTerminator_cases replayed with ⟨_, -, built⟩ | ⟨_, -, built⟩
  · exact build_of_buildBranch built
  · exact build_of_buildReturn built

/-- Ending the blocks of a body keeps what ending one of them keeps. -/
theorem replayTerminators_keeps {motive : Context → Prop} {file : Bytes} {function : FunctionId}
    {terminators : List PendingTerminator}
    (step : ∀ pending ∈ terminators, ∀ {context context' : Context},
      replayTerminator function context pending = .ok context' → motive context → motive context')
    {context context' : Context}
    (replayed : replayTerminators file function context terminators = .ok context')
    (start : motive context) : motive context' := by
  induction terminators generalizing context with
  | nil =>
    cases replayed
    exact start
  | cons pending rest ih =>
    rw [replayTerminators] at replayed
    split at replayed
    · rename_i first
      exact ih (fun other member => step other (List.mem_cons_of_mem _ member)) replayed
        (step pending List.mem_cons_self first start)
    · cases replayed

theorem builds_of_replayTerminators {file : Bytes} {function : FunctionId}
    {terminators : List PendingTerminator} {context context' : Context}
    (replayed : replayTerminators file function context terminators = .ok context') :
    context.Builds context' :=
  replayTerminators_keeps (fun _ _ _ _ first early => early.tail (build_of_replayTerminator first))
    replayed .refl

theorem builds_of_readBody {file : Bytes} {context context' : Context} {declaration : Declaration}
    (building : context.phase = .building)
    (read : readBody file context declaration = .ok context') : context.Builds context' := by
  obtain ⟨gathered, lines, read⟩ := bind_eq_ok_iff.mp read
  obtain ⟨middle, values, terminators⟩ := bind_eq_ok_iff.mp read
  have early : context.Builds gathered.context := builds_of_gather building lines
  exact (early.trans (builds_of_replayValues values)).trans
    (builds_of_replayTerminators terminators)

/-- Reading bodies keeps what reading a body keeps. -/
theorem readBodies_keeps {motive : Context → Prop} {file : Bytes}
    (step : ∀ {context context' : Context} {declaration : Declaration},
      readBody file context declaration = .ok context' → motive context → motive context')
    {declarations : List Declaration} {context context' : Context}
    (read : (readBodies file context declarations).outcome = .ok context')
    (start : motive context) : motive context' := by
  induction declarations generalizing context with
  | nil =>
    cases read
    exact start
  | cons declaration rest ih =>
    rw [readBodies] at read
    split at read
    · cases read
    · rename_i first
      exact ih read (step first start)

/-- Reading a text keeps what declaring a header and reading a body keep. -/
theorem parse_keeps {motive : Context → Prop} {file source : Bytes} {optimize : Bool}
    (header : ∀ {context context' : Context} {stop : Token} {tokens : List Token}
      {header : Grammar.Header} {id : FunctionId}, Grammar.readHeader stop tokens = .ok header →
        declareHeader context header = .ok (context', id) → motive context → motive context')
    (body : ∀ {context context' : Context} {declaration : Declaration},
      readBody file context declaration = .ok context' → motive context → motive context')
    {context : Context} (parsed : Context.parse file source optimize = .ok context)
    (start : motive (.new optimize)) : motive context := by
  unfold Context.parse Reader.read at parsed
  split at parsed
  · cases parsed
  · rename_i declared
    exact readBodies_keeps body parsed (declare_keeps header declared start)

end Reader

/-- A source text is read by construction from the empty context. -/
theorem Context.builds_of_parse {file source : Bytes} {optimize : Bool} {context : Context}
    (parsed : Context.parse file source optimize = .ok context) :
    (Context.new optimize).Builds context := by
  refine Reader.parse_keeps (fun read added early => ?_) (fun body early => ?_) parsed .refl
  · obtain ⟨inputs, output⟩ := Grammar.valid_of_readHeader read
    exact early.trans
      (Reader.builds_of_declareHeader (early.phase_eq.trans rfl) inputs output added)
  · exact early.trans (Reader.builds_of_readBody (early.phase_eq.trans rfl) body)

end Blockwork
