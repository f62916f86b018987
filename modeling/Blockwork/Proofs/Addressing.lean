import Blockwork.Proofs.Economy
import Blockwork.Proofs.LineReading
import Blockwork.Proofs.Restoring

/-!
# Numbers in source texts

The numbers of values and blocks in a source text have to fit a signed word of thirty-two bits, or
the text is refused. So every reference in a context that was read can be written to a snapshot.
-/

namespace Blockwork

namespace Grammar

theorem lt_of_labelOf {token : Token} {id : BlockId} (read : labelOf token = .ok id) :
    id < 0x80000000 :=
  (labelOf_eq_ok_iff.mp read).2.1

theorem lt_of_readLabel {stop : Token} {tokens : List Token} {id : BlockId}
    (read : readLabel stop tokens = .ok id) : id < 0x80000000 := by
  obtain ⟨number, label, read⟩ := bind_eq_ok_iff.mp read
  obtain ⟨_, -, read⟩ := bind_eq_ok_iff.mp read
  obtain ⟨_, -, done⟩ := bind_eq_ok_iff.mp read
  cases done
  exact lt_of_labelOf label

theorem lt_of_referenceOf {percent digits : Token} {id : ValueId}
    (read : referenceOf percent digits = .ok id) : id < 0x80000000 :=
  (referenceOf_eq_ok_iff.mp read).2.2.2

theorem lt_of_readReference {stop : Token} {tokens rest : List Token} {id : ValueId}
    (read : readReference stop tokens = .ok (id, rest)) : id < 0x80000000 := by
  obtain ⟨number, reference, done⟩ := bind_eq_ok_iff.mp read
  cases done
  exact lt_of_referenceOf reference

theorem lt_of_operandOf {user id : ValueId} {percent digits : Token}
    (read : operandOf user percent digits = .ok id) : id < 0x80000000 := by
  obtain ⟨number, reference, read⟩ := bind_eq_ok_iff.mp read
  obtain ⟨-, done⟩ := of_ite_eq_ok read
  cases done
  exact lt_of_referenceOf reference

theorem lt_of_readOperand {stop : Token} {user id : ValueId} {tokens rest : List Token}
    (read : readOperand stop user tokens = .ok (id, rest)) : id < 0x80000000 := by
  obtain ⟨number, operand, done⟩ := bind_eq_ok_iff.mp read
  cases done
  exact lt_of_operandOf operand

theorem lt_of_readOperands {stop : Token} {user : ValueId} {tokens rest : List Token}
    {ids : List ValueId} (read : readOperands stop user tokens = .ok (ids, rest)) :
    ∀ id ∈ ids, id < 0x80000000 := by
  fun_induction readOperands stop user tokens generalizing ids rest with
  | case1 percent digits separator after ih =>
    obtain ⟨number, operand, more⟩ := bind_eq_ok_iff.mp read
    have small := lt_of_operandOf operand
    split at more
    · cases more
      simpa using small
    · obtain ⟨⟨others, last⟩, tail, done⟩ := bind_eq_ok_iff.mp more
      cases done
      simpa using ⟨small, ih tail⟩
    · cases more
  | case2 tokens _ =>
    obtain ⟨_, -, done⟩ := bind_eq_ok_iff.mp read
    cases done

theorem lt_of_readTerminator {stop : Token} {tokens : List Token} {terminator : Terminator}
    {column : Nat} (read : readTerminator stop tokens = .ok (terminator, column)) :
    terminator.reference < 0x80000000 := by
  unfold readTerminator at read
  dsimp only at read
  split at read
  · obtain ⟨target, label, read⟩ := bind_eq_ok_iff.mp read
    obtain ⟨_, -, done⟩ := bind_eq_ok_iff.mp read
    cases done
    exact lt_of_labelOf label
  · obtain ⟨⟨value, rest⟩, reference, read⟩ := bind_eq_ok_iff.mp read
    obtain ⟨_, -, done⟩ := bind_eq_ok_iff.mp read
    cases done
    exact lt_of_readReference reference

theorem lt_of_readCall {stop : Token} {callable : Bytes → Option FunctionId} {user : ValueId}
    {tokens : List Token} {instruction : Instruction}
    (read : readCall stop callable user tokens = .ok instruction) :
    ∀ operand ∈ instruction.operands, operand < 0x80000000 := by
  unfold readCall at read
  obtain ⟨⟨name, afterName⟩, -, read⟩ := bind_eq_ok_iff.mp read
  dsimp only at read
  split at read
  · cases read
  · obtain ⟨⟨paren, afterParen⟩, -, read⟩ := bind_eq_ok_iff.mp read
    dsimp only at read
    split at read
    · obtain ⟨⟨arguments, afterArguments⟩, empty, read⟩ := bind_eq_ok_iff.mp read
      obtain ⟨_, -, done⟩ := bind_eq_ok_iff.mp read
      cases empty
      cases done
      exact fun _ member => nomatch member
    · obtain ⟨⟨arguments, afterArguments⟩, operands, read⟩ := bind_eq_ok_iff.mp read
      obtain ⟨_, -, done⟩ := bind_eq_ok_iff.mp read
      cases done
      exact lt_of_readOperands operands

theorem lt_of_readSimple {stop : Token} {user : ValueId} {tokens : List Token}
    {instruction : Instruction} (read : readSimple stop user tokens = .ok instruction) :
    ∀ operand ∈ instruction.operands, operand < 0x80000000 := by
  unfold readSimple at read
  dsimp only at read
  obtain ⟨-, read⟩ := of_ite_error_eq_ok read
  split at read
  · split at read
    · cases read
    · obtain ⟨_, -, done⟩ := bind_eq_ok_iff.mp read
      cases done
      exact fun _ member => nomatch member
  · split at read
    · cases read
    · obtain ⟨⟨left, afterLeft⟩, leftRead, read⟩ := bind_eq_ok_iff.mp read
      obtain ⟨⟨right, afterRight⟩, rightRead, read⟩ := bind_eq_ok_iff.mp read
      obtain ⟨_, -, done⟩ := bind_eq_ok_iff.mp read
      cases done
      intro operand member
      have either : operand = left ∨ operand = right := by
        simpa [Instruction.operands] using member
      rcases either with rfl | rfl
      · exact lt_of_readOperand leftRead
      · exact lt_of_readOperand rightRead

end Grammar

/-- Every number in a function fits a signed word of thirty-two bits. -/
structure Function.Addressable (function : Function) : Prop where
  /-- The numbers in instructions. -/
  values : ∀ id type block instruction,
    function.values.get? id = some ⟨type, .instruction block instruction⟩ →
      block < 0x80000000 ∧ ∀ operand ∈ Instruction.operands instruction, operand < 0x80000000
  /-- The numbers in terminators. -/
  ends : ∀ block content terminator, function.blocks.get? block = some content →
    content.terminator = some terminator → terminator.reference < 0x80000000

namespace Function.Addressable

variable {function : Function}

theorem declare (name : Bytes) (signature : Signature) :
    (Function.declare name signature).Addressable := by
  constructor
  · intro id type block instruction found
    rw [get?_declare] at found
    obtain ⟨_, -, same⟩ := Option.map_eq_some_iff.mp found
    cases same
  · intro block content terminator found
    cases Arena.get?_eq_some_lt found

theorem pushBlock (addressable : function.Addressable) : function.pushBlock.Addressable := by
  refine ⟨addressable.values, fun block content terminator found ends => ?_⟩
  rw [Function.pushBlock, Arena.get?_push] at found
  split at found
  · cases found
    cases ends
  · exact addressable.ends block content terminator found ends

theorem pushValue (addressable : function.Addressable) {block : BlockId} {type : TypeId}
    {instruction : Instruction} (inside : block < 0x80000000)
    (small : ∀ operand ∈ instruction.operands, operand < 0x80000000) :
    (function.pushValue block type instruction).Addressable := by
  constructor
  · intro id other home computed found
    rw [get?_pushValue] at found
    split at found
    · cases found
      exact ⟨inside, small⟩
    · exact addressable.values id other home computed found
  · intro other content terminator found ends
    rw [Function.pushValue, Arena.get?_modify] at found
    split at found
    · obtain ⟨old, held, rfl⟩ := Option.map_eq_some_iff.mp found
      exact addressable.ends other old terminator held ends
    · exact addressable.ends other content terminator found ends

theorem terminate (addressable : function.Addressable) (block : BlockId) {terminator : Terminator}
    (small : terminator.reference < 0x80000000) :
    (function.terminate block terminator).Addressable := by
  refine ⟨addressable.values, fun other content ending found ends => ?_⟩
  rw [Function.terminate, Arena.get?_modify] at found
  split at found
  · obtain ⟨old, held, rfl⟩ := Option.map_eq_some_iff.mp found
    cases ends
    exact small
  · exact addressable.ends other content ending found ends

end Function.Addressable

namespace Context

/-- Every number in a context fits a signed word of thirty-two bits. -/
def Addressable (context : Context) : Prop :=
  ∀ id function, context.functions.get? id = some function → function.Addressable

namespace Addressable

variable {context context' : Context}

theorem new (optimize : Bool) : (Context.new optimize).Addressable := by
  intro id function found
  cases Arena.get?_eq_some_lt found

theorem replace (addressable : context.Addressable) (id : FunctionId) {function : Function}
    (changed : function.Addressable) : (context.replace id function).Addressable := by
  intro other held found
  rw [get?_replace] at found
  split at found
  · obtain ⟨old, -, rfl⟩ := Option.map_eq_some_iff.mp found
    exact changed
  · exact addressable other held found

theorem addFunction (addressable : context.Addressable) {raw : Bytes} {signature : Signature}
    {id : FunctionId} (added : context.addFunction raw signature = .ok (context', id)) :
    context'.Addressable := by
  obtain ⟨-, -, -, -, same⟩ := addFunction_eq_ok_iff.mp added
  cases same
  intro other function found
  rw [Arena.get?_push] at found
  split at found
  · cases found
    exact .declare _ _
  · exact addressable other function found

theorem addBlock (addressable : context.Addressable) {id : FunctionId} {block : BlockId}
    (added : context.addBlock id = .ok (context', block)) : context'.Addressable := by
  obtain ⟨content, found, -, same⟩ := addBlock_eq_ok_iff.mp added
  cases same
  intro other function held
  rw [Arena.get?_modify] at held
  split at held
  · obtain ⟨old, oldFound, rfl⟩ := Option.map_eq_some_iff.mp held
    exact (addressable other old oldFound).pushBlock
  · exact addressable other function held

theorem buildInstruction (addressable : context.Addressable) {place : Place} {type : TypeId}
    {instruction : Instruction} {id : ValueId} (inside : place.block < 0x80000000)
    (small : ∀ operand ∈ instruction.operands, operand < 0x80000000)
    (built : Reader.buildInstruction context place type instruction = .ok (context', id)) :
    context'.Addressable := by
  cases instruction with
  | const literal =>
    obtain ⟨function, block, opened, -, same⟩ := buildConst_eq_ok_iff.mp built
    cases same
    exact addressable.replace _
      ((addressable _ function opened.function_eq).pushValue inside small)
  | call callee arguments =>
    have built : context.buildCall place (.own callee) (arguments.map .own) = .ok (context', id) :=
      built
    obtain ⟨function, block, own, type, ids, opened, ownEq, idsEq, -, same⟩ :=
      buildCall_eq_ok_iff.mp built
    cases same
    have idsSame : arguments = ids :=
      List.map_injective_iff.mpr (fun _ _ => Operand.own.inj) idsEq
    subst idsSame
    exact addressable.replace _
      ((addressable _ function opened.function_eq).pushValue inside small)
  | binary operator left right =>
    obtain ⟨function, block, found, type, first, second, opened, -, leftEq, rightEq, -, same⟩ :=
      buildBinary_eq_ok_iff.mp built
    cases same
    cases leftEq
    cases rightEq
    exact addressable.replace _
      ((addressable _ function opened.function_eq).pushValue inside small)

theorem buildBranch (addressable : context.Addressable) {place : Place} {target : BlockId}
    (small : target < 0x80000000) (built : context.buildBranch place (.own target) = .ok context') :
    context'.Addressable := by
  obtain ⟨function, block, own, opened, ownEq, -, same⟩ := buildBranch_eq_ok_iff.mp built
  cases same
  cases ownEq
  exact addressable.replace _ ((addressable _ function opened.function_eq).terminate _ small)

theorem buildReturn (addressable : context.Addressable) {place : Place} {value : ValueId}
    (small : value < 0x80000000) (built : context.buildReturn place (.own value) = .ok context') :
    context'.Addressable := by
  obtain ⟨function, block, own, opened, ownEq, -, same⟩ := buildReturn_eq_ok_iff.mp built
  cases same
  cases ownEq
  exact addressable.replace _ ((addressable _ function opened.function_eq).terminate _ small)

/-- The outlines of a context hold the numbers that its functions hold. -/
theorem outline (addressable : context.Addressable) {outline : Outline}
    (member : outline ∈ context.outlines) : outline.Addressable := by
  obtain ⟨id, held⟩ := List.mem_iff_getElem?.mp member
  obtain ⟨function, found, rfl⟩ := exists_of_outlines held
  have inner := addressable id function found
  have value : ∀ type block instruction,
      (type, .instruction block instruction) ∈ (function.outline context.types).values →
        block < 0x80000000 ∧ ∀ operand ∈ Instruction.operands instruction,
          operand < 0x80000000 := by
    intro type block instruction inside
    obtain ⟨⟨number, origin⟩, valueMember, same⟩ := List.mem_map.mp inside
    cases same
    obtain ⟨position, valueFound⟩ := Arena.mem_toList_iff.mp valueMember
    exact inner.values position number block instruction valueFound
  refine ⟨fun type block instruction inside => (value type block instruction inside).1,
    fun type block instruction inside => (value type block instruction inside).2, ?_⟩
  intro terminator inside
  obtain ⟨content, contentMember, ends⟩ := List.mem_map.mp inside
  obtain ⟨block, contentFound⟩ := Arena.mem_toList_iff.mp contentMember
  exact inner.ends block content terminator contentFound ends

end Addressable
end Context

namespace Reader

/-- Every number that has been gathered fits a signed word of thirty-two bits. -/
structure Gathered.Addressable (gathered : Gathered) : Prop where
  /-- The numbers in the context. -/
  context : gathered.context.Addressable
  /-- The labels of the blocks so far. -/
  blocks : gathered.blocks ≤ 0x80000000
  /-- The blocks of the value lines. -/
  values : ∀ value ∈ gathered.values, value.block < 0x80000000
  /-- What the terminator lines refer to. -/
  terminators : ∀ pending ∈ gathered.terminators, pending.terminator.reference < 0x80000000

theorem Gathered.Addressable.gatherLine {function : FunctionId} {gathered gathered' : Gathered}
    {line : Line} (read : gatherLine function gathered line = .ok gathered')
    (addressable : gathered.Addressable) : gathered'.Addressable := by
  rcases gatherLine_cases read with
    ⟨_, _, label, added, rfl⟩ | ⟨head, column, -, rfl⟩ | ⟨_, _, _, terminator, rfl⟩
  · exact ⟨addressable.context.addBlock added, Grammar.lt_of_readLabel label, addressable.values,
      addressable.terminators⟩
  · refine ⟨addressable.context, addressable.blocks, ?_, addressable.terminators⟩
    intro value member
    rcases List.mem_cons.mp member with rfl | old
    · have few := addressable.blocks
      change gathered.blocks - 1 < 0x80000000
      omega
    · exact addressable.values value old
  · refine ⟨addressable.context, addressable.blocks, addressable.values, ?_⟩
    intro pending member
    rcases List.mem_cons.mp member with rfl | old
    · exact Grammar.lt_of_readTerminator terminator
    · exact addressable.terminators pending old

theorem lt_of_readInstruction {file : Bytes} {context : Context} {value : PendingValue}
    {instruction : Instruction} (read : readInstruction file context value = .ok instruction) :
    ∀ operand ∈ instruction.operands, operand < 0x80000000 := by
  unfold readInstruction at read
  dsimp only at read
  split at read
  · split at read
    · rename_i call
      cases read
      exact Grammar.lt_of_readCall call
    · cases read
  · exact Grammar.lt_of_readSimple read

theorem addressable_of_readBody {file : Bytes} {context context' : Context}
    {declaration : Declaration} (read : readBody file context declaration = .ok context')
    (addressable : context.Addressable) : context'.Addressable := by
  obtain ⟨gathered, lines, read⟩ := bind_eq_ok_iff.mp read
  obtain ⟨middle, values, terminators⟩ := bind_eq_ok_iff.mp read
  have start : ({ context } : Gathered).Addressable :=
    ⟨addressable, Nat.zero_le _, fun _ member => (nomatch member), fun _ member => (nomatch member)⟩
  have held := gather_keeps Gathered.Addressable.gatherLine lines start
  have built : middle.Addressable := by
    refine replayValues_keeps (fun value member before after first early => ?_) values held.context
    obtain ⟨instruction, id, read, built, -⟩ := replayValue_cases first
    have inside : value ∈ gathered.values :=
      List.mem_reverse.mp ((perm_sortByNumber _).mem_iff.mp member)
    exact early.buildInstruction (held.values value inside) (lt_of_readInstruction read) built
  refine replayTerminators_keeps (fun pending member before after first early => ?_) terminators
    built
  have small := held.terminators pending (List.mem_reverse.mp member)
  rcases replayTerminator_cases first with ⟨target, ends, built⟩ | ⟨value, ends, built⟩
  · rw [ends] at small
    exact early.buildBranch small built
  · rw [ends] at small
    exact early.buildReturn small built

end Reader

/-- Every number in a context that was read fits a signed word of thirty-two bits. -/
theorem Context.addressable_of_parse {file source : Bytes} {optimize : Bool} {context : Context}
    (parsed : Context.parse file source optimize = .ok context) : context.Addressable := by
  refine Reader.parse_keeps (fun _ added early => ?_) Reader.addressable_of_readBody parsed
    (.new optimize)
  refine Addressable.addFunction ?_ (Reader.declareHeader_eq_ok_iff.mp added)
  exact early

end Blockwork
