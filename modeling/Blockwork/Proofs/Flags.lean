import Blockwork.Proofs.Decoding

/-!
# What reading does not depend on

The name of a source text shows in messages only, and the request for optimization is handed on as
it is. So a text that can be read under one name and with one request can be read under every name
and with every request, and gives the same context but for the request.
-/

namespace Blockwork
namespace Context

/-- The context with another request for optimization. -/
def flagged (context : Context) (flag : Bool) : Context := { context with optimize := flag }

variable {context context' : Context}

theorem Open.flagged {place : Place} {function : Function} {block : Block}
    (opened : context.Open place function block) (flag : Bool) :
    (context.flagged flag).Open place function block :=
  ⟨opened.building, opened.function_eq, opened.block_eq, opened.unended⟩

theorem addFunction_flagged {raw : Bytes} {signature : Signature} {id : FunctionId}
    (added : context.addFunction raw signature = .ok (context', id)) (flag : Bool) :
    (context.flagged flag).addFunction raw signature = .ok (context'.flagged flag, id) := by
  obtain ⟨building, checked, fresh, known, same⟩ := addFunction_eq_ok_iff.mp added
  cases same
  exact addFunction_eq_ok_iff.mpr ⟨building, checked, fresh, known, rfl⟩

theorem addBlock_flagged {function : FunctionId} {id : BlockId}
    (added : context.addBlock function = .ok (context', id)) (flag : Bool) :
    (context.flagged flag).addBlock function = .ok (context'.flagged flag, id) := by
  obtain ⟨content, found, building, same⟩ := addBlock_eq_ok_iff.mp added
  cases same
  exact addBlock_eq_ok_iff.mpr ⟨content, found, building, rfl⟩

theorem buildInstruction_flagged {place : Place} {type : TypeId} {instruction : Instruction}
    {id : ValueId}
    (built : Reader.buildInstruction context place type instruction = .ok (context', id))
    (flag : Bool) :
    Reader.buildInstruction (context.flagged flag) place type instruction =
      .ok (context'.flagged flag, id) := by
  cases instruction with
  | const literal =>
    obtain ⟨function, block, opened, fits, same⟩ := buildConst_eq_ok_iff.mp built
    cases same
    exact buildConst_eq_ok_iff.mpr ⟨function, block, opened.flagged flag, fits, rfl⟩
  | call callee arguments =>
    have built : context.buildCall place (.own callee) (arguments.map .own) = .ok (context', id) :=
      built
    obtain ⟨function, block, own, type, ids, opened, ownEq, idsEq, fits, same⟩ :=
      buildCall_eq_ok_iff.mp built
    cases same
    exact buildCall_eq_ok_iff.mpr
      ⟨function, block, own, type, ids, opened.flagged flag, ownEq, idsEq, fits, rfl⟩
  | binary operator left right =>
    obtain ⟨function, block, found, type, first, second, opened, operatorEq, leftEq, rightEq, fits,
      same⟩ := buildBinary_eq_ok_iff.mp built
    cases same
    exact buildBinary_eq_ok_iff.mpr ⟨function, block, found, type, first, second,
      opened.flagged flag, operatorEq, leftEq, rightEq, fits, rfl⟩

theorem buildBranch_flagged {place : Place} {target : Target}
    (built : context.buildBranch place target = .ok context') (flag : Bool) :
    (context.flagged flag).buildBranch place target = .ok (context'.flagged flag) := by
  obtain ⟨function, block, own, opened, ownEq, fits, same⟩ := buildBranch_eq_ok_iff.mp built
  cases same
  exact buildBranch_eq_ok_iff.mpr ⟨function, block, own, opened.flagged flag, ownEq, fits, rfl⟩

theorem buildReturn_flagged {place : Place} {operand : Operand}
    (built : context.buildReturn place operand = .ok context') (flag : Bool) :
    (context.flagged flag).buildReturn place operand = .ok (context'.flagged flag) := by
  obtain ⟨function, block, own, opened, ownEq, fits, same⟩ := buildReturn_eq_ok_iff.mp built
  cases same
  exact buildReturn_eq_ok_iff.mpr ⟨function, block, own, opened.flagged flag, ownEq, fits, rfl⟩

end Context

namespace Reader

variable {context context' : Context}

theorem declareHeader_flagged {header : Grammar.Header} {id : FunctionId}
    (declared : declareHeader context header = .ok (context', id)) (flag : Bool) :
    declareHeader (context.flagged flag) header = .ok (context'.flagged flag, id) :=
  declareHeader_eq_ok_iff.mpr
    (Context.addFunction_flagged (declareHeader_eq_ok_iff.mp declared) flag)

theorem declare_flagged {file : Bytes} {lines : List Line} {last : Line}
    {current : Option Declaration} {declarations : List Declaration}
    (declared : declare file last context current lines = .ok (context', declarations))
    (file' : Bytes) (last' : Line) (flag : Bool) :
    declare file' last' (context.flagged flag) current lines =
      .ok (context'.flagged flag, declarations) := by
  induction lines generalizing last last' context current declarations with
  | nil =>
    cases current with
    | none =>
      cases declared
      rfl
    | some declaration => cases declared
  | cons line rest ih =>
    unfold declare at declared ⊢
    dsimp only at declared ⊢
    split at declared
    · rename_i blank
      rw [if_pos blank]
      exact ih declared line
    · rename_i blank
      rw [if_neg blank]
      split at declared
      · split at declared
        · rename_i keyword
          rw [if_pos keyword]
          split at declared
          · cases declared
          · rename_i header _
            split at declared
            · cases declared
            · rename_i middle function added
              rw [declareHeader_flagged added flag]
              exact ih declared line
        · cases declared
      · rename_i declaration
        split at declared
        · rename_i brace
          rw [if_pos brace]
          split at declared
          · rename_i ended
            rw [if_pos ended]
            obtain ⟨⟨middle, others⟩, tail, done⟩ := bind_eq_ok_iff.mp declared
            cases done
            rw [ih tail line]
            rfl
          · cases declared
        · rename_i brace
          rw [if_neg brace]
          exact ih declared line

/-- What has been gathered, with another request for optimization. -/
def Gathered.flagged (gathered : Gathered) (flag : Bool) : Gathered :=
  { gathered with context := gathered.context.flagged flag }

theorem gatherLine_flagged {function : FunctionId} {gathered gathered' : Gathered} {line : Line}
    (read : gatherLine function gathered line = .ok gathered') (flag : Bool) :
    gatherLine function (gathered.flagged flag) line = .ok (gathered'.flagged flag) := by
  obtain ⟨context, blocks, ended, values, terminators⟩ := gathered
  change gatherLine function ⟨context.flagged flag, blocks, ended, values, terminators⟩ line = _
  unfold gatherLine at read ⊢
  dsimp only at read ⊢
  split at read
  · rename_i label
    rw [if_pos label]
    unfold gatherLabel at read ⊢
    obtain ⟨number, labelRead, rest⟩ := bind_eq_ok_iff.mp read
    rw [labelRead, ok_bind]
    split at rest
    · cases rest
    · rename_i expected
      rw [if_neg expected]
      split at rest
      · rename_i added
        cases rest
        rw [Context.addBlock_flagged added flag]
        rfl
      · cases rest
  · rename_i label
    rw [if_neg label]
    split at read
    · cases read
    · rename_i inside
      rw [if_neg inside]
      split at read
      · cases read
      · rename_i unended
        rw [if_neg unended]
        unfold gatherContent at read ⊢
        dsimp only at read ⊢
        split at read
        · rename_i percent
          rw [if_pos percent]
          obtain ⟨head, headRead, done⟩ := bind_eq_ok_iff.mp read
          cases done
          rw [headRead]
          rfl
        · rename_i percent
          rw [if_neg percent]
          split at read
          · rename_i keyword
            rw [if_pos keyword]
            obtain ⟨⟨terminator, column⟩, terminatorRead, done⟩ := bind_eq_ok_iff.mp read
            cases done
            rw [terminatorRead]
            rfl
          · cases read

theorem gather_flagged {file : Bytes} {function : FunctionId} {lines : List Line}
    {gathered gathered' : Gathered} (read : gather file function gathered lines = .ok gathered')
    (file' : Bytes) (flag : Bool) :
    gather file' function (gathered.flagged flag) lines = .ok (gathered'.flagged flag) := by
  induction lines generalizing gathered with
  | nil =>
    cases read
    rfl
  | cons line rest ih =>
    rw [gather] at read ⊢
    split at read
    · rename_i middle first
      rw [gatherLine_flagged first flag]
      exact ih read
    · cases read

theorem readInstruction_flagged {file : Bytes} {value : PendingValue} {instruction : Instruction}
    (read : readInstruction file context value = .ok instruction) (file' : Bytes) (flag : Bool) :
    readInstruction file' (context.flagged flag) value = .ok instruction := by
  unfold readInstruction at read ⊢
  dsimp only at read ⊢
  split at read
  · rename_i call
    rw [if_pos call]
    split at read
    · rename_i callRead
      cases read
      have again : Grammar.readCall (stopOf value.line) (context.flagged flag).functionNamed?
          value.number value.instruction.tail = .ok instruction := callRead
      rw [again]
    · cases read
  · rename_i call
    rw [if_neg call]
    exact read

theorem replayValue_flagged {file : Bytes} {function : FunctionId} {value : PendingValue}
    (replayed : replayValue file function context value = .ok context') (file' : Bytes)
    (flag : Bool) :
    replayValue file' function (context.flagged flag) value = .ok (context'.flagged flag) := by
  unfold replayValue at replayed ⊢
  obtain ⟨numbered, accepted⟩ := of_ite_error_eq_ok replayed
  refine (if_neg numbered).trans ?_
  split at accepted
  · cases accepted
  · rename_i read
    rw [readInstruction_flagged read file' flag]
    dsimp only
    split at accepted
    · cases accepted
    · rename_i built
      obtain ⟨typed, done⟩ := of_ite_eq_ok accepted
      cases done
      rw [Context.buildInstruction_flagged built flag]
      exact if_pos typed

theorem replayValues_flagged {file : Bytes} {function : FunctionId} {values : List PendingValue}
    (replayed : replayValues file function context values = .ok context') (file' : Bytes)
    (flag : Bool) :
    replayValues file' function (context.flagged flag) values = .ok (context'.flagged flag) := by
  induction values generalizing context with
  | nil =>
    cases replayed
    rfl
  | cons value rest ih =>
    rw [replayValues] at replayed ⊢
    split at replayed
    · rename_i first
      rw [replayValue_flagged first file' flag]
      exact ih replayed
    · cases replayed

theorem replayTerminator_flagged {function : FunctionId} {pending : PendingTerminator}
    (replayed : replayTerminator function context pending = .ok context') (flag : Bool) :
    replayTerminator function (context.flagged flag) pending = .ok (context'.flagged flag) := by
  unfold replayTerminator at replayed ⊢
  dsimp only at replayed ⊢
  cases ending : pending.terminator with
  | branch target =>
    rw [ending] at replayed
    obtain ⟨known, accepted⟩ := of_ite_error_eq_ok replayed
    refine (if_neg known).trans ?_
    split at accepted
    · rename_i built
      cases accepted
      rw [Context.buildBranch_flagged built flag]
    · cases accepted
  | result value =>
    rw [ending] at replayed
    obtain ⟨known, accepted⟩ := of_ite_error_eq_ok replayed
    refine (if_neg known).trans ?_
    split at accepted
    · rename_i built
      cases accepted
      rw [Context.buildReturn_flagged built flag]
    · cases accepted

theorem replayTerminators_flagged {file : Bytes} {function : FunctionId}
    {terminators : List PendingTerminator}
    (replayed : replayTerminators file function context terminators = .ok context')
    (file' : Bytes) (flag : Bool) :
    replayTerminators file' function (context.flagged flag) terminators =
      .ok (context'.flagged flag) := by
  induction terminators generalizing context with
  | nil =>
    cases replayed
    rfl
  | cons pending rest ih =>
    rw [replayTerminators] at replayed ⊢
    split at replayed
    · rename_i first
      rw [replayTerminator_flagged first flag]
      exact ih replayed
    · cases replayed

theorem readBody_flagged {file : Bytes} {declaration : Declaration}
    (read : readBody file context declaration = .ok context') (file' : Bytes) (flag : Bool) :
    readBody file' (context.flagged flag) declaration = .ok (context'.flagged flag) := by
  obtain ⟨gathered, lines, read⟩ := bind_eq_ok_iff.mp read
  obtain ⟨middle, values, terminators⟩ := bind_eq_ok_iff.mp read
  have again : gather file' declaration.function { context := context.flagged flag }
      declaration.body = .ok (gathered.flagged flag) := gather_flagged lines file' flag
  rw [readBody, again, ok_bind]
  exact bind_eq_ok_iff.mpr ⟨_, replayValues_flagged values file' flag,
    replayTerminators_flagged terminators file' flag⟩

theorem readBodies_flagged {file : Bytes} {declarations : List Declaration}
    (read : (readBodies file context declarations).outcome = .ok context') (file' : Bytes)
    (flag : Bool) :
    (readBodies file' (context.flagged flag) declarations).outcome =
      .ok (context'.flagged flag) := by
  induction declarations generalizing context with
  | nil =>
    cases read
    rfl
  | cons declaration rest ih =>
    rw [readBodies] at read ⊢
    split at read
    · cases read
    · rename_i first
      rw [readBody_flagged first file' flag]
      exact ih read

end Reader

/-- A text is read alike under every name and with every request for optimization. -/
theorem Context.parse_flagged {file source : Bytes} {optimize : Bool} {context : Context}
    (parsed : Context.parse file source optimize = .ok context) (file' : Bytes) (flag : Bool) :
    Context.parse file' source flag = .ok (context.flagged flag) := by
  unfold Context.parse Reader.read at parsed ⊢
  split at parsed
  · cases parsed
  · rename_i declared
    have again : Reader.declare file' ⟨1, []⟩ (Context.new flag) none (Line.split source) = _ :=
      Reader.declare_flagged declared file' ⟨1, []⟩ flag
    rw [again]
    exact Reader.readBodies_flagged parsed file' flag

end Blockwork
