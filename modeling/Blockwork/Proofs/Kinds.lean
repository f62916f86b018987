import Blockwork.Program.Completeness
import Blockwork.Proofs.Failures
import Blockwork.Proofs.LineReading
import Blockwork.Source.Reader

/-!
# Where failures come from

Each operation fails with failures of few kinds: construction and reading refuse what is not
allowed, a check finds what is incomplete. None of them is ever cancelled, since none asks whether
it should go on.
-/

namespace Blockwork

/-- Whenever an outcome is an error, the error is as described. -/
def Blames {ε α : Type} (outcome : Except ε α) (described : ε → Prop) : Prop :=
  ∀ error, outcome = .error error → described error

namespace Blames

variable {ε α β : Type} {described : ε → Prop}

theorem ok (value : α) : Blames (.ok value) described := nofun

theorem error {error : ε} (holds : described error) :
    Blames (.error error : Except ε α) described := by
  rintro _ ⟨⟩
  exact holds

theorem bind {outcome : Except ε α} {next : α → Except ε β} (first : Blames outcome described)
    (second : ∀ value, Blames (next value) described) :
    Blames (outcome >>= next) described := by
  cases outcome with
  | error problem => exact .error (first problem rfl)
  | ok value => exact second value

theorem ite {condition : Prop} [Decidable condition] {first second : Except ε α}
    (yes : Blames first described) (no : Blames second described) :
    Blames (if condition then first else second) described := by
  split
  · exact yes
  · exact no

theorem imp {described' : ε → Prop} {outcome : Except ε α} (blames : Blames outcome described)
    (weaker : ∀ error, described error → described' error) : Blames outcome described' :=
  fun error failed => weaker error (blames error failed)

theorem mapM {items : List α} {action : α → Except ε β}
    (each : ∀ item, Blames (action item) described) : Blames (items.mapM action) described := by
  induction items with
  | nil => exact .ok []
  | cons item rest ih =>
    rw [List.mapM_cons]
    exact (each item).bind fun _ => ih.bind fun _ => .ok _

end Blames

/-- The kinds of failure that construction can have. -/
def FailureKind.ofConstruction : List FailureKind :=
  [.terminatorAlreadySet, .typeMismatch, .arityMismatch, .crossFunction, .invalidHandle,
   .invalidName, .invalidOpcode, .contextClosed, .duplicateFunction, .invalidType]

/-- A failed construction operation is one of a kind that construction can have. -/
def BuildError.Regular (error : BuildError) : Prop :=
  error.fault.kind ∈ FailureKind.ofConstruction

/-- An operation that fails with a fault of a kind that construction can have is a regular one. -/
theorem Blames.refusal {α : Type} {error : BuildError} (kind : FailureKind)
    (same : error.fault.kind = kind) (known : FailureKind.ofConstruction.contains kind = true) :
    Blames (.error error : Except BuildError α) BuildError.Regular := by
  refine .error ?_
  rw [BuildError.Regular, same]
  exact List.contains_iff_mem.mp known

theorem FunctionName.blames_check (name : Bytes) :
    Blames (check name) fun fault => fault.kind = .invalidName := by
  unfold check
  refine .ite (.error rfl) ?_
  cases (Glyph.list name).find? fun glyph => isReserved glyph.char with
  | none => exact .ok ()
  | some glyph => exact .error rfl

namespace Context

theorem blames_usable (context : Context) :
    Blames context.usable fun fault => fault.kind = .contextClosed := by
  unfold usable
  cases context.phase with
  | building => exact .ok ()
  | consumed => exact .error rfl
  | destroyed => exact .error rfl

theorem blames_readable (context : Context) :
    Blames context.readable fun fault => fault.kind = .contextClosed := by
  unfold readable
  cases context.phase with
  | building => exact .ok ()
  | consumed => exact .ok ()
  | destroyed => exact .error rfl

section Operations

variable (context : Context) (place : Place)

theorem blames_addFunction (name : Bytes) (signature : Signature) :
    Blames (context.addFunction name signature) BuildError.Regular := by
  rw [addFunction_eq]
  cases usable : context.usable with
  | error fault => exact .refusal .contextClosed (context.blames_usable fault usable) rfl
  | ok _ =>
    cases named : FunctionName.check (Text.normalize name) with
    | error fault =>
      dsimp only
      rw [named]
      exact .refusal .invalidName (FunctionName.blames_check _ fault named) rfl
    | ok _ =>
      dsimp only
      rw [named]
      exact .ite (.refusal .duplicateFunction rfl rfl) (.ite (.ok _) (.refusal .invalidType rfl rfl))

theorem blames_usableFunction (action : Bytes) (id : FunctionId) :
    Blames (context.usableFunction action id) BuildError.Regular := by
  unfold usableFunction
  cases context.functions.get? id with
  | none => exact .refusal .invalidHandle rfl rfl
  | some function =>
    cases usable : context.usable with
    | error fault => exact .refusal .contextClosed (context.blames_usable fault usable) rfl
    | ok _ => exact .ok _

theorem blames_addBlock (id : FunctionId) :
    Blames (context.addBlock id) BuildError.Regular := by
  rw [addBlock_eq]
  exact (context.blames_usableFunction _ id).bind fun _ => .ok _

theorem blames_openBlock (action : Bytes) :
    Blames (context.openBlock action place) BuildError.Regular := by
  unfold openBlock
  cases context.at? place with
  | none => exact .refusal .invalidHandle rfl rfl
  | some found =>
    cases usable : context.usable with
    | error fault => exact .refusal .contextClosed (context.blames_usable fault usable) rfl
    | ok _ =>
      obtain ⟨function, values, terminator⟩ := found
      cases terminator with
      | none => exact .ok _
      | some terminator => exact .refusal .terminatorAlreadySet rfl rfl

theorem blames_ownValue (action : Bytes) (function : Function) (role : Bytes) (operand : Operand) :
    Blames (context.ownValue action place function role operand) BuildError.Regular := by
  unfold ownValue
  cases operand with
  | missing => exact .refusal .invalidHandle rfl rfl
  | foreign id owner => exact .refusal .crossFunction rfl rfl
  | own id =>
    dsimp only
    cases function.values.get? id with
    | none => exact .refusal .invalidHandle rfl rfl
    | some value => exact .ok _

theorem blames_buildConst (type : TypeId) (literal : UInt64) :
    Blames (context.buildConst place type literal) BuildError.Regular := by
  rw [buildConst_eq]
  refine (context.blames_openBlock place _).bind fun function => ?_
  exact .ite (.ok _) (.refusal .invalidType rfl rfl)

theorem blames_callArguments (function : Function) (callee : Bytes) (index : Nat)
    (inputs : List TypeId) (operands : List Operand) :
    Blames (context.callArguments place function callee index inputs operands)
      BuildError.Regular := by
  induction inputs generalizing index operands with
  | nil => exact .ok _
  | cons input inputs ih =>
    cases operands with
    | nil => exact .ok _
    | cons operand operands =>
      refine (context.blames_ownValue place _ function _ operand).bind ?_
      rintro ⟨id, value⟩
      exact .ite ((ih _ operands).bind fun _ => .ok _) (.refusal .typeMismatch rfl rfl)

theorem blames_ownFunction (action : Bytes) (callee : Callee) :
    Blames (context.ownFunction action place callee) BuildError.Regular := by
  cases callee with
  | missing => exact .refusal .invalidHandle rfl rfl
  | foreign name => exact .refusal .invalidHandle rfl rfl
  | own id =>
    dsimp only [ownFunction]
    cases context.functions.get? id with
    | none => exact .refusal .invalidHandle rfl rfl
    | some target => exact .ok _

theorem blames_buildCall (callee : Callee) (operands : List Operand) :
    Blames (context.buildCall place callee operands) BuildError.Regular := by
  rw [buildCall_eq]
  refine (context.blames_openBlock place _).bind fun function => ?_
  refine (context.blames_ownFunction place _ callee).bind ?_
  rintro ⟨id, target⟩
  refine .ite ?_ (.refusal .arityMismatch rfl rfl)
  exact (context.blames_callArguments place function _ 0 _ operands).bind fun _ => .ok _

theorem blames_buildBinary (code : UInt8) (left right : Operand) :
    Blames (context.buildBinary place code left right) BuildError.Regular := by
  rw [buildBinary_eq]
  refine (context.blames_openBlock place _).bind fun function => ?_
  cases Operator.ofCode? code with
  | none => exact .refusal .invalidOpcode rfl rfl
  | some operator =>
    refine (context.blames_ownValue place _ function _ left).bind ?_
    rintro ⟨leftId, leftValue⟩
    refine (context.blames_ownValue place _ function _ right).bind ?_
    rintro ⟨rightId, rightValue⟩
    exact .ite (.ok _) (.refusal .typeMismatch rfl rfl)

theorem blames_ownBlock (action : Bytes) (function : Function) (target : Target) :
    Blames (context.ownBlock action place function target) BuildError.Regular := by
  cases target with
  | missing => exact .refusal .invalidHandle rfl rfl
  | foreign block owner => exact .refusal .crossFunction rfl rfl
  | own block => exact .ite (.ok _) (.refusal .invalidHandle rfl rfl)

theorem blames_buildBranch (target : Target) :
    Blames (context.buildBranch place target) BuildError.Regular := by
  rw [buildBranch_eq]
  refine (context.blames_openBlock place _).bind fun function => ?_
  exact (context.blames_ownBlock place _ function target).bind fun _ => .ok _

theorem blames_buildReturn (operand : Operand) :
    Blames (context.buildReturn place operand) BuildError.Regular := by
  rw [buildReturn_eq]
  refine (context.blames_openBlock place _).bind fun function => ?_
  refine (context.blames_ownValue place _ function _ operand).bind ?_
  rintro ⟨id, value⟩
  exact .ite (.ok _) (.refusal .typeMismatch rfl rfl)

end Operations
end Context

namespace Failure

/-- A failure that is no cancellation. -/
def Genuine (failure : Failure) : Prop := .canceled ∉ failure.kinds

instance (failure : Failure) : Decidable failure.Genuine := inferInstanceAs (Decidable (¬ _))

theorem genuine_iff {failure : Failure} : failure.Genuine ↔ failure.hasKind .canceled = false := by
  simp [Genuine, hasKind]

variable {label separator message : Bytes} {failure first second : Failure}

theorem genuine_text : (text message).Genuine := List.not_mem_nil

theorem genuine_file (error : FileError) : (file error).Genuine := by
  unfold Genuine kinds
  split <;> decide

theorem genuine_fault {reason : Fault} (kind : FailureKind) (same : reason.kind = kind)
    (other : (FailureKind.canceled == kind) = false) : (fault reason).Genuine := by
  rw [Genuine, kinds, same, List.mem_singleton]
  exact beq_eq_false_iff_ne.mp other

theorem genuine_build {error : BuildError} (regular : error.Regular) : (build error).Genuine := by
  intro cancelled
  rw [kinds, List.mem_singleton] at cancelled
  rw [BuildError.Regular, ← cancelled] at regular
  exact absurd regular (by decide)

theorem genuine_within : (within label failure).Genuine ↔ failure.Genuine := Iff.rfl

theorem genuine_both :
    (both first separator second).Genuine ↔ first.Genuine ∧ second.Genuine := by
  simp [Genuine, kinds]

theorem genuine_of_join {failures : List Failure} (joined : join failures = some failure)
    (each : ∀ item ∈ failures, item.Genuine) : failure.Genuine := by
  rw [Genuine, kinds_of_join joined, List.mem_flatMap]
  rintro ⟨item, inside, cancelled⟩
  exact each item inside cancelled

end Failure

/-- A complaint that gives no reason, or one that is no cancellation. -/
def Complaint.Genuine (complaint : Complaint) : Prop :=
  ∀ cause ∈ complaint.cause, cause.Genuine

/-- A reading that fails for no reason, or for one that is no cancellation. -/
def ParseError.Genuine (error : ParseError) : Prop :=
  ∀ cause ∈ error.cause, cause.Genuine

theorem ParseError.Genuine.toFailure {error : ParseError} (genuine : error.Genuine) :
    error.toFailure.Genuine := by
  unfold ParseError.toFailure
  cases given : error.cause with
  | none => exact List.not_mem_nil
  | some cause => exact genuine cause given

/-- A complaint without a reason. -/
theorem Blames.plain {α : Type} {complaint : Complaint} (none : complaint.cause = none) :
    Blames (.error complaint : Except Complaint α) Complaint.Genuine :=
  .error fun cause given => by rw [none] at given; cases given

/-- A complaint that passes a reason on. -/
theorem Blames.caused {α : Type} {complaint : Complaint} {cause : Failure}
    (given : complaint.cause = some cause) (genuine : cause.Genuine) :
    Blames (.error complaint : Except Complaint α) Complaint.Genuine :=
  .error fun other same => by rw [given] at same; cases same; exact genuine

namespace Grammar

variable (stop : Token) (tokens : List Token)

theorem blames_expect (kind : TokenKind) (what : Bytes) :
    Blames (expect stop kind what tokens) Complaint.Genuine := by
  exact .ite (.ok _) (.plain rfl)

theorem blames_keyword (word : String) :
    Blames (keyword stop word tokens) Complaint.Genuine := by
  exact .ite (.ok _) (.plain rfl)

theorem blames_finish : Blames (finish stop tokens) Complaint.Genuine :=
  (blames_expect stop tokens _ _).bind fun _ => .ok ()

theorem blames_descriptor (token : Token) : Blames (descriptor token) Complaint.Genuine := by
  refine .ite (.plain rfl) (.ite (.ok _) ?_)
  cases Bytes.dropBeginning? (utf8 "i") token.text with
  | none => exact .plain rfl
  | some digits =>
    refine .ite ?_ (.plain rfl)
    cases Numeral.fitting? 32 digits with
    | none => exact .plain rfl
    | some width => exact .ok _

theorem blames_typeOf (token : Token) : Blames (typeOf token) Complaint.Genuine := by
  refine (blames_descriptor token).bind fun type => ?_
  rw [Descriptor.check]
  by_cases valid : type.Valid
  · rw [if_pos valid]
    exact .ok _
  · rw [if_neg valid]
    exact .caused rfl (Failure.genuine_fault .invalidType rfl rfl)

theorem blames_readType : Blames (readType stop tokens) Complaint.Genuine :=
  (blames_typeOf _).bind fun _ => .ok _

theorem blames_readTypes : Blames (readTypes stop tokens) Complaint.Genuine := by
  fun_induction readTypes stop tokens with
  | case1 token separator rest ih =>
    refine (blames_typeOf token).bind fun type => ?_
    split
    · exact .ok _
    · exact ih.bind fun _ => .ok _
    · exact .plain rfl
  | case2 tokens =>
    exact (blames_typeOf _).bind fun _ => .plain rfl

theorem blames_readHeader : Blames (readHeader stop tokens) Complaint.Genuine := by
  refine (blames_expect stop tokens _ _).bind ?_
  rintro ⟨name, tokens⟩
  refine (blames_expect stop tokens _ _).bind ?_
  rintro ⟨_, tokens⟩
  dsimp only
  rw [ite_bind]
  refine Blames.bind (.ite (.ok _) (blames_readTypes stop tokens)) ?_
  rintro ⟨inputs, tokens⟩
  refine (blames_keyword stop tokens _).bind ?_
  rintro ⟨_, tokens⟩
  refine (blames_readType stop tokens).bind ?_
  rintro ⟨output, tokens⟩
  refine (blames_expect stop tokens _ _).bind ?_
  rintro ⟨_, tokens⟩
  exact (blames_finish stop tokens).bind fun _ => .ok _

theorem blames_index (digits : Bytes) : Blames (Numeral.index digits) Failure.Genuine := by
  unfold Numeral.index
  cases Numeral.fitting? 64 digits with
  | none => exact .error Failure.genuine_text
  | some number => exact .ite (.ok _) (.error Failure.genuine_text)

theorem blames_labelOf (token : Token) : Blames (labelOf token) Complaint.Genuine := by
  unfold labelOf
  refine .ite (.plain rfl) ?_
  cases Bytes.dropBeginning? (utf8 "bb") token.text with
  | none => exact .plain rfl
  | some digits =>
    refine .ite ?_ (.plain rfl)
    cases read : Numeral.index digits with
    | ok number => exact .ok _
    | error cause => exact .caused rfl (blames_index digits cause read)

theorem blames_readLabel : Blames (readLabel stop tokens) Complaint.Genuine := by
  refine (blames_labelOf _).bind fun number => ?_
  refine (blames_expect stop _ _ _).bind ?_
  rintro ⟨_, tokens⟩
  exact (blames_finish stop tokens).bind fun _ => .ok _

theorem blames_referenceOf (percent digits : Token) :
    Blames (referenceOf percent digits) Complaint.Genuine := by
  unfold referenceOf
  refine .ite (.plain rfl) (.ite (.plain rfl) ?_)
  cases read : Numeral.index digits.text with
  | ok number => exact .ok _
  | error cause => exact .caused rfl (blames_index digits.text cause read)

theorem blames_readReference : Blames (readReference stop tokens) Complaint.Genuine :=
  (blames_referenceOf _ _).bind fun _ => .ok _

theorem blames_readValueHead : Blames (readValueHead stop tokens) Complaint.Genuine := by
  refine (blames_readReference stop tokens).bind ?_
  rintro ⟨number, tokens⟩
  refine (blames_expect stop tokens _ _).bind ?_
  rintro ⟨_, tokens⟩
  refine (blames_readType stop tokens).bind ?_
  rintro ⟨type, tokens⟩
  refine (blames_expect stop tokens _ _).bind ?_
  rintro ⟨_, tokens⟩
  exact .ite (.plain rfl) (.ok _)

theorem blames_readTerminator : Blames (readTerminator stop tokens) Complaint.Genuine := by
  refine .ite ?_ ?_
  · refine (blames_labelOf _).bind fun target => ?_
    exact (blames_finish stop _).bind fun _ => .ok _
  · refine (blames_readReference stop _).bind ?_
    rintro ⟨value, rest⟩
    exact (blames_finish stop rest).bind fun _ => .ok _

variable (user : ValueId)

theorem blames_operandOf (percent digits : Token) :
    Blames (operandOf user percent digits) Complaint.Genuine := by
  refine (blames_referenceOf percent digits).bind fun number => ?_
  exact .ite (.ok _) (.plain rfl)

theorem blames_readOperand : Blames (readOperand stop user tokens) Complaint.Genuine :=
  (blames_operandOf user _ _).bind fun _ => .ok _

theorem blames_readOperands : Blames (readOperands stop user tokens) Complaint.Genuine := by
  fun_induction readOperands stop user tokens with
  | case1 percent digits separator rest ih =>
    refine (blames_operandOf user percent digits).bind fun number => ?_
    split
    · exact .ok _
    · exact ih.bind fun _ => .ok _
    · exact .plain rfl
  | case2 tokens =>
    exact (blames_operandOf user _ _).bind fun _ => .plain rfl

theorem blames_readCall (callable : Bytes → Option FunctionId) :
    Blames (readCall stop callable user tokens) Complaint.Genuine := by
  refine (blames_expect stop tokens _ _).bind ?_
  rintro ⟨name, tokens⟩
  dsimp only
  cases callable name.text with
  | none => exact .plain rfl
  | some callee =>
    refine (blames_expect stop tokens _ _).bind ?_
    rintro ⟨_, tokens⟩
    dsimp only
    rw [ite_bind]
    refine Blames.bind (.ite (.ok _) (blames_readOperands stop tokens user)) ?_
    rintro ⟨operands, tokens⟩
    exact (blames_finish stop tokens).bind fun _ => .ok _

theorem blames_readSimple : Blames (readSimple stop user tokens) Complaint.Genuine := by
  refine .ite (.plain rfl) (.ite ?_ ?_)
  · cases Numeral.fitting? 64 (peek stop tokens).text with
    | none => exact .plain rfl
    | some literal => exact (blames_finish stop _).bind fun _ => .ok _
  · cases Operator.ofMnemonic? (peek stop tokens).text with
    | none => exact .plain rfl
    | some operator =>
      refine (blames_readOperand stop _ user).bind ?_
      rintro ⟨left, tokens⟩
      refine (blames_readOperand stop tokens user).bind ?_
      rintro ⟨right, tokens⟩
      exact (blames_finish stop tokens).bind fun _ => .ok _

end Grammar

namespace Reader

variable (file : Bytes)

/-- A complaint that is no cancellation is none in its line either. -/
theorem blames_locate {α : Type} {complaint : Complaint} (line : Line)
    (genuine : complaint.Genuine) :
    Blames (.error (complaint.locate file line) : Except ParseError α) ParseError.Genuine :=
  .error genuine

/-- So is one without a reason. -/
theorem blames_message {α : Type} (column : Nat) (message : Bytes) (line : Line) :
    Blames (.error (Complaint.locate ⟨column, message, none⟩ file line) : Except ParseError α)
      ParseError.Genuine :=
  blames_locate file line nofun

theorem blames_declareHeader (context : Context) (header : Grammar.Header) :
    Blames (declareHeader context header) Complaint.Genuine := by
  unfold declareHeader
  dsimp only
  cases added : Context.addFunction _ (Text.normalize header.name) _ with
  | ok added => exact .ok _
  | error error =>
    exact .caused rfl (Failure.genuine_build (Context.blames_addFunction _ _ _ error added))

theorem blames_declare (last : Line) (context : Context) (current : Option Declaration)
    (lines : List Line) :
    Blames (declare file last context current lines) ParseError.Genuine := by
  induction lines generalizing last context current with
  | nil =>
    cases current with
    | none => exact .ok _
    | some declaration => exact blames_message file _ _ last
  | cons line rest ih =>
    cases current with
    | none =>
      refine .ite (ih _ _ _) (.ite ?_ (blames_message file _ _ line))
      cases read : Grammar.readHeader (stopOf line) line.tokens.tail with
      | error complaint =>
        exact blames_locate file line (Grammar.blames_readHeader _ _ complaint read)
      | ok header =>
        cases declared : declareHeader context header with
        | error complaint =>
          dsimp only
          rw [declared]
          exact blames_locate file line (blames_declareHeader _ _ complaint declared)
        | ok added =>
          dsimp only
          rw [declared]
          exact ih _ _ _
    | some declaration =>
      refine .ite (ih _ _ _) (.ite (.ite ?_ (blames_message file _ _ line)) (ih _ _ _))
      exact (ih _ _ _).bind fun _ => .ok _

theorem blames_gatherLabel (function : FunctionId) (gathered : Gathered) (line : Line)
    (first : Token) : Blames (gatherLabel function gathered line first) Complaint.Genuine := by
  refine (Grammar.blames_readLabel _ _).bind fun number => ?_
  refine .ite (.plain rfl) ?_
  cases added : gathered.context.addBlock function with
  | ok added => exact .ok _
  | error error =>
    exact .caused rfl (Failure.genuine_build (Context.blames_addBlock _ _ error added))

theorem blames_gatherContent (gathered : Gathered) (block : BlockId) (line : Line)
    (first : Token) : Blames (gatherContent gathered block line first) Complaint.Genuine := by
  refine .ite ?_ (.ite ?_ (.plain rfl))
  · exact (Grammar.blames_readValueHead _ _).bind fun _ => .ok _
  · exact (Grammar.blames_readTerminator _ _).bind fun _ => .ok _

theorem blames_gatherLine (function : FunctionId) (gathered : Gathered) (line : Line) :
    Blames (gatherLine function gathered line) Complaint.Genuine := by
  refine .ite (blames_gatherLabel function gathered line _) ?_
  refine .ite (.plain rfl) (.ite (.plain rfl) ?_)
  exact blames_gatherContent gathered _ line _

theorem blames_gather (function : FunctionId) (gathered : Gathered) (lines : List Line) :
    Blames (gather file function gathered lines) ParseError.Genuine := by
  induction lines generalizing gathered with
  | nil => exact .ok _
  | cons line rest ih =>
    rw [gather]
    cases read : gatherLine function gathered line with
    | ok gathered => exact ih gathered
    | error complaint =>
      exact blames_locate file line (blames_gatherLine function gathered line complaint read)

theorem blames_readInstruction (context : Context) (value : PendingValue) :
    Blames (readInstruction file context value) Complaint.Genuine := by
  refine .ite ?_ (Grammar.blames_readSimple _ _ _)
  cases read : Grammar.readCall (stopOf value.line) context.functionNamed? value.number
      value.instruction.tail with
  | ok instruction => exact .ok _
  | error complaint =>
    have genuine : (complaint.locate file value.line).Genuine :=
      Grammar.blames_readCall _ _ _ _ complaint read
    exact .caused rfl genuine.toFailure

theorem blames_buildInstruction (context : Context) (place : Place) (type : TypeId)
    (instruction : Instruction) :
    Blames (buildInstruction context place type instruction) BuildError.Regular := by
  cases instruction with
  | const literal => exact context.blames_buildConst place type literal
  | call callee operands => exact context.blames_buildCall place (.own callee) (operands.map .own)
  | binary operator left right =>
    exact context.blames_buildBinary place operator.code (.own left) (.own right)

theorem blames_replayValue (function : FunctionId) (context : Context) (value : PendingValue) :
    Blames (replayValue file function context value) Complaint.Genuine := by
  unfold replayValue
  refine .ite (.plain rfl) ?_
  cases read : readInstruction file context value with
  | error complaint => exact .error (blames_readInstruction file context value complaint read)
  | ok instruction =>
    dsimp only
    cases built : buildInstruction context ⟨function, value.block⟩ value.type instruction with
    | error error =>
      exact .caused rfl (Failure.genuine_build (blames_buildInstruction _ _ _ _ error built))
    | ok built => exact .ite (.ok _) (.plain rfl)

theorem blames_replayValues (function : FunctionId) (context : Context)
    (values : List PendingValue) :
    Blames (replayValues file function context values) ParseError.Genuine := by
  induction values generalizing context with
  | nil => exact .ok _
  | cons value rest ih =>
    rw [replayValues]
    cases replayed : replayValue file function context value with
    | ok context => exact ih context
    | error complaint =>
      exact blames_locate file value.line
        (blames_replayValue file function context value complaint replayed)

theorem blames_replayTerminator (function : FunctionId) (context : Context)
    (pending : PendingTerminator) :
    Blames (replayTerminator function context pending) Complaint.Genuine := by
  unfold replayTerminator
  cases pending.terminator with
  | branch target =>
    refine .ite (.plain rfl) ?_
    cases built : context.buildBranch ⟨function, pending.block⟩ (.own target) with
    | ok context => exact .ok _
    | error error =>
      exact .caused rfl (Failure.genuine_build (context.blames_buildBranch _ _ error built))
  | result value =>
    refine .ite (.plain rfl) ?_
    cases built : context.buildReturn ⟨function, pending.block⟩ (.own value) with
    | ok context => exact .ok _
    | error error =>
      exact .caused rfl (Failure.genuine_build (context.blames_buildReturn _ _ error built))

theorem blames_replayTerminators (function : FunctionId) (context : Context)
    (terminators : List PendingTerminator) :
    Blames (replayTerminators file function context terminators) ParseError.Genuine := by
  induction terminators generalizing context with
  | nil => exact .ok _
  | cons pending rest ih =>
    rw [replayTerminators]
    cases replayed : replayTerminator function context pending with
    | ok context => exact ih context
    | error complaint =>
      exact blames_locate file pending.line
        (blames_replayTerminator function context pending complaint replayed)

theorem blames_readBody (context : Context) (declaration : Declaration) :
    Blames (readBody file context declaration) ParseError.Genuine := by
  refine (blames_gather file _ _ _).bind fun gathered => ?_
  refine (blames_replayValues file _ _ _).bind fun context => ?_
  exact blames_replayTerminators file _ context _

theorem blames_readBodies (context : Context) (declarations : List Declaration) :
    Blames (readBodies file context declarations).outcome ParseError.Genuine := by
  induction declarations generalizing context with
  | nil => exact .ok _
  | cons declaration rest ih =>
    rw [readBodies]
    cases read : readBody file context declaration with
    | error error => exact .error (blames_readBody file context declaration error read)
    | ok context => exact ih context

end Reader

/-- A text that cannot be read is never refused for being cancelled. -/
theorem Context.blames_parse (file source : Bytes) (optimize : Bool) :
    Blames (Context.parse file source optimize) ParseError.Genuine := by
  unfold Context.parse Reader.read
  cases declared : Reader.declare file ⟨1, []⟩ (.new optimize) none (Line.split source) with
  | error error => exact .error (Reader.blames_declare file _ _ _ _ error declared)
  | ok declared => exact Reader.blames_readBodies file _ _

/-- A context that is not complete is never refused for being cancelled. -/
theorem Context.blames_validate (context : Context) :
    Blames context.validate Failure.Genuine := by
  have gap (gap : Gap) : gap.failure.Genuine := by
    cases gap with
    | noBlocks => exact Failure.genuine_fault .emptyFunction rfl rfl
    | openBlock block =>
      exact Failure.genuine_within.mpr (Failure.genuine_fault .unterminatedBlock rfl rfl)
  have missing : ∀ failure ∈ context.failures, failure.Genuine := by
    intro failure listed
    obtain ⟨function, -, found⟩ := List.mem_filterMap.mp listed
    obtain ⟨inner, joined, rfl⟩ := Option.map_eq_some_iff.mp found
    refine Failure.genuine_within.mpr (Failure.genuine_of_join joined fun item inside => ?_)
    obtain ⟨piece, -, rfl⟩ := List.mem_map.mp inside
    exact gap piece
  unfold validate
  cases readable : context.readable with
  | error fault =>
    exact .error (Failure.genuine_fault .contextClosed (context.blames_readable fault readable) rfl)
  | ok _ =>
    unfold Failure.toExcept
    cases joined : Failure.join context.failures with
    | none => exact .ok ()
    | some failure => exact .error (Failure.genuine_of_join joined missing)

end Blockwork
