import Blockwork.Program.Construction
import Blockwork.Source.Grammar

/-!
# Reading the textual form

A source text is read in two rounds. First every header is read and its function declared, so that
calls may refer to functions further down. Then the bodies are read, one after the other: the
lines of a body are gathered, its values are built in the order of their numbers, wherever they
stand, and at last its blocks are ended. Numbers and labels have to be the ones that construction
assigns.
-/

namespace Blockwork
namespace Reader

/-- A function whose header has been read, with the lines of its body. -/
structure Declaration where
  /-- The number of the function. -/
  function : FunctionId
  /-- Its name. -/
  name : Bytes
  /-- The lines between header and closing bracket, without empty ones. -/
  body : List Line
deriving DecidableEq, Repr

/-- Interns types in order. -/
def internAll (types : Interner) : List Descriptor → Interner × List TypeId
  | [] => (types, [])
  | type :: rest =>
    let (types, id) := types.insert type
    let (types, ids) := internAll types rest
    (types, id :: ids)

/-- Declares the function of a header. -/
def declareHeader (context : Context) (header : Grammar.Header) :
    Except Complaint (Context × FunctionId) :=
  let (types, inputs) := internAll context.types header.inputs
  let (types, output) := types.insert header.output
  match { context with types }.addFunction (Text.normalize header.name) ⟨inputs, output⟩ with
  | .ok added => .ok added
  | .error error =>
    .error ⟨header.column, utf8 "cannot declare function", some (.build error)⟩

/-- The end-of-line token of a line. -/
def stopOf (line : Line) : Token := ⟨.endOfLine, [], line.text.length + 1⟩

/-- The rounds over the lines that declare every function. `current` is the function whose body is
being gathered, with its lines latest first. -/
def declare (file : Bytes) (last : Line) (context : Context) (current : Option Declaration) :
    List Line → Except ParseError (Context × List Declaration)
  | [] =>
    match current with
    | none => .ok (context, [])
    | some declaration =>
      .error (Complaint.locate
        ⟨1, utf8 "function " ++ declaration.name ++ utf8 " is missing its closing '\x7d'", none⟩
        file last)
  | line :: rest =>
    let stop := stopOf line
    let first := Grammar.peek stop line.tokens
    let second := Grammar.peek stop line.tokens.tail
    if first.kind = .endOfLine then declare file line context current rest
    else
      match current with
      | none =>
        if first.isWord "define" then
          match Grammar.readHeader stop line.tokens.tail with
          | .error complaint => .error (complaint.locate file line)
          | .ok header =>
            match declareHeader context header with
            | .error complaint => .error (complaint.locate file line)
            | .ok (context, function) =>
              declare file line context (some ⟨function, Text.normalize header.name, []⟩) rest
        else
          .error (Complaint.locate
            ⟨first.column, utf8 "expected 'define', found " ++ Text.Quoted.text first.text, none⟩
            file line)
      | some declaration =>
        if first.kind = .mark .rightBrace then
          if second.kind = .endOfLine then do
            let (context, declarations) ← declare file line context none rest
            pure (context, { declaration with body := declaration.body.reverse } :: declarations)
          else
            .error (Complaint.locate
              ⟨second.column, utf8 "unexpected " ++ second.kind.name ++ utf8 " after '\x7d'", none⟩
              file line)
        else
          declare file line context
            (some { declaration with body := line :: declaration.body }) rest

/-- A value line waiting for its turn. -/
structure PendingValue where
  /-- The line. -/
  line : Line
  /-- The block it stands in. -/
  block : BlockId
  /-- The number it gives the value. -/
  number : ValueId
  /-- The column of that number. -/
  column : Nat
  /-- The type it gives the value. -/
  type : TypeId
  /-- The tokens of its instruction. -/
  instruction : List Token
deriving DecidableEq, Repr

/-- A terminator line waiting for its turn. -/
structure PendingTerminator where
  /-- The line. -/
  line : Line
  /-- The block it stands in. -/
  block : BlockId
  /-- The column of its first token. -/
  column : Nat
  /-- What it says. -/
  terminator : Terminator
  /-- The column of what it refers to. -/
  referenceColumn : Nat
deriving DecidableEq, Repr

/-- What has been gathered of a body. -/
structure Gathered where
  /-- The context with the blocks and types seen so far. -/
  context : Context
  /-- The number of blocks so far. -/
  blocks : Nat := 0
  /-- Whether the last block has been ended. -/
  ended : Bool := false
  /-- The value lines, latest first. -/
  values : List PendingValue := []
  /-- The terminator lines, latest first. -/
  terminators : List PendingTerminator := []
deriving DecidableEq, Repr

/-- Gathers a label line. -/
def gatherLabel (function : FunctionId) (gathered : Gathered) (line : Line) (first : Token) :
    Except Complaint Gathered := do
  let number ← Grammar.readLabel (stopOf line) line.tokens
  if number ≠ gathered.blocks then
    .error ⟨first.column, utf8 "block " ++ blockName number ++ utf8 " out of order, expected " ++
      blockName gathered.blocks, none⟩
  else
    match gathered.context.addBlock function with
    | .ok (context, _) =>
      pure { gathered with context, blocks := gathered.blocks + 1, ended := false }
    | .error error => .error ⟨first.column, utf8 "cannot add block", some (.build error)⟩

/-- Gathers a value line or a terminator line of a block that is not yet ended. -/
def gatherContent (gathered : Gathered) (block : BlockId) (line : Line) (first : Token) :
    Except Complaint Gathered := do
  let stop := stopOf line
  if first.kind = .mark .percent then
    let head ← Grammar.readValueHead stop line.tokens
    let (types, type) := gathered.context.types.insert head.type
    pure { gathered with
      context := { gathered.context with types }
      values :=
        ⟨line, block, head.number, first.column, type, head.instruction⟩ :: gathered.values }
  else if first.isWord "branch" || first.isWord "return" then
    let (terminator, column) ← Grammar.readTerminator stop line.tokens
    pure { gathered with
      ended := true
      terminators := ⟨line, block, first.column, terminator, column⟩ :: gathered.terminators }
  else .error ⟨first.column, utf8 "unexpected " ++ Text.Quoted.text first.text, none⟩

/-- Gathers a line of a body. -/
def gatherLine (function : FunctionId) (gathered : Gathered) (line : Line) :
    Except Complaint Gathered :=
  let stop := stopOf line
  let first := Grammar.peek stop line.tokens
  let second := Grammar.peek stop line.tokens.tail
  if first.kind = .word ∧ Bytes.beginsWith (utf8 "bb") first.text ∧ second.kind = .mark .colon then
    gatherLabel function gathered line first
  else if gathered.blocks = 0 then
    .error ⟨first.column, utf8 "instruction outside of a block", none⟩
  else if gathered.ended then
    .error ⟨first.column, utf8 "instruction after the terminator of " ++
      blockName (gathered.blocks - 1), none⟩
  else gatherContent gathered (gathered.blocks - 1) line first

/-- Gathers the lines of a body. -/
def gather (file : Bytes) (function : FunctionId) (gathered : Gathered) :
    List Line → Except ParseError Gathered
  | [] => .ok gathered
  | line :: rest =>
    match gatherLine function gathered line with
    | .ok gathered => gather file function gathered rest
    | .error complaint => .error (complaint.locate file line)

/-- Puts a value line in front of the first one that is not numbered lower. -/
def insertByNumber (value : PendingValue) : List PendingValue → List PendingValue
  | [] => [value]
  | next :: rest =>
    if value.number ≤ next.number then value :: next :: rest
    else next :: insertByNumber value rest

/-- Value lines in the order of their numbers; lines with one number keep their order. -/
def sortByNumber (values : List PendingValue) : List PendingValue :=
  values.foldr insertByNumber []

/-- Builds what an instruction says. -/
def buildInstruction (context : Context) (place : Place) (type : TypeId) :
    Instruction → Except BuildError (Context × ValueId)
  | .const literal => context.buildConst place type literal
  | .call callee arguments => context.buildCall place (.own callee) (arguments.map .own)
  | .binary operator left right => context.buildBinary place operator.code (.own left) (.own right)

/-- Reads the instruction of a value line. Whatever is wrong inside a call is reported as the
reason for refusing the whole instruction. -/
def readInstruction (file : Bytes) (context : Context) (value : PendingValue) :
    Except Complaint Instruction :=
  let stop := stopOf value.line
  let head := Grammar.peek stop value.instruction
  if head.isWord "call" then
    match Grammar.readCall stop context.functionNamed? value.number value.instruction.tail with
    | .ok instruction => .ok instruction
    | .error complaint =>
      .error ⟨head.column, utf8 "invalid instruction",
        some (complaint.locate file value.line).toFailure⟩
  else Grammar.readSimple stop value.number value.instruction

/-- Builds the value of a line. It has to get the number and the type that the line gives it. -/
def replayValue (file : Bytes) (function : FunctionId) (context : Context) (value : PendingValue) :
    Except Complaint Context :=
  let count :=
    match context.functions.get? function with
    | some content => content.values.size
    | none => 0
  if value.number ≠ count then
    .error ⟨value.column, utf8 "value " ++ valueName value.number ++
      utf8 " out of sequence, expected " ++ valueName count, none⟩
  else
    match readInstruction file context value with
    | .error complaint => .error complaint
    | .ok instruction =>
      match buildInstruction context ⟨function, value.block⟩ value.type instruction with
      | .error error =>
        .error ⟨(Grammar.peek (stopOf value.line) value.instruction).column,
          utf8 "invalid instruction", some (.build error)⟩
      | .ok (context, id) =>
        let type :=
          match (context.functions.get? function).bind fun content => content.values.get? id with
          | some built => built.type
          | none => TypeId.none
        if type = value.type then .ok context
        else
          .error ⟨value.column, valueName id ++ utf8 " declared as " ++
            context.types.name value.type ++ utf8 " but has type " ++ context.types.name type, none⟩

/-- Builds the values of a body. -/
def replayValues (file : Bytes) (function : FunctionId) (context : Context) :
    List PendingValue → Except ParseError Context
  | [] => .ok context
  | value :: rest =>
    match replayValue file function context value with
    | .ok context => replayValues file function context rest
    | .error complaint => .error (complaint.locate file value.line)

/-- Ends the block of a terminator line. -/
def replayTerminator (function : FunctionId) (context : Context) (pending : PendingTerminator) :
    Except Complaint Context :=
  let content := context.functions.get? function
  let place : Place := ⟨function, pending.block⟩
  match pending.terminator with
  | .branch target =>
    if (content.bind fun content => content.blocks.get? target).isNone then
      .error ⟨pending.referenceColumn, utf8 "branch to undefined block " ++ blockName target, none⟩
    else
      match context.buildBranch place (.own target) with
      | .ok context => .ok context
      | .error error => .error ⟨pending.column, utf8 "invalid branch", some (.build error)⟩
  | .result value =>
    if (content.bind fun content => content.values.get? value).isNone then
      .error ⟨pending.referenceColumn, utf8 "return of undefined value " ++ valueName value, none⟩
    else
      match context.buildReturn place (.own value) with
      | .ok context => .ok context
      | .error error => .error ⟨pending.column, utf8 "invalid return", some (.build error)⟩

/-- Ends the blocks of a body. -/
def replayTerminators (file : Bytes) (function : FunctionId) (context : Context) :
    List PendingTerminator → Except ParseError Context
  | [] => .ok context
  | pending :: rest =>
    match replayTerminator function context pending with
    | .ok context => replayTerminators file function context rest
    | .error complaint => .error (complaint.locate file pending.line)

/-- Reads the body of a function. -/
def readBody (file : Bytes) (context : Context) (declaration : Declaration) :
    Except ParseError Context := do
  let gathered ← gather file declaration.function { context } declaration.body
  let context ← replayValues file declaration.function gathered.context
    (sortByNumber gathered.values.reverse)
  replayTerminators file declaration.function context gathered.terminators.reverse

/-- What came of reading a source text. -/
structure Reading where
  /-- The names of the functions whose bodies were begun, in order. -/
  begun : List Bytes
  /-- The context, or what was wrong with the text. -/
  outcome : Except ParseError Context

/-- Reads bodies one after the other, up to the first that is wrong. -/
def readBodies (file : Bytes) (context : Context) : List Declaration → Reading
  | [] => ⟨[], .ok context⟩
  | declaration :: rest =>
    match readBody file context declaration with
    | .error error => ⟨[declaration.name], .error error⟩
    | .ok context =>
      let reading := readBodies file context rest
      { reading with begun := declaration.name :: reading.begun }

/-- Reads a source text. `file` names it in messages. -/
def read (file source : Bytes) (optimize : Bool) : Reading :=
  match declare file ⟨1, []⟩ (.new optimize) none (Line.split source) with
  | .error error => ⟨[], .error error⟩
  | .ok (context, declarations) => readBodies file context declarations

end Reader

/-- The context that a source text describes. `file` names the text in messages. -/
def Context.parse (file source : Bytes) (optimize : Bool) : Except ParseError Context :=
  (Reader.read file source optimize).outcome

end Blockwork
