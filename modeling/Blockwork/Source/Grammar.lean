import Blockwork.Program.Function
import Blockwork.Source.Numeral
import Blockwork.Source.Token
import Blockwork.Typing.Descriptor

/-!
# Lines of the textual form

Each line is read by itself, from its tokens: the header of a function, a label, a value, a
terminator. A line that cannot be read yields a complaint with the column at fault. Instructions
are read against what is known when their turn comes: the number of the value they compute, below
which all their operands lie, and the names of the functions that can be called.
-/

namespace Blockwork

/-- What is wrong with a line. -/
structure Complaint where
  /-- The column at fault. -/
  column : Nat
  /-- What was noticed there. -/
  message : Bytes
  /-- The reason given by what refused it. -/
  cause : Option Failure := none
deriving DecidableEq, Repr

namespace Complaint

/-- A complaint that something else was expected. -/
def expected (what : Bytes) (found : Token) : Complaint :=
  { column := found.column
    message := utf8 "expected " ++ what ++ utf8 ", found " ++ found.description }

/-- A complaint in a given line of a given text. -/
def locate (complaint : Complaint) (file : Bytes) (line : Line) : ParseError where
  spot := ⟨file, line.number, complaint.column, line.text⟩
  message := complaint.message
  cause := complaint.cause

end Complaint

namespace Grammar

/-- The next token; the end of the line if there is none. -/
def peek (stop : Token) (tokens : List Token) : Token := tokens.headD stop

/-- Takes a token of the given kind. -/
def expect (stop : Token) (kind : TokenKind) (what : Bytes) (tokens : List Token) :
    Except Complaint (Token × List Token) :=
  let token := peek stop tokens
  if token.kind = kind then .ok (token, tokens.tail) else .error (.expected what token)

/-- Takes a given mark. -/
def mark (stop : Token) (mark : Mark) (tokens : List Token) :
    Except Complaint (Token × List Token) :=
  expect stop (.mark mark) mark.quoted tokens

/-- Takes a given word. -/
def keyword (stop : Token) (word : String) (tokens : List Token) :
    Except Complaint (Token × List Token) :=
  let token := peek stop tokens
  if token.isWord word then .ok (token, tokens.tail)
  else .error (.expected (Text.Quoted.text (utf8 word)) token)

/-- Makes sure that nothing is left. -/
def finish (stop : Token) (tokens : List Token) : Except Complaint Unit := do
  let _ ← expect stop .endOfLine TokenKind.endOfLine.name tokens
  pure ()

/-- The descriptor that a word spells. -/
def descriptor (token : Token) : Except Complaint Descriptor :=
  if token.kind ≠ .word then .error (.expected (utf8 "type") token)
  else if token.text = utf8 "bool" then .ok .bool
  else
    match Bytes.dropBeginning? (utf8 "i") token.text with
    | some digits =>
      if Numeral.isDigits digits then
        match Numeral.fitting? 32 digits with
        | some width => .ok (.int (UInt32.ofNat width))
        | none =>
          .error ⟨token.column, utf8 "bad integer width in " ++ Text.Quoted.text token.text, none⟩
      else .error ⟨token.column, utf8 "unknown type " ++ Text.Quoted.text token.text, none⟩
    | none => .error ⟨token.column, utf8 "unknown type " ++ Text.Quoted.text token.text, none⟩

/-- The type that a token spells. -/
def typeOf (token : Token) : Except Complaint Descriptor := do
  let type ← descriptor token
  match type.check with
  | .ok () => pure type
  | .error fault => .error ⟨token.column, utf8 "invalid type", some (.fault fault)⟩

/-- Reads a type. -/
def readType (stop : Token) (tokens : List Token) : Except Complaint (Descriptor × List Token) := do
  let type ← typeOf (peek stop tokens)
  pure (type, tokens.tail)

/-- What may follow an element of a list between brackets. -/
def listSeparators : Bytes := utf8 "',' or ')'"

/-- The types of a list up to its closing bracket, the opening bracket having been read. -/
def readTypes (stop : Token) : List Token → Except Complaint (List Descriptor × List Token)
  | token :: separator :: rest => do
    let type ← typeOf token
    match separator.kind with
    | .mark .rightParen => pure ([type], rest)
    | .mark .comma =>
      let (types, after) ← readTypes stop rest
      pure (type :: types, after)
    | _ => .error (.expected listSeparators separator)
  | tokens => do
    let _ ← typeOf (peek stop tokens)
    .error (.expected listSeparators stop)

/-- The header of a function. -/
structure Header where
  /-- The name as it is written. -/
  name : Bytes
  /-- The column of the name. -/
  column : Nat
  /-- The types of the arguments. -/
  inputs : List Descriptor
  /-- The type of the result. -/
  output : Descriptor
deriving DecidableEq, Repr

/-- Reads a header, the word that begins it having been read. -/
def readHeader (stop : Token) (tokens : List Token) : Except Complaint Header := do
  let (name, tokens) ← expect stop .word (utf8 "function name") tokens
  let (_, tokens) ← mark stop .leftParen tokens
  let (inputs, tokens) ←
    if (peek stop tokens).kind = .mark .rightParen then pure ([], tokens.tail)
    else readTypes stop tokens
  let (_, tokens) ← keyword stop "->" tokens
  let (output, tokens) ← readType stop tokens
  let (_, tokens) ← mark stop .leftBrace tokens
  finish stop tokens
  pure ⟨name.text, name.column, inputs, output⟩

/-- The block number that a token spells. -/
def labelOf (token : Token) : Except Complaint BlockId :=
  let unexpected := Complaint.expected (utf8 "block label") token
  if token.kind ≠ .word then .error unexpected
  else
    match Bytes.dropBeginning? (utf8 "bb") token.text with
    | none => .error unexpected
    | some digits =>
      if Numeral.isDigits digits then
        match Numeral.index digits with
        | .ok number => .ok number
        | .error cause => .error ⟨token.column, utf8 "block number out of range", some cause⟩
      else .error unexpected

/-- Reads a label line: a block number and a colon. -/
def readLabel (stop : Token) (tokens : List Token) : Except Complaint BlockId := do
  let number ← labelOf (peek stop tokens)
  let (_, tokens) ← mark stop .colon tokens.tail
  finish stop tokens
  pure number

/-- The value number that two tokens spell, a percent sign and digits. -/
def referenceOf (percent digits : Token) : Except Complaint ValueId :=
  let what := utf8 "value number"
  if percent.kind ≠ .mark .percent then .error (.expected Mark.percent.quoted percent)
  else if digits.kind ≠ .word ∨ Numeral.isDigits digits.text = false then
    .error (.expected what digits)
  else
    match Numeral.index digits.text with
    | .ok number => .ok number
    | .error cause => .error ⟨digits.column, what ++ utf8 " out of range", some cause⟩

/-- Reads a reference to a value. -/
def readReference (stop : Token) (tokens : List Token) :
    Except Complaint (ValueId × List Token) := do
  let number ← referenceOf (peek stop tokens) (peek stop tokens.tail)
  pure (number, tokens.tail.tail)

/-- The beginning of a value line, and the tokens of the instruction on it. -/
structure ValueHead where
  /-- The number the value is given. -/
  number : ValueId
  /-- The type the value is given. -/
  type : Descriptor
  /-- The tokens of the instruction that computes it. -/
  instruction : List Token
deriving DecidableEq, Repr

/-- Reads a value line up to its instruction, of which there has to be at least one token. -/
def readValueHead (stop : Token) (tokens : List Token) : Except Complaint ValueHead := do
  let (number, tokens) ← readReference stop tokens
  let (_, tokens) ← mark stop .colon tokens
  let (type, tokens) ← readType stop tokens
  let (_, tokens) ← mark stop .equals tokens
  let next := peek stop tokens
  if next.kind = .endOfLine then .error ⟨next.column, utf8 "missing instruction", none⟩
  else pure ⟨number, type, tokens⟩

/-- Reads a terminator line. The second part is the column of what the terminator refers to. -/
def readTerminator (stop : Token) (tokens : List Token) : Except Complaint (Terminator × Nat) := do
  let reference := peek stop tokens.tail
  if (peek stop tokens).isWord "branch" then
    let target ← labelOf reference
    finish stop tokens.tail.tail
    pure (.branch target, reference.column)
  else
    let (value, rest) ← readReference stop tokens.tail
    finish stop rest
    pure (.result value, reference.column)

/-- The operand that two tokens spell. It has to be numbered before its user. -/
def operandOf (user : ValueId) (percent digits : Token) : Except Complaint ValueId := do
  let number ← referenceOf percent digits
  if number < user then pure number
  else .error ⟨percent.column, valueName number ++ utf8 " used before it is defined", none⟩

/-- Reads an operand. -/
def readOperand (stop : Token) (user : ValueId) (tokens : List Token) :
    Except Complaint (ValueId × List Token) := do
  let number ← operandOf user (peek stop tokens) (peek stop tokens.tail)
  pure (number, tokens.tail.tail)

/-- The operands of a list up to its closing bracket, the opening bracket having been read. -/
def readOperands (stop : Token) (user : ValueId) :
    List Token → Except Complaint (List ValueId × List Token)
  | percent :: digits :: separator :: rest => do
    let number ← operandOf user percent digits
    match separator.kind with
    | .mark .rightParen => pure ([number], rest)
    | .mark .comma =>
      let (numbers, after) ← readOperands stop user rest
      pure (number :: numbers, after)
    | _ => .error (.expected listSeparators separator)
  | tokens => do
    let _ ← operandOf user (peek stop tokens) (peek stop tokens.tail)
    .error (.expected listSeparators stop)

/-- Reads a call, the word that begins it having been read. -/
def readCall (stop : Token) (callable : Bytes → Option FunctionId) (user : ValueId)
    (tokens : List Token) : Except Complaint Instruction := do
  let (name, tokens) ← expect stop .word (utf8 "callee name") tokens
  match callable name.text with
  | none =>
    .error ⟨name.column, utf8 "call to undefined function " ++ Text.Quoted.text name.text, none⟩
  | some callee =>
    let (_, tokens) ← mark stop .leftParen tokens
    let (arguments, tokens) ←
      if (peek stop tokens).kind = .mark .rightParen then pure ([], tokens.tail)
      else readOperands stop user tokens
    finish stop tokens
    pure (.call callee arguments)

/-- Reads an instruction other than a call: a literal, or an operator and two operands. -/
def readSimple (stop : Token) (user : ValueId) (tokens : List Token) :
    Except Complaint Instruction := do
  let head := peek stop tokens
  if head.kind ≠ .word then
    .error ⟨head.column, utf8 "expected an instruction, found " ++ head.kind.name, none⟩
  else if Numeral.isDigits head.text then
    match Numeral.fitting? 64 head.text with
    | none =>
      .error ⟨head.column, utf8 "bad integer literal " ++ Text.Quoted.text head.text, none⟩
    | some literal =>
      finish stop tokens.tail
      pure (.const (UInt64.ofNat literal))
  else
    match Operator.ofMnemonic? head.text with
    | none => .error ⟨head.column, utf8 "unknown opcode " ++ Text.Quoted.text head.text, none⟩
    | some operator =>
      let (left, tokens) ← readOperand stop user tokens.tail
      let (right, tokens) ← readOperand stop user tokens
      finish stop tokens
      pure (.binary operator left right)

end Grammar
end Blockwork
