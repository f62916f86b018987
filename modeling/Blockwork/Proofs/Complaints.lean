import Blockwork.Proofs.LineReading
import Blockwork.Source.Reader

/-!
# What complaints say

A complaint about a line points at a token of it and says something about the token, or about the
line that the token leads into. Every remark that can be made is listed here, with what has to be
true of the line for it to be made: of the text of the token, or of what the line says in the
language of source texts.
-/

namespace Blockwork

open SourceLanguage

/-! ## Tokens by themselves -/

namespace Token

/-- The words and marks that tokens are. -/
def lexemes (tokens : List Token) : List Lexeme := tokens.filterMap lexeme?

/-- A word is the label of the block with the given number. -/
def LabelsBlock (token : Token) (number : BlockId) : Prop :=
  token.kind = .word ∧ ∃ digits, IsNumeral digits number ∧ token.text = utf8 "bb" ++ digits

/-- A word consists of the digits of the given number. -/
def IsNumber (token : Token) (number : Nat) : Prop :=
  token.kind = .word ∧ IsNumeral token.text number

/-- A token is not what it was expected to be. -/
inductive Differs (token : Token) : Bytes → Prop
  /-- It is not the given mark. -/
  | mark (sign : Mark) (other : token.kind ≠ .mark sign) : Differs token sign.quoted
  /-- It is not the end of the line. -/
  | stop (more : token.kind ≠ .endOfLine) : Differs token TokenKind.endOfLine.name
  /-- It is not a word, as names, types and instructions are. -/
  | word {role : Bytes} (other : token.kind ≠ .word)
      (asked : role ∈ [utf8 "function name", utf8 "type", utf8 "callee name",
        utf8 "an instruction"]) : Differs token role
  /-- It is not the arrow in front of the type of a result. -/
  | arrow (other : token.isWord "->" = false) : Differs token (Text.Quoted.text (utf8 "->"))
  /-- It neither goes on with a list nor closes it. -/
  | separator (further : token.kind ≠ .mark .comma) (closing : token.kind ≠ .mark .rightParen) :
      Differs token Grammar.listSeparators
  /-- It is not the label of a block. -/
  | label (other : ∀ number, ¬ token.LabelsBlock number) : Differs token (utf8 "block label")
  /-- It is not the number of a value. -/
  | number (other : ∀ number, ¬ token.IsNumber number) : Differs token (utf8 "value number")

/-! ## Tokens in their lines -/

variable (tokens : List Token) (token : Token)

/-- The text of a token means nothing in its place, and the remark in front of it says what was
looked for. -/
inductive Meaningless : Bytes → Prop
  /-- A line between functions begins with it, and is no header. -/
  | header (first : tokens.head? = some token) (other : token.isWord "define" = false) :
      Meaningless (utf8 "expected 'define', found ")
  /-- A line of a block begins with it, and is neither a value line nor a terminator line. -/
  | content (first : tokens.head? = some token) (value : token.kind ≠ .mark .percent)
      (branch : token.isWord "branch" = false) (result : token.isWord "return" = false) :
      Meaningless (utf8 "unexpected ")
  /-- It is a word that is spelt like no type. -/
  | type (word : token.kind = .word) (bool : token.text ≠ utf8 "bool")
      (int : ∀ digits, token.text = utf8 "i" ++ digits → Numeral.isDigits digits = false) :
      Meaningless (utf8 "unknown type ")
  /-- It is spelt like a type of integers, of a width that no word of thirty-two bits holds. -/
  | width {digits : Bytes} {width : Nat} (written : token.text = utf8 "i" ++ digits)
      (numeral : IsNumeral digits width) (large : Nat.pow 2 32 ≤ width) :
      Meaningless (utf8 "bad integer width in ")
  /-- An instruction is a literal that no word of sixty-four bits holds. -/
  | literal {number : Nat} (sixth : tokens[5]? = some token) (literal : token.IsNumber number)
      (large : Nat.pow 2 64 ≤ number) : Meaningless (utf8 "bad integer literal ")
  /-- An instruction begins with a word that is neither a literal nor an operator. -/
  | operator (sixth : tokens[5]? = some token) (literal : ∀ number, ¬ token.IsNumber number)
      (other : ∀ operator : Operator, token.text ≠ utf8 operator.mnemonic) :
      Meaningless (utf8 "unknown opcode ")
  /-- A call names what is no function. -/
  | callee {call : Token} {context : Context} (sixth : tokens[5]? = some call)
      (is : call.isWord "call" = true) (seventh : tokens[6]? = some token)
      (word : token.kind = .word) (unknown : context.functionNamed? token.text = none) :
      Meaningless (utf8 "call to undefined function ")

/-- What a line says does not fit into its surroundings. The token is the part that stands for it:
the first of the line, or the second if that is where the line goes on to something else. -/
inductive Unsuited : Bytes → Prop
  /-- A closing bracket does not stand alone. -/
  | closing {bracket : Token} (first : tokens.head? = some bracket)
      (is : bracket.kind = .mark .rightBrace) (second : tokens[1]? = some token)
      (more : token.kind ≠ .endOfLine) :
      Unsuited (utf8 "unexpected " ++ token.kind.name ++ utf8 " after '\x7d'")
  /-- A label has another number than the one that is next. -/
  | label {number next : BlockId} (first : tokens.head? = some token)
      (label : IsLabel (lexemes tokens) number) (other : number ≠ next) :
      Unsuited (utf8 "block " ++ blockName number ++ utf8 " out of order, expected " ++
        blockName next)
  /-- A line that is no label stands in front of all blocks. -/
  | outside (first : tokens.head? = some token)
      (other : ∀ number, ¬ IsLabel (lexemes tokens) number) :
      Unsuited (utf8 "instruction outside of a block")
  /-- A line that is no label stands in a block that has been ended. -/
  | ended (block : BlockId) (first : tokens.head? = some token)
      (other : ∀ number, ¬ IsLabel (lexemes tokens) number) :
      Unsuited (utf8 "instruction after the terminator of " ++ blockName block)
  /-- A value line has another number than the one that is next. -/
  | number {entry : ValueLine} {next : ValueId} (first : tokens.head? = some token)
      (value : IsValueLine (lexemes tokens) entry) (other : entry.number ≠ next) :
      Unsuited (utf8 "value " ++ valueName entry.number ++ utf8 " out of sequence, expected " ++
        valueName next)
  /-- A value line has another type than its instruction. -/
  | type {entry : ValueLine} {found : Descriptor} (first : tokens.head? = some token)
      (value : IsValueLine (lexemes tokens) entry) (other : found ≠ entry.type) :
      Unsuited (valueName entry.number ++ utf8 " declared as " ++ entry.type.spelling ++
        utf8 " but has type " ++ found.spelling)
  /-- A branch leads to a block that is missing. -/
  | branch {target : BlockId} (second : tokens[1]? = some token)
      (ending : IsEnding (lexemes tokens) (.branch target)) :
      Unsuited (utf8 "branch to undefined block " ++ blockName target)
  /-- A value that is missing is returned. -/
  | result {value : ValueId} (second : tokens[1]? = some token)
      (ending : IsEnding (lexemes tokens) (.result value)) :
      Unsuited (utf8 "return of undefined value " ++ valueName value)

/-- What a line says is refused by construction, for the given reason. The token is the part that
stands for it: the name of a function, the first of an instruction, or the first of the line. -/
inductive Refused : Bytes → BuildError → Prop
  /-- A function cannot have its name or its types. -/
  | declare {heading : Heading} {context : Context} {signature : Signature} {error : BuildError}
      (second : tokens[1]? = some token) (header : IsHeader (lexemes tokens) heading)
      (inputs : signature.inputs.map context.types.lookup? = heading.inputs.map some)
      (output : context.types.lookup? signature.output = some heading.output)
      (refuses : context.addFunction (Text.normalize heading.name) signature = .error error) :
      Refused (utf8 "cannot declare function") error
  /-- A block cannot be added. -/
  | block {number : BlockId} {context : Context} {function : FunctionId} {error : BuildError}
      (first : tokens.head? = some token) (label : IsLabel (lexemes tokens) number)
      (refuses : context.addBlock function = .error error) :
      Refused (utf8 "cannot add block") error
  /-- A value line has the given type and tells the given instruction, which cannot be built. -/
  | instruction {entry : ValueLine} {instruction : Instruction} {context : Context} {place : Place}
      {type : TypeId} {error : BuildError} (sixth : tokens[5]? = some token)
      (value : IsValueLine (lexemes tokens) entry)
      (typed : context.types.lookup? type = some entry.type)
      (tells : Tells context.functionNamed? entry.number entry.formula instruction)
      (refuses : Reader.buildInstruction context place type instruction = .error error) :
      Refused (utf8 "invalid instruction") error
  /-- A block cannot be ended by a branch. -/
  | branch {target : BlockId} {context : Context} {place : Place} {error : BuildError}
      (first : tokens.head? = some token) (ending : IsEnding (lexemes tokens) (.branch target))
      (refuses : context.buildBranch place (.own target) = .error error) :
      Refused (utf8 "invalid branch") error
  /-- A block cannot be ended by returning a value. -/
  | result {value : ValueId} {context : Context} {place : Place} {error : BuildError}
      (first : tokens.head? = some token) (ending : IsEnding (lexemes tokens) (.result value))
      (refuses : context.buildReturn place (.own value) = .error error) :
      Refused (utf8 "invalid return") error

/-- What a complaint about a line has to do with the token of it that it points at. -/
inductive Concerns : Complaint → Prop
  /-- Something else was expected in its place. -/
  | unexpected {what : Bytes} (differs : token.Differs what) : Concerns (.expected what token)
  /-- Its text, which the message quotes, means nothing there. -/
  | unknown {remark : Bytes} (meaningless : Meaningless tokens token remark) :
      Concerns ⟨token.column, remark ++ Text.Quoted.text token.text, none⟩
  /-- It is a label with a number that is too large. -/
  | largeLabel {number : BlockId} {digits : Bytes} {cause : Failure} (label : token.LabelsBlock number)
      (written : token.text = utf8 "bb" ++ digits) (large : Numeral.index digits = .error cause) :
      Concerns ⟨token.column, utf8 "block number out of range", some cause⟩
  /-- It is the number of a value, and too large. -/
  | largeNumber {number : ValueId} {cause : Failure} (is : token.IsNumber number)
      (large : Numeral.index token.text = .error cause) :
      Concerns ⟨token.column, utf8 "value number out of range", some cause⟩
  /-- It is spelt like a type of integers, of a width that no type has. -/
  | noType {digits : Bytes} {width : Nat} (written : token.text = utf8 "i" ++ digits)
      (numeral : IsNumeral digits width) (fits : width < Nat.pow 2 32)
      (invalid : width = 0 ∨ Descriptor.maxWidth < width) :
      Concerns ⟨token.column, utf8 "invalid type",
        some (.fault (Descriptor.int (UInt32.ofNat width)).fault)⟩
  /-- On the line of a value it begins a reference to that value or to one that comes later. -/
  | early {entry : ValueLine} {digits : Token} {rest : List Token} {number : ValueId}
      (value : IsValueLine (lexemes tokens) entry) (is : token.kind = .mark .percent)
      (behind : token :: digits :: rest <:+ tokens) (refers : digits.IsNumber number)
      (late : entry.number ≤ number) :
      Concerns ⟨token.column, valueName number ++ utf8 " used before it is defined", none⟩
  /-- It is the end of the line, and an instruction is missing there. -/
  | missing (is : token.kind = .endOfLine) :
      Concerns ⟨token.column, utf8 "missing instruction", none⟩
  /-- The line does not fit into its surroundings. -/
  | unsuited {message : Bytes} (unsuited : Unsuited tokens token message) :
      Concerns ⟨token.column, message, none⟩
  /-- Construction refuses what the line says. -/
  | refused {message : Bytes} {error : BuildError} (refused : Refused tokens token message error) :
      Concerns ⟨token.column, message, some (.build error)⟩

variable {tokens : List Token} {token : Token}

theorem Concerns.column_eq {complaint : Complaint} (concerns : Concerns tokens token complaint) :
    complaint.column = token.column := by
  cases concerns <;> rfl

end Token

/-- A complaint about a line that concerns one of the given tokens. -/
def Complaint.PointsInto (tokens within : List Token) (complaint : Complaint) : Prop :=
  ∃ token ∈ within, Token.Concerns tokens token complaint

end Blockwork
