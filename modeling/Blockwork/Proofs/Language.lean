import Blockwork.Program.Function
import Blockwork.Program.Name
import Blockwork.Source.Numeral
import Blockwork.Source.Token
import Mathlib.Data.List.Forall2

/-!
# The language of source texts

What may be written, said without reference to how it is read. A text is taken as the words and marks
of its lines; blank lines and comments do not count. The lines make up definitions: a header, a body
in blocks, a closing bracket. What the lines say has to fit together: names are unlike each other,
values are numbered one by one, whatever the order in which they are written, and an instruction
refers to what is numbered before it and has the types that it asks for.
-/

namespace Blockwork

/-- A word or a mark of a line. -/
inductive Lexeme where
  /-- A word. -/
  | word (text : Bytes)
  /-- A mark. -/
  | mark (mark : Mark)
deriving DecidableEq, Repr

/-- What a token is, wherever it stands; the end of a line is nothing. -/
def Token.lexeme? (token : Token) : Option Lexeme :=
  match token.kind with
  | .endOfLine => none
  | .word => some (.word token.text)
  | .mark mark => some (.mark mark)

/-- The words and marks of a line. -/
def Line.lexemes (line : Line) : List Lexeme := line.tokens.filterMap Token.lexeme?

namespace SourceLanguage

/-- The lines of a source text that hold anything. -/
def sentences (source : Bytes) : List (List Lexeme) :=
  ((Line.split source).map Line.lexemes).filter (· ≠ [])

/-! ## Words and lines -/

/-- A word of digits stands for a number, by its value. -/
def IsNumeral (word : Bytes) (number : Nat) : Prop :=
  Numeral.isDigits word = true ∧ Numeral.value word = number

/-- A word stands for a type. -/
inductive IsType (word : Bytes) : Descriptor → Prop
  /-- Truth values. -/
  | bool (written : word = utf8 "bool") : IsType word .bool
  /-- Integers of a width that can be represented. -/
  | int {digits : Bytes} {width : Nat} (written : word = utf8 "i" ++ digits)
      (numeral : IsNumeral digits width) (positive : 1 ≤ width)
      (bounded : width ≤ Descriptor.maxWidth) : IsType word (.int (UInt32.ofNat width))

/-- Items with commas between them. -/
def separated : List (List Lexeme) → List Lexeme
  | [] => []
  | [item] => item
  | item :: next :: rest => item ++ .mark .comma :: separated (next :: rest)

/-- The word for a type. -/
def typeItem (word : Bytes) : List Lexeme := [.word word]

/-- A percent sign and the digits of a value. -/
def reference (digits : Bytes) : List Lexeme := [.mark .percent, .word digits]

/-- What other definitions see of a definition. -/
structure Heading where
  /-- The name as it is written. -/
  name : Bytes
  /-- The types of the arguments. -/
  inputs : List Descriptor
  /-- The type of the result. -/
  output : Descriptor
deriving DecidableEq, Repr

/-- A header line: any word as a name, and types. -/
def IsHeader (line : List Lexeme) (heading : Heading) : Prop :=
  ∃ words word, List.Forall₂ IsType words heading.inputs ∧ IsType word heading.output ∧
    line = .word (utf8 "define") :: .word heading.name :: .mark .leftParen ::
      (separated (words.map typeItem) ++
        [.mark .rightParen, .word (utf8 "->"), .word word, .mark .leftBrace])

/-- A label with the given number. -/
def IsLabel (line : List Lexeme) (number : BlockId) : Prop :=
  ∃ digits, IsNumeral digits number ∧ line = [.word (utf8 "bb" ++ digits), .mark .colon]

/-- A value line: a number, a type and what computes the value. -/
structure ValueLine where
  /-- The number. -/
  number : ValueId
  /-- The type. -/
  type : Descriptor
  /-- What stands behind the equals sign. -/
  formula : List Lexeme
deriving DecidableEq, Repr

/-- A line that says what the value line says. -/
def IsValueLine (line : List Lexeme) (entry : ValueLine) : Prop :=
  ∃ digits word, IsNumeral digits entry.number ∧ IsType word entry.type ∧ entry.formula ≠ [] ∧
    line = reference digits ++ .mark .colon :: .word word :: .mark .equals :: entry.formula

/-- A terminator line. -/
def IsEnding (line : List Lexeme) : Terminator → Prop
  | .branch target =>
    ∃ digits, IsNumeral digits target ∧
      line = [.word (utf8 "branch"), .word (utf8 "bb" ++ digits)]
  | .result value =>
    ∃ digits, IsNumeral digits value ∧ line = .word (utf8 "return") :: reference digits

/-! ## Bodies and programs -/

/-- A block: its value lines, and its terminator if it has one. -/
structure Passage where
  /-- The value lines in order. -/
  entries : List ValueLine := []
  /-- The terminator. -/
  ending : Option Terminator := none
deriving DecidableEq, Repr

/-- The blocks so far, a line, and the blocks with that line. -/
inductive Continues : List Passage → List Lexeme → List Passage → Prop
  /-- A label begins a block and has the number of blocks before it. -/
  | label {passages : List Passage} {line : List Lexeme}
      (label : IsLabel line passages.length) : Continues passages line (passages ++ [⟨[], none⟩])
  /-- A value line belongs to the last block, which must not be ended. -/
  | entry {passages : List Passage} {entries : List ValueLine} {line : List Lexeme}
      {entry : ValueLine}
      (value : IsValueLine line entry) :
      Continues (passages ++ [⟨entries, none⟩]) line (passages ++ [⟨entries ++ [entry], none⟩])
  /-- A terminator line ends the last block, which must not be ended. -/
  | ending {passages : List Passage} {entries : List ValueLine} {line : List Lexeme}
      {terminator : Terminator} (ending : IsEnding line terminator) :
      Continues (passages ++ [⟨entries, none⟩]) line (passages ++ [⟨entries, some terminator⟩])

/-- The lines of a body, and the blocks that they make up. -/
inductive IsBody : List (List Lexeme) → List Passage → Prop
  /-- There may be none. -/
  | empty : IsBody [] []
  /-- Every line continues what the lines before it make up. -/
  | line {lines : List (List Lexeme)} {passages passages' : List Passage} {line : List Lexeme}
      (body : IsBody lines passages) (next : Continues passages line passages') :
      IsBody (lines ++ [line]) passages'

/-- A function as it is written. -/
structure Definition extends Heading where
  /-- The blocks. -/
  passages : List Passage
deriving DecidableEq, Repr

/-- The lines of a program, and the definitions that they make up. -/
inductive IsProgram : List (List Lexeme) → List Definition → Prop
  /-- There may be none. -/
  | empty : IsProgram [] []
  /-- A header, a body and a line with a closing bracket define a function. -/
  | define {header : List Lexeme} {body rest : List (List Lexeme)} {definition : Definition}
      {definitions : List Definition} (head : IsHeader header definition.toHeading)
      (content : IsBody body definition.passages) (others : IsProgram rest definitions) :
      IsProgram (header :: (body ++ [.mark .rightBrace] :: rest)) (definition :: definitions)

/-! ## What fits together -/

namespace Definition

/-- The value lines of all blocks in the order in which they are written. -/
def entries (definition : Definition) : List ValueLine :=
  definition.passages.flatMap Passage.entries

/-- The value with the given number has the given type: it is a parameter or has a value line. -/
def HasType (definition : Definition) (number : ValueId) (type : Descriptor) : Prop :=
  definition.inputs[number]? = some type ∨
    ∃ entry ∈ definition.entries, entry.number = number ∧ entry.type = type

/-- The value lines are numbered one by one from behind the parameters, in whatever order and block
they are written. -/
def Numbered (definition : Definition) : Prop :=
  (definition.entries.map ValueLine.number).Perm
    (List.range' definition.inputs.length definition.entries.length)

end Definition

/-- What a value line computes is a literal that fits a word, an operation on two values of one type,
or a call of a function of the program; operands are numbered before the value. `title` is the way
from a name as it is written to the name that a definition gets. -/
inductive Computes (title : Bytes → Bytes) (headings : List Heading) (definition : Definition)
    (entry : ValueLine) : Prop
  /-- A literal. -/
  | literal {digits : Bytes} {number : Nat} (written : entry.formula = [.word digits])
      (numeral : IsNumeral digits number) (fits : number < Nat.pow 2 64)
  /-- An operation. A comparison has the type of truth values, any other the type of its
  operands. -/
  | operation {operator : Operator} {leftDigits rightDigits : Bytes} {left right : ValueId}
      {shared : Descriptor}
      (written : entry.formula =
        .word (utf8 operator.mnemonic) :: (reference leftDigits ++ reference rightDigits))
      (leftNumeral : IsNumeral leftDigits left) (rightNumeral : IsNumeral rightDigits right)
      (leftEarlier : left < entry.number) (rightEarlier : right < entry.number)
      (leftTyped : definition.HasType left shared) (rightTyped : definition.HasType right shared)
      (typed : entry.type = if operator.isComparison then .bool else shared)
  /-- A call. It passes what the function takes and has the type that it returns. -/
  | call {name : Bytes} {digits : List Bytes} {arguments : List ValueId} {target : Heading}
      (written : entry.formula = .word (utf8 "call") :: .word name :: .mark .leftParen ::
        (separated (digits.map reference) ++ [.mark .rightParen]))
      (numerals : List.Forall₂ IsNumeral digits arguments)
      (earlier : ∀ argument ∈ arguments, argument < entry.number)
      (known : target ∈ headings) (named : title target.name = Text.normalize name)
      (passed : List.Forall₂ definition.HasType arguments target.inputs)
      (typed : entry.type = target.output)

/-- A terminator refers to a block of the definition, or to a value of the type that is returned. -/
def Ends (definition : Definition) : Terminator → Prop
  | .branch target => target < definition.passages.length
  | .result value => definition.HasType value definition.output

/-- The body of a definition fits into a program with the given headings. -/
structure Definition.Valid (title : Bytes → Bytes) (headings : List Heading)
    (definition : Definition) : Prop where
  /-- The value lines have the numbers that they should have. -/
  numbered : definition.Numbered
  /-- Every value line computes a value of its type. -/
  computes : ∀ entry ∈ definition.entries, Computes title headings definition entry
  /-- Every terminator refers to what is there. -/
  ends : ∀ passage ∈ definition.passages, ∀ terminator, passage.ending = some terminator →
    Ends definition terminator

/-- A source text belongs to the language: its lines make up definitions, whose names can be names
and are unlike each other, and each body fits into the program. -/
def Accepts (title : Bytes → Bytes) (source : Bytes) : Prop :=
  ∃ program, IsProgram (sentences source) program ∧
    (∀ definition ∈ program, FunctionName.check (title definition.name) = .ok ()) ∧
    (program.map fun definition => title definition.name).Nodup ∧
    ∀ definition ∈ program, definition.Valid title (program.map Definition.toHeading)

end SourceLanguage
end Blockwork
