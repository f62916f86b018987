import Blockwork.Text.CharClass
import Blockwork.Text.Glyph
import Blockwork.Text.Quoted

/-!
# Tokens

A line of the textual form falls into words and punctuation marks, with white space between them
where the writer likes. A semicolon begins a comment that reaches to the end of the line. Every
token remembers the column it starts at, and the last token is always the end of the line.
-/

namespace Blockwork

/-- A punctuation mark. -/
inductive Mark where
  /-- The percent sign in front of a value number. -/
  | percent
  /-- The bracket that opens a list of types or arguments. -/
  | leftParen
  /-- The bracket that closes such a list. -/
  | rightParen
  /-- The mark between two types or arguments. -/
  | comma
  /-- The mark after a label or a value number. -/
  | colon
  /-- The mark between a value's type and the instruction that computes it. -/
  | equals
  /-- The bracket that opens the body of a function. -/
  | leftBrace
  /-- The bracket that closes the body of a function. -/
  | rightBrace
deriving DecidableEq, Repr

namespace Mark

/-- The marks. -/
def all : List Mark :=
  [.percent, .leftParen, .rightParen, .comma, .colon, .equals, .leftBrace, .rightBrace]

/-- The character of a mark. -/
def char : Mark → Char
  | .percent => '%'
  | .leftParen => '('
  | .rightParen => ')'
  | .comma => ','
  | .colon => ':'
  | .equals => '='
  | .leftBrace => '\x7b'
  | .rightBrace => '\x7d'

/-- The mark that a character is. -/
def ofChar? (char : Char) : Option Mark :=
  all.find? fun mark => mark.char = char

/-- A mark as messages show it. -/
def quoted (mark : Mark) : Bytes := Bytes.ofChars ['\'', mark.char, '\'']

/-- Characters and marks correspond. -/
theorem ofChar?_char (mark : Mark) : ofChar? mark.char = some mark := by
  cases mark <;> decide

end Mark

/-- The kinds of token. -/
inductive TokenKind where
  /-- Everything on the line has been read. -/
  | endOfLine
  /-- A run of characters that are neither white space nor punctuation. -/
  | word
  /-- A punctuation mark. -/
  | mark (mark : Mark)
deriving DecidableEq, Repr

namespace TokenKind

/-- A kind of token as messages show it. -/
def name : TokenKind → Bytes
  | .endOfLine => utf8 "end of line"
  | .word => utf8 "word"
  | .mark sign => sign.quoted

end TokenKind

/-- A piece of a line. -/
structure Token where
  /-- What it is. -/
  kind : TokenKind
  /-- The bytes it was read from. -/
  text : Bytes
  /-- The byte of the line where it starts, counted from one. -/
  column : Nat
deriving DecidableEq, Repr

namespace Token

/-- A token as messages show it. -/
def description (token : Token) : Bytes :=
  if token.kind = .word then Text.Quoted.text token.text else token.kind.name

/-- Whether a token is the given word. -/
def isWord (token : Token) (word : String) : Bool :=
  token.kind = .word && token.text = utf8 word

/-- The character that begins a comment. -/
def commentStart : Char := ';'

/-- Puts a glyph that belongs to a word in front of the tokens that follow it: it joins a word that
starts right behind it. -/
def prependToWord (glyph : Glyph) (column : Nat) : List Token → List Token
  | ⟨.word, text, start⟩ :: rest =>
    if start = column + glyph.size then ⟨.word, glyph.bytes ++ text, column⟩ :: rest
    else ⟨.word, glyph.bytes, column⟩ :: ⟨.word, text, start⟩ :: rest
  | tokens => ⟨.word, glyph.bytes, column⟩ :: tokens

/-- The tokens of the rest of a line that starts at the given column and ends at `stop`. -/
def lexFrom (stop column : Nat) : List Glyph → List Token
  | [] => [⟨.endOfLine, [], stop⟩]
  | glyph :: rest =>
    if glyph.char = commentStart then [⟨.endOfLine, [], stop⟩]
    else
      let tokens := lexFrom stop (column + glyph.size) rest
      if Text.isSpace glyph.char then tokens
      else
        match Mark.ofChar? glyph.char with
        | some mark => ⟨.mark mark, glyph.bytes, column⟩ :: tokens
        | none => prependToWord glyph column tokens

/-- The tokens of a line. -/
def lex (line : Bytes) : List Token :=
  lexFrom (line.length + 1) 1 (Glyph.list line)

end Token

/-- A line of a source text. -/
structure Line where
  /-- Its number, counted from one. -/
  number : Nat
  /-- Its bytes, without the line end. -/
  text : Bytes
deriving DecidableEq, Repr

namespace Line

/-- The tokens of a line. -/
def tokens (line : Line) : List Token := Token.lex line.text

/-- The lines of a source text. A carriage return before a line end belongs to it. -/
def split (source : Bytes) : List Line :=
  (Bytes.splitOnByte 10 source).zipIdx.map fun (text, index) =>
    ⟨index + 1, Bytes.trimEnding [13] text⟩

end Line
end Blockwork
