import Blockwork.Text.Glyph
import Blockwork.Toml.Scalar

/-!
# TOML statements

A TOML text is a sequence of statements: headers of tables, headers of elements of lists of tables,
and pairs of a key and an expression. This module reads them; what they mean together is another
matter.
-/

namespace Blockwork
namespace Toml

/-- The names of which a key consists. -/
abbrev Key := List Bytes

/-- What stands after the equality sign of a pair. -/
inductive Expression where
  /-- A text. -/
  | text (value : Bytes)
  /-- An integer. -/
  | integer (value : Int)
  /-- A number with a fraction; which does not matter. -/
  | float
  /-- A truth value. -/
  | boolean (value : Bool)
  /-- A moment in time; which does not matter. -/
  | moment
  /-- A list. -/
  | array (items : List Expression)
  /-- A table on one line. -/
  | table (pairs : List (Key × Expression))

/-- A statement. -/
inductive Statement where
  /-- The pairs that follow belong to a table. -/
  | table (key : Key)
  /-- The pairs that follow belong to a new element of a list of tables. -/
  | element (key : Key)
  /-- A key gets a value. -/
  | pair (key : Key) (value : Expression)

/-- Whether a character may stand in a name without marks. -/
def isNameChar (char : Char) : Bool := char.isAlphanum || char = '_' || char = '-'

/-- One name of a key. -/
def name : Reader Bytes
  | '"' :: rest => lineText '"' rest
  | '\'' :: rest => lineText '\'' rest
  | text =>
    let word := text.takeWhile isNameChar
    if word = [] then none else some (Bytes.ofChars word, text.dropWhile isNameChar)

/-- A key: names with points between them, and blanks around each. `fuel` bounds their number. -/
def keyWithin : Nat → Reader Key
  | 0, _ => none
  | fuel + 1, text => do
    let (first, rest) ← name (skipBlanks text)
    match skipBlanks rest with
    | '.' :: rest =>
      let (others, rest) ← keyWithin fuel rest
      some (first :: others, rest)
    | rest => some ([first], rest)

/-- A key. -/
def key : Reader Key := fun text => keyWithin (text.length + 1) text

/-- The rest after a comment, which begins at the line's end. -/
def skipComment (text : List Char) : List Char := text.dropWhile (· ≠ '\n')

/-- A text without the blanks, ends of lines and comments at its beginning. `fuel` bounds their
number. -/
def skipSpace : Nat → List Char → List Char
  | 0, text => text
  | fuel + 1, text =>
    match skipBlanks text with
    | '#' :: rest => skipSpace fuel (skipComment rest)
    | text =>
      match newline? text with
      | some rest => skipSpace fuel rest
      | none => text

/-- A text without the space at its beginning. -/
def skipAllSpace (text : List Char) : List Char := skipSpace (text.length + 1) text

/-- Whether a character may stand in a number or a truth value. -/
def isWordChar (char : Char) : Bool :=
  char.isAlphanum || char = '_' || char = '.' || char = '+' || char = '-'

/-- A number, a truth value or a moment. -/
def word : Reader Expression := fun text =>
  if beginsMoment text then
    if isMoment (momentWord text) then some (.moment, text.dropWhile isMomentChar) else none
  else
    let chars := text.takeWhile isWordChar
    let rest := text.dropWhile isWordChar
    if chars = "true".toList then some (.boolean true, rest)
    else if chars = "false".toList then some (.boolean false, rest)
    else
      match integer? chars with
      | some number => some (.integer number, rest)
      | none => if isFloat chars then some (.float, rest) else none

mutual

/-- An expression. `fuel` bounds the number of characters. -/
def expressionWithin : Nat → Reader Expression
  | 0, _ => none
  | fuel + 1, text =>
    match text with
    | '[' :: rest => do
      let (items, rest) ← itemsWithin fuel rest
      some (.array items, rest)
    | '{' :: rest =>
      match skipBlanks rest with
      | '}' :: rest => some (.table [], rest)
      | rest => do
        let (pairs, rest) ← pairsWithin fuel rest
        some (.table pairs, rest)
    | '"' :: _ | '\'' :: _ => do
      let (value, rest) ← quotedText text
      some (.text value, rest)
    | _ => word text

/-- The items of a list up to its end. A comma may follow the last one. -/
def itemsWithin : Nat → Reader (List Expression)
  | 0, _ => none
  | fuel + 1, text =>
    match skipAllSpace text with
    | ']' :: rest => some ([], rest)
    | text => do
      let (first, rest) ← expressionWithin fuel text
      match skipAllSpace rest with
      | ',' :: rest => do
        let (others, rest) ← itemsWithin fuel rest
        some (first :: others, rest)
      | ']' :: rest => some ([first], rest)
      | _ => none

/-- The pairs of a table on one line up to its end. -/
def pairsWithin : Nat → Reader (List (Key × Expression))
  | 0, _ => none
  | fuel + 1, text => do
    let (path, rest) ← key text
    let ((), rest) ← expect? '=' rest
    let (value, rest) ← expressionWithin fuel (skipBlanks rest)
    match skipBlanks rest with
    | ',' :: rest => do
      let (others, rest) ← pairsWithin fuel rest
      some ((path, value) :: others, rest)
    | '}' :: rest => some ([(path, value)], rest)
    | _ => none

end

/-- An expression. -/
def expression : Reader Expression := fun text => expressionWithin (text.length + 1) text

/-- A statement. -/
def statement : Reader Statement
  | '[' :: '[' :: rest => do
    let (path, rest) ← key rest
    let ((), rest) ← expect? ']' rest
    let ((), rest) ← expect? ']' rest
    some (.element path, rest)
  | '[' :: rest => do
    let (path, rest) ← key rest
    let ((), rest) ← expect? ']' rest
    some (.table path, rest)
  | text => do
    let (path, rest) ← key text
    let ((), rest) ← expect? '=' rest
    let (value, rest) ← expression (skipBlanks rest)
    some (.pair path value, rest)

/-- The rest after a statement has to be on another line. -/
def endLine? (text : List Char) : Option (List Char) :=
  match skipBlanks text with
  | [] => some []
  | '#' :: rest => some (skipComment rest)
  | text => newline? text

/-- The statements of a text. `fuel` bounds their number. -/
def statementsWithin : Nat → List Char → Option (List Statement)
  | 0, _ => none
  | fuel + 1, text =>
    match skipAllSpace text with
    | [] => some []
    | text => do
      let (first, rest) ← statement text
      let rest ← endLine? rest
      let others ← statementsWithin fuel rest
      some (first :: others)

/-- Whether a character may stand in a text at all: of the control characters only the tabulator
and the end of a line, and not the character that stands for undecodable bytes. -/
def isAllowed (char : Char) : Bool :=
  char = '\t' || char = '\n' || char = '\r' ||
    (32 ≤ char.toNat && char.toNat ≠ 127 && char ≠ Glyph.replacement)

/-- Whether every carriage return is followed by a line feed. -/
def pairsReturns : List Char → Bool
  | [] => true
  | '\r' :: '\n' :: rest => pairsReturns rest
  | '\r' :: _ => false
  | _ :: rest => pairsReturns rest

/-- A text without the mark of its byte order. -/
def dropByteOrder (text : Bytes) : Bytes :=
  match text with
  | 0xFF :: 0xFE :: rest | 0xFE :: 0xFF :: rest | 0xEF :: 0xBB :: 0xBF :: rest => rest
  | _ => text

/-- The statements of a text. -/
def statements? (text : Bytes) : Option (List Statement) :=
  let chars := (Glyph.list (dropByteOrder text)).map Glyph.char
  if chars.all isAllowed && pairsReturns chars then statementsWithin (chars.length + 1) chars
  else none

end Toml
end Blockwork
