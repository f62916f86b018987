import Blockwork.Text.Bytes

/-!
# TOML scalars

The values of TOML that hold no other values: text, numbers, truth values and moments in time. A
reader takes the characters in front of it and gives what it has read and the characters after it,
or nothing if they are no such value.
-/

namespace Blockwork
namespace Toml

/-- What can be read at the beginning of a text, and the rest. -/
abbrev Reader (α : Type) := List Char → Option (α × List Char)

/-- Whether a character is a blank. -/
def isBlank (char : Char) : Bool := char = ' ' || char = '\t'

/-- A text without the blanks at its beginning. -/
def skipBlanks (text : List Char) : List Char := text.dropWhile isBlank

/-- The rest after the end of a line. -/
def newline? : List Char → Option (List Char)
  | '\n' :: rest => some rest
  | '\r' :: '\n' :: rest => some rest
  | _ => none

/-- Whether a character is a hexadecimal digit. -/
def isHexDigit (char : Char) : Bool :=
  char.isDigit || ('a' ≤ char && char ≤ 'f') || ('A' ≤ char && char ≤ 'F')

/-- The value of a digit. -/
def digitValue (char : Char) : Nat :=
  if char.isDigit then char.toNat - 48 else char.toLower.toNat - 87

/-- The number that digits denote in a base. -/
def numberOf (base : Nat) (digits : List Char) : Nat :=
  digits.foldl (fun number digit => number * base + digitValue digit) 0

/-! ## Text -/

/-- The character whose code stands in the given number of hexadecimal digits. -/
def codePoint? (count : Nat) (text : List Char) : Option (Char × List Char) :=
  let digits := text.take count
  let code := numberOf 16 digits
  if digits.length = count ∧ digits.all isHexDigit ∧ code.isValidChar then
    some (Char.ofNat code, text.drop count)
  else none

/-- The character that an escape sequence stands for; its backslash has been read. -/
def escape? : Reader Char
  | 'b' :: rest => some (Char.ofNat 8, rest)
  | 't' :: rest => some ('\t', rest)
  | 'n' :: rest => some ('\n', rest)
  | 'f' :: rest => some (Char.ofNat 12, rest)
  | 'r' :: rest => some ('\r', rest)
  | '"' :: rest => some ('"', rest)
  | '\\' :: rest => some ('\\', rest)
  | 'u' :: rest => codePoint? 4 rest
  | 'U' :: rest => codePoint? 8 rest
  | _ => none

/-- A text on one line up to the mark that ends it. `fuel` bounds its length. -/
def lineWithin (escapes : Bool) (mark : Char) : Nat → Reader (List Char)
  | 0, _ => none
  | _ + 1, [] => none
  | fuel + 1, char :: rest =>
    if char = mark then some ([], rest)
    else if char = '\n' || char = '\r' then none
    else do
      let (first, rest) ← if escapes && char = '\\' then escape? rest else some (char, rest)
      let (others, rest) ← lineWithin escapes mark fuel rest
      some (first :: others, rest)

/-- The rest of a text after blanks and at least one end of a line. -/
def continued? (text : List Char) : Option (List Char) :=
  let isSpace (char : Char) : Bool := isBlank char || char = '\n' || char = '\r'
  if (text.takeWhile isSpace).contains '\n' then some (text.dropWhile isSpace) else none

/-- A text on several lines up to the three marks that end it. One or two marks more belong to the
text, and after a backslash that was escaped itself a third one. `escaped` says whether such a
backslash has just been read, and `fuel` bounds the length of the text. -/
def linesWithin (escapes : Bool) (mark : Char) (escaped : Bool) : Nat → Reader (List Char)
  | 0, _ => none
  | _ + 1, [] => none
  | fuel + 1, char :: rest =>
    if char = mark then
      let marks := (char :: rest).takeWhile (· = mark)
      let after := (char :: rest).dropWhile (· = mark)
      if marks.length < 3 then do
        let (others, rest) ← linesWithin escapes mark false fuel after
        some (marks ++ others, rest)
      else if marks.length < 6 ∨ marks.length = 6 ∧ escaped then some (marks.drop 3, after)
      else none
    else if escapes && char = '\\' then
      match continued? rest with
      | some rest => linesWithin escapes mark false fuel rest
      | none => do
        let escaped := rest.head? = some '\\'
        let (first, rest) ← escape? rest
        let (others, rest) ← linesWithin escapes mark escaped fuel rest
        some (first :: others, rest)
    else do
      let (others, rest) ← linesWithin escapes mark false fuel rest
      some (char :: others, rest)

/-- A text on one line whose first mark has been read. Double marks allow escape sequences. -/
def lineText (mark : Char) : Reader Bytes := fun text => do
  let (chars, rest) ← lineWithin (mark = '"') mark (text.length + 1) text
  some (Bytes.ofChars chars, rest)

/-- A text on several lines whose first three marks have been read. An end of line right after them
does not count. -/
def linesText (mark : Char) : Reader Bytes := fun text => do
  let text := (newline? text).getD text
  let (chars, rest) ← linesWithin (mark = '"') mark false (text.length + 1) text
  some (Bytes.ofChars chars, rest)

/-- A text in double or single marks, on one line or on several. -/
def quotedText : Reader Bytes
  | '"' :: '"' :: '"' :: rest => linesText '"' rest
  | '\'' :: '\'' :: '\'' :: rest => linesText '\'' rest
  | '"' :: rest => lineText '"' rest
  | '\'' :: rest => lineText '\'' rest
  | _ => none

/-! ## Numbers -/

/-- The pieces of a word between the occurrences of a character. -/
def pieces (separator : Char) : List Char → List (List Char)
  | [] => [[]]
  | char :: rest =>
    if char = separator then [] :: pieces separator rest
    else
      match pieces separator rest with
      | [] => [[char]]
      | piece :: others => (char :: piece) :: others

/-- The digits of a word in which single underscores may divide them. -/
def digits? (isDigit : Char → Bool) (word : List Char) : Option (List Char) :=
  let groups := pieces '_' word
  if groups.all fun group => !group.isEmpty && group.all isDigit then some groups.flatten else none

/-- The sign of a word, as whether it is negative, and the rest. -/
def sign : List Char → Bool × List Char
  | '+' :: rest => (false, rest)
  | '-' :: rest => (true, rest)
  | word => (false, word)

/-- The digits of a decimal number without needless zeros in front. -/
def decimal? (word : List Char) : Option (List Char) :=
  match word with
  | '0' :: _ :: _ => none
  | _ => digits? Char.isDigit word

/-- A number that fits a signed word of sixty-four bits. -/
def fitting? (number : Int) : Option Int :=
  if -0x8000000000000000 ≤ number ∧ number < 0x8000000000000000 then some number else none

/-- The integer that a word denotes: decimal with or without a sign, or in another base. -/
def integer? : List Char → Option Int
  | '0' :: 'x' :: word => (digits? isHexDigit word).bind fun digits => fitting? (numberOf 16 digits)
  | '0' :: 'o' :: word =>
    (digits? (fun char => '0' ≤ char && char ≤ '7') word).bind fun digits =>
      fitting? (numberOf 8 digits)
  | '0' :: 'b' :: word =>
    (digits? (fun char => char = '0' || char = '1') word).bind fun digits =>
      fitting? (numberOf 2 digits)
  | word =>
    let (negative, magnitude) := sign word
    (decimal? magnitude).bind fun digits =>
      fitting? (if negative then -(numberOf 10 digits : Int) else numberOf 10 digits)

/-- Whether digits followed by a power of ten stay below the largest number of double precision,
with what is rounded to it. -/
def isFinite (digits : List Char) (exponent : Int) : Bool :=
  let number := numberOf 10 digits
  let size : Int := (Nat.toDigits 10 number).length + exponent
  if number = 0 ∨ size < 300 then true
  else if 310 < size then false
  else
    let limit := Nat.pow 2 1024 - Nat.pow 2 970
    if 0 ≤ exponent then number * Nat.pow 10 exponent.toNat < limit
    else number < limit * Nat.pow 10 (-exponent).toNat

/-- Whether a word is a number with a fraction, an exponent or both, or is no number or infinite. -/
def isFloat (word : List Char) : Bool :=
  let magnitude := (sign word).2
  if magnitude = "inf".toList ∨ magnitude = "nan".toList then true
  else
    let isMark (char : Char) : Bool := char = 'e' || char = 'E'
    let mantissa := magnitude.takeWhile fun char => !isMark char
    let power := magnitude.dropWhile fun char => !isMark char
    let whole := mantissa.takeWhile (· ≠ '.')
    let fraction := mantissa.dropWhile (· ≠ '.')
    let fractionDigits := if fraction = [] then some [] else digits? Char.isDigit fraction.tail
    let (negative, powerWord) := sign power.tail
    let powerDigits := if power = [] then some [] else digits? Char.isDigit powerWord
    match decimal? whole, fractionDigits, powerDigits with
    | some wholeDigits, some places, some size =>
      let exponent : Int := numberOf 10 size
      let shift := if negative then -exponent else exponent
      (fraction ≠ [] || power ≠ []) && isFinite (wholeDigits ++ places) (shift - places.length)
    | _, _, _ => false

/-! ## Moments -/

/-- A number of two digits below a limit. -/
def twoDigits? (limit : Nat) : Reader Nat
  | tens :: ones :: rest =>
    let number := numberOf 10 [tens, ones]
    if tens.isDigit && ones.isDigit && number < limit then some (number, rest) else none
  | _ => none

/-- A character that has to stand there. -/
def expect? (expected : Char) : Reader Unit
  | char :: rest => if char = expected then some ((), rest) else none
  | [] => none

/-- Whether a year has a day more. -/
def isLeap (year : Nat) : Bool := year % 4 = 0 && (year % 100 ≠ 0 || year % 400 = 0)

/-- The number of days of a month. -/
def daysIn (year month : Nat) : Nat :=
  if month = 2 then if isLeap year then 29 else 28
  else if [4, 6, 9, 11].contains month then 30
  else 31

/-- A date: year, month and day. -/
def date? : Reader Unit := fun text => do
  let (century, rest) ← twoDigits? 100 text
  let (years, rest) ← twoDigits? 100 rest
  let ((), rest) ← expect? '-' rest
  let (month, rest) ← twoDigits? 13 rest
  let ((), rest) ← expect? '-' rest
  let (day, rest) ← twoDigits? 32 rest
  if 0 < month ∧ 0 < day ∧ day ≤ daysIn (century * 100 + years) month then some ((), rest) else none

/-- An hour of one or two digits. -/
def hour? : Reader Nat
  | tens :: rest =>
    if (rest.head?.map Char.isDigit).getD false then twoDigits? 24 (tens :: rest)
    else if tens.isDigit then some (digitValue tens, rest)
    else none
  | [] => none

/-- A time of day, which may have a fraction of a second. -/
def time? : Reader Unit := fun text => do
  let (_, rest) ← hour? text
  let ((), rest) ← expect? ':' rest
  let (_, rest) ← twoDigits? 60 rest
  let ((), rest) ← expect? ':' rest
  let (_, rest) ← twoDigits? 60 rest
  match rest with
  | '.' :: digit :: after =>
    if digit.isDigit then some ((), after.dropWhile Char.isDigit) else some ((), rest)
  | _ => some ((), rest)

/-- A difference from universal time. -/
def offset? : Reader Unit
  | 'Z' :: rest => some ((), rest)
  | mark :: rest => do
    let (_, rest) ← twoDigits? 25 rest
    let ((), rest) ← expect? ':' rest
    let (_, rest) ← twoDigits? 61 rest
    if mark = '+' ∨ mark = '-' then some ((), rest) else none
  | [] => none

/-- Whether a reader takes a whole text. -/
def takesAll {α : Type} (reader : Reader α) (text : List Char) : Bool :=
  match reader text with
  | some (_, rest) => rest.isEmpty
  | none => false

/-- Whether a word is a date, a time of day, or both with or without an offset. -/
def isMoment (word : List Char) : Bool :=
  let dateAndTime : Reader Unit := fun text => do
    let ((), rest) ← date? text
    let ((), rest) ← expect? 'T' rest
    time? rest
  let complete : Reader Unit := fun text => do
    let ((), rest) ← dateAndTime text
    offset? rest
  takesAll complete word || takesAll dateAndTime word || takesAll date? word || takesAll time? word

/-- A moment is written with these characters, a blank among them. -/
def isMomentChar (char : Char) : Bool := char.isDigit || "-:Tt .Zz+".toList.contains char

/-- The word that may be a moment: blanks at its end do not count, and small letters and a blank
stand for the letters that they replace. -/
def momentWord (text : List Char) : List Char :=
  let word := (text.takeWhile isMomentChar).reverse.dropWhile (· = ' ')
  word.reverse.map fun char =>
    if char = 't' || char = ' ' then 'T' else if char = 'z' then 'Z' else char

/-- Whether the number at the beginning of a text is continued as a moment. -/
def beginsMoment (text : List Char) : Bool :=
  let digits := text.takeWhile Char.isDigit
  let next := (text.dropWhile Char.isDigit).head?
  digits ≠ [] && digits ≠ ['0'] && (next = some '-' || next = some ':')

end Toml
end Blockwork
