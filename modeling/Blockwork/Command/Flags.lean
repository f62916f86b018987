import Blockwork.Command.Number
import Blockwork.Failure
import Blockwork.Text.Quoted

/-!
# Flags

A flag has a name, sometimes a letter, and a value of a fixed type. On the command line two dashes
introduce a name and one dash letters; a flag that is either on or off needs no value, every other
takes it after an equality sign or from the next argument. All that is no flag is an argument.
-/

namespace Blockwork
namespace Command

/-- The value of a flag. -/
inductive FlagValue where
  /-- A text. -/
  | text (value : Bytes)
  /-- On or off. -/
  | truth (value : Bool)
  /-- An integer. -/
  | integer (value : Int)
deriving DecidableEq, Repr

namespace FlagValue

/-- Whether the value may be left out. -/
def isOptional : FlagValue → Bool
  | .truth _ => true
  | _ => false

/-- The value of the same type that a word denotes, or why there is none. -/
def parse (old : FlagValue) (word : Bytes) : Except Bytes FlagValue :=
  let explain (reader : String) (error : WordError) : Bytes :=
    utf8 ("strconv." ++ reader ++ ": parsing ") ++ Text.Quoted.text word ++
      utf8 (": " ++ error.message)
  match old with
  | .text _ => .ok (.text word)
  | .truth _ => ((Command.truth word).map .truth).mapError (explain "ParseBool")
  | .integer _ => ((Command.integer word).map .integer).mapError (explain "ParseInt")

end FlagValue

/-- A flag. -/
structure Flag where
  /-- Its name. -/
  name : String
  /-- Its letter. -/
  letter : Option Char := none
  /-- Its value. -/
  value : FlagValue
  /-- Whether the value was given. -/
  changed : Bool := false
deriving DecidableEq, Repr

namespace Flag

/-- A flag as messages name it. -/
def title (flag : Flag) : Bytes :=
  match flag.letter with
  | some letter => Bytes.ofChars ['-', letter] ++ utf8 (", --" ++ flag.name)
  | none => utf8 ("--" ++ flag.name)

end Flag

/-- Why flags are refused. -/
inductive FlagError where
  /-- There is no flag of a name. -/
  | unknown (name : Bytes)
  /-- There is no flag of the first letter among several. -/
  | unknownLetter (letters : Bytes)
  /-- There is no flag of a name that was to be set. -/
  | missing (name : Bytes)
  /-- A value is refused. -/
  | refused (flag : Flag) (value : Bytes) (reason : Bytes)
  /-- The value of a flag is left out. -/
  | bare (name : Bytes)
  /-- The value of the first letter among several is left out. -/
  | bareLetter (letters : Bytes)
  /-- There is no name after the dashes. -/
  | malformed (argument : Bytes)
deriving DecidableEq, Repr

namespace FlagError

/-- The first letter among several as a message shows it. A letter outside ASCII is shown by the
first byte of the encoding of its own first byte. -/
def shownLetter (letters : Bytes) : Bytes :=
  let code := (letters.headD 0).toNat
  Text.Quoted.single (Char.ofNat (if code < 0x80 then code else if code < 0xC0 then 0xC2 else 0xC3))

/-- The text of an error. -/
def message : FlagError → Bytes
  | .unknown name => utf8 "unknown flag: --" ++ name
  | .unknownLetter letters =>
    utf8 "unknown shorthand flag: " ++ shownLetter letters ++ utf8 " in -" ++ letters
  | .missing name => utf8 "no such flag -" ++ name
  | .refused flag value reason =>
    utf8 "invalid argument " ++ Text.Quoted.text value ++ utf8 " for " ++
      Text.Quoted.text flag.title ++ utf8 " flag: " ++ reason
  | .bare name => utf8 "flag needs an argument: --" ++ name
  | .bareLetter letters =>
    utf8 "flag needs an argument: " ++ shownLetter letters ++ utf8 " in -" ++ letters
  | .malformed argument => utf8 "bad flag syntax: " ++ argument

/-- An error as a failure. -/
def toFailure (error : FlagError) : Failure := .text error.message

end FlagError

/-- The flags of a command. -/
structure Flags where
  /-- The flags, each name and each letter once. -/
  list : List Flag
deriving DecidableEq, Repr

namespace Flags

/-- The flag of a name. -/
def named? (flags : Flags) (name : Bytes) : Option Flag :=
  flags.list.find? fun flag => utf8 flag.name = name

/-- The flag of a letter. -/
def lettered? (flags : Flags) (letter : UInt8) : Option Flag :=
  flags.list.find? fun flag => flag.letter.map Char.toNat = some letter.toNat

/-- Gives a flag a value. -/
def assign (flags : Flags) (flag : Flag) (word : Bytes) : Except FlagError Flags :=
  match flag.value.parse word with
  | .error reason => .error (.refused flag word reason)
  | .ok value =>
    .ok ⟨flags.list.map fun other =>
      if other.name = flag.name then { other with value, changed := true } else other⟩

/-- Gives the flag of a name a value. -/
def set (flags : Flags) (name word : Bytes) : Except FlagError Flags :=
  match flags.named? name with
  | none => .error (.missing name)
  | some flag => flags.assign flag word

/-- The text of a flag. -/
def text (flags : Flags) (name : String) : Bytes :=
  match (flags.named? (utf8 name)).map Flag.value with
  | some (.text value) => value
  | _ => []

/-- Whether a flag is on. -/
def truth (flags : Flags) (name : String) : Bool :=
  match (flags.named? (utf8 name)).map Flag.value with
  | some (.truth value) => value
  | _ => false

/-- The integer of a flag. -/
def integer (flags : Flags) (name : String) : Int :=
  match (flags.named? (utf8 name)).map Flag.value with
  | some (.integer value) => value
  | _ => 0

/-- Whether the value of a flag was given. -/
def isChanged (flags : Flags) (name : String) : Bool :=
  ((flags.named? (utf8 name)).map Flag.changed).getD false

/-- The byte of a dash. -/
def dash : UInt8 := 45

/-- The byte of an equality sign. -/
def equality : UInt8 := 61

/-- Takes a flag by its name; `rest` are the arguments after it. -/
def takeName (flags : Flags) (argument : Bytes) (rest : List Bytes) :
    Except FlagError (Flags × List Bytes) :=
  let body := argument.drop 2
  let name := body.takeWhile (· ≠ equality)
  if body = [] ∨ body.head? = some dash ∨ body.head? = some equality then
    .error (.malformed argument)
  else
    match flags.named? name with
    | none => .error (.unknown name)
    | some flag =>
      if body.contains equality then do
        let flags ← flags.assign flag (body.drop (name.length + 1))
        pure (flags, rest)
      else if flag.value.isOptional then do
        let flags ← flags.assign flag (utf8 "true")
        pure (flags, rest)
      else
        match rest with
        | [] => .error (.bare name)
        | word :: rest => do
          let flags ← flags.assign flag word
          pure (flags, rest)

/-- The beginning of letters that are meant for a test runner. -/
def testLetters : Bytes := utf8 "test."

/-- Takes flags by their letters; `rest` are the arguments after them. Letters that are meant for a
test runner are passed over with all that follows them in the same word. -/
def takeLetters (flags : Flags) (rest : List Bytes) :
    Bytes → Except FlagError (Flags × List Bytes)
  | [] => .ok (flags, rest)
  | letter :: letters =>
    match flags.lettered? letter with
    | none =>
      if Bytes.beginsWith testLetters (letter :: letters) then .ok (flags, rest)
      else .error (.unknownLetter (letter :: letters))
    | some flag =>
      if letters.head? = some equality ∧ 1 < letters.length then do
        let flags ← flags.assign flag letters.tail
        pure (flags, rest)
      else if flag.value.isOptional then do
        let flags ← flags.assign flag (utf8 "true")
        takeLetters flags rest letters
      else if letters ≠ [] then do
        let flags ← flags.assign flag letters
        pure (flags, rest)
      else
        match rest with
        | [] => .error (.bareLetter [letter])
        | word :: rest => do
          let flags ← flags.assign flag word
          pure (flags, rest)

/-- Takes all flags; what is left are the arguments. `fuel` bounds the number of words. -/
def takeWithin : Nat → Flags → List Bytes → Except FlagError (Flags × List Bytes)
  | 0, flags, words => .ok (flags, words)
  | _ + 1, flags, [] => .ok (flags, [])
  | fuel + 1, flags, word :: rest =>
    if word.head? ≠ some dash ∨ word.length < 2 then do
      let (flags, arguments) ← takeWithin fuel flags rest
      pure (flags, word :: arguments)
    else if word = [dash, dash] then .ok (flags, rest)
    else do
      let (flags, rest) ←
        if word.tail.head? = some dash then flags.takeName word rest
        else flags.takeLetters rest word.tail
      takeWithin fuel flags rest

/-- Takes all flags; what is left are the arguments. -/
def take (flags : Flags) (words : List Bytes) : Except FlagError (Flags × List Bytes) :=
  takeWithin (words.length + 1) flags words

/-- Whether the word after a word is its value, as far as the flags tell. A flag that is unknown is
supposed to take one. -/
def takesNext (flags : Flags) (word : Bytes) : Bool :=
  let needsValue (flag : Option Flag) : Bool :=
    match flag with
    | some flag => !flag.value.isOptional
    | none => true
  if word.contains equality then false
  else if Bytes.beginsWith [dash, dash] word then needsValue (flags.named? (word.drop 2))
  else if word.head? = some dash && word.length = 2 then
    needsValue (flags.lettered? (word.getD 1 0))
  else false

end Flags
end Command
end Blockwork
