import Blockwork.Command.Flags
import Blockwork.Text.Case

/-!
# Invocations

The words of a command line name a command somewhere among flags. The command is found first, by
skipping what looks like flags and their values; then its flags are taken, and what is left are its
arguments. A command that does not exist is answered with those that are spelled alike.
-/

namespace Blockwork
namespace Command

/-- What the program can be asked to do. -/
inductive Verb where
  /-- To build files. -/
  | build
  /-- To print a file in its usual form. -/
  | dump
  /-- To build a sample program. -/
  | sample
  /-- To tell its version. -/
  | version
  /-- To explain itself. -/
  | help
  /-- To help a shell to complete command lines. -/
  | completion
deriving DecidableEq, Repr

namespace Verb

/-- Every verb, in the order in which they are suggested. -/
def all : List Verb := [.build, .dump, .sample, .version, .help, .completion]

/-- The word for a verb. -/
def name : Verb → String
  | .build => "build"
  | .dump => "dump"
  | .sample => "example"
  | .version => "version"
  | .help => "help"
  | .completion => "completion"

/-- The verb that a word names. -/
def ofName? (word : Bytes) : Option Verb := all.find? fun verb => utf8 verb.name = word

/-- The flags of a verb alone. -/
def flags : Verb → List Flag
  | .build =>
    [{ name := "out-dir", letter := some 'o', value := .text [] },
     { name := "optimize", letter := some 'O', value := .truth false },
     { name := "emit-llvm", value := .truth false },
     { name := "emit-asm", value := .truth false },
     { name := "verbose", value := .truth false },
     { name := "jobs", letter := some 'j', value := .integer 0 },
     { name := "no-cache", value := .truth false },
     { name := "ui", value := .text (utf8 "auto") },
     { name := "print-commands", value := .truth false },
     { name := "clang", value := .text (utf8 "clang") }]
  | .dump =>
    [{ name := "check", value := .truth false }, { name := "pack", value := .text [] }]
  | .sample =>
    [{ name := "split", value := .truth false },
     { name := "output", letter := some 'o', value := .text [] },
     { name := "optimize", letter := some 'O', value := .truth false },
     { name := "verbose", value := .truth false }]
  | .version => [{ name := "format", value := .text (utf8 "pretty") }]
  | .help | .completion => []

end Verb

/-- The flags that every verb has. -/
def commonFlags : List Flag :=
  [{ name := "color", value := .text (utf8 "auto") },
   { name := "quiet", value := .truth false },
   { name := "timings", value := .truth false },
   { name := "trace", value := .text [] },
   { name := "trace-level", value := .text (utf8 "off") },
   { name := "trace-format", value := .text (utf8 "auto") },
   { name := "trace-mode", value := .text (utf8 "stream") },
   { name := "trace-ring-size", value := .integer 4096 }]

/-- The flag that asks for an explanation. -/
def helpFlag : Flag := { name := "help", letter := some 'h', value := .truth false }

/-- The flag that asks for the version. -/
def versionFlag : Flag := { name := "version", letter := some 'v', value := .truth false }

/-- The flags by which the words of a command line are divided while its verb is sought. -/
def seekingFlags (verb : Option Verb) : Flags :=
  ⟨((verb.map Verb.flags).getD []) ++ commonFlags⟩

/-- The flags of a command line with or without a verb. -/
def flagsFor (verb : Option Verb) : Flags :=
  ⟨(seekingFlags verb).list ++ if verb.isNone then [helpFlag, versionFlag] else [helpFlag]⟩

/-- The program as messages name it, with its verb if it has one. -/
def title (verb : Option Verb) : Bytes :=
  match verb with
  | none => utf8 "pcb"
  | some verb => utf8 ("pcb " ++ verb.name)

/-- The words that are neither flags nor seem to be values of flags, up to two dashes. A flag that
takes a value and has at most one word after it ends the search. -/
def bareWordsWithin (flags : Flags) : Nat → List Bytes → List Bytes
  | 0, _ => []
  | _ + 1, [] => []
  | fuel + 1, word :: rest =>
    if word = [Flags.dash, Flags.dash] then []
    else if flags.takesNext word then
      if rest.length ≤ 1 then [] else bareWordsWithin flags fuel rest.tail
    else if word ≠ [] ∧ word.head? ≠ some Flags.dash then word :: bareWordsWithin flags fuel rest
    else bareWordsWithin flags fuel rest

/-- The words that are neither flags nor seem to be values of flags. -/
def bareWords (flags : Flags) (words : List Bytes) : List Bytes :=
  bareWordsWithin flags (words.length + 1) words

/-- The words without the first occurrence of a bare word. -/
def dropWordWithin (flags : Flags) (unwanted : Bytes) : Nat → List Bytes → List Bytes
  | 0, words => words
  | _ + 1, [] => []
  | fuel + 1, word :: rest =>
    if word = [Flags.dash, Flags.dash] then word :: rest
    else if flags.takesNext word then
      match rest with
      | [] => [word]
      | value :: rest => word :: value :: dropWordWithin flags unwanted fuel rest
    else if word = unwanted ∧ word.head? ≠ some Flags.dash then rest
    else word :: dropWordWithin flags unwanted fuel rest

/-- The words without the first occurrence of a bare word. -/
def dropWord (flags : Flags) (unwanted : Bytes) (words : List Bytes) : List Bytes :=
  dropWordWithin flags unwanted (words.length + 1) words

/-- The next row of the table of distances: `above` is the row before from the second column on,
`diagonal` its first entry, and `left` the entry just computed. -/
def distanceRow (byte : UInt8) : Bytes → List Nat → Nat → Nat → List Nat
  | other :: others, above :: aboves, diagonal, left =>
    let here := if byte = other then diagonal else min (min above left) diagonal + 1
    here :: distanceRow byte others aboves above here
  | _, _, _, _ => []

/-- The least number of bytes to insert, remove or replace to turn one word into another. -/
def distance (word other : Bytes) : Nat :=
  let start := List.range (other.length + 1)
  let last := word.foldl (fun row byte =>
    (row.headD 0 + 1) :: distanceRow byte other row.tail (row.headD 0) (row.headD 0 + 1)) start
  last.getLastD 0

/-- Whether a verb is suggested for a word: it is spelled alike or begins with it. -/
def resembles (word : Bytes) (verb : Verb) : Bool :=
  let lowered := Text.lower word
  verb ≠ .help &&
    (distance lowered (utf8 verb.name) ≤ 2 || Bytes.beginsWith lowered (utf8 verb.name))

/-- The failure of a word that names no verb. -/
def unknownVerb (word : Bytes) : Failure :=
  let suggestions := Verb.all.filter (resembles word)
  let question :=
    if suggestions = [] then []
    else
      utf8 "\n\nDid you mean this?\n" ++
        suggestions.flatMap fun verb => utf8 ("\t" ++ verb.name ++ "\n")
  .text (utf8 "unknown command " ++ Text.Quoted.text word ++ utf8 " for " ++
    Text.Quoted.text (title none) ++ question)

/-- The verb of a command line and the words without it. -/
def seekVerb (words : List Bytes) : Except Failure (Option Verb × List Bytes) :=
  let flags := seekingFlags none
  match bareWords flags words with
  | [] => .ok (none, words)
  | word :: _ =>
    match Verb.ofName? word with
    | none => .error (unknownVerb word)
    | some verb => .ok (some verb, dropWord flags word words)

/-- A command line that has been understood. -/
structure Invocation where
  /-- What is to be done; nothing if there is no verb. -/
  verb : Option Verb
  /-- The flags. -/
  flags : Flags
  /-- The arguments. -/
  arguments : List Bytes
deriving DecidableEq, Repr

namespace Invocation

/-- Understands a command line. -/
def parse (words : List Bytes) : Except Failure Invocation := do
  let (verb, rest) ← seekVerb words
  let (flags, arguments) ← ((flagsFor verb).take rest).mapError FlagError.toFailure
  pure { verb, flags, arguments }

/-- Refuses a number of arguments that does not fit the verb. -/
def checkArguments (invocation : Invocation) : Except Failure Unit :=
  match invocation.verb, invocation.arguments with
  | some .dump, [_] => .ok ()
  | some .dump, arguments =>
    .error (.text (utf8 "accepts 1 arg(s), received " ++ Bytes.decimal arguments.length))
  | some .sample, first :: _ | some .version, first :: _ =>
    .error (.text (utf8 "unknown command " ++ Text.Quoted.text first ++ utf8 " for " ++
      Text.Quoted.text (title invocation.verb)))
  | _, _ => .ok ()

end Invocation
end Command
end Blockwork
