import Blockwork.Program.Access
import Blockwork.Proofs.Locating
import Blockwork.Proofs.Replaying

/-!
# Looking without asking

Reading looks at tokens by their place in a line, at the first token of an instruction, at the last
line of a text and at what construction has just made, and does not ask first whether there is
anything. Here the same rounds are written down with every such look as one that may crash. They
never do: a line always ends with a token for its end, an instruction is put aside only if it has a
token, and a function that was declared stays. So reading comes to an end for every text, and if it
fails, the failure points into the text.
-/

namespace Blockwork
namespace Unguarded

open Reader

/-- What is looked at has to be there. -/
def there {α : Type} : Option α → Except Crash α
  | some value => .ok value
  | none => .error .nothingThere

/-- What stands behind so many elements of a list; there have to be so many. -/
def behind {α : Type} (list : List α) (count : Nat) : Except Crash (List α) :=
  if count ≤ list.length then .ok (list.drop count) else .error .nothingThere

/-- The round over the headers. It looks at the first token of every line, behind the word that
begins a header, at the second token of a line that closes a body, and at the last line if a body is
not closed. -/
def declare (file : Bytes) (lines : List Line) (context : Context) (current : Option Declaration) :
    List Line → Except Crash (Except ParseError (Context × List Declaration))
  | [] =>
    match current with
    | none => .ok (.ok (context, []))
    | some declaration => do
      let last ← there lines[lines.length - 1]?
      pure (.error (Complaint.locate
        ⟨1, utf8 "function " ++ declaration.name ++ utf8 " is missing its closing '\x7d'", none⟩
        file last))
  | line :: rest => do
    let first ← there line.tokens[0]?
    if first.kind = .endOfLine then declare file lines context current rest
    else
      match current with
      | none =>
        if first.isWord "define" then do
          let tokens ← behind line.tokens 1
          match Grammar.readHeader (stopOf line) tokens with
          | .error complaint => pure (.error (complaint.locate file line))
          | .ok header =>
            match declareHeader context header with
            | .error complaint => pure (.error (complaint.locate file line))
            | .ok (context, function) =>
              declare file lines context (some ⟨function, Text.normalize header.name, []⟩) rest
        else
          pure (.error (Complaint.locate
            ⟨first.column, utf8 "expected 'define', found " ++ Text.Quoted.text first.text, none⟩
            file line))
      | some declaration =>
        if first.kind = .mark .rightBrace then do
          let second ← there line.tokens[1]?
          if second.kind = .endOfLine then do
            let outcome ← declare file lines context none rest
            pure (outcome.map fun (context, declarations) =>
              (context, { declaration with body := declaration.body.reverse } :: declarations))
          else
            pure (.error (Complaint.locate
              ⟨second.column, utf8 "unexpected " ++ second.kind.name ++ utf8 " after '\x7d'", none⟩
              file line))
        else
          declare file lines context
            (some { declaration with body := line :: declaration.body }) rest

/-- Whether a line is a label. It looks at the first token, and at the second one if the first might
belong to a label. -/
def isLabel (line : Line) : Except Crash Bool := do
  let first ← there line.tokens[0]?
  if first.kind = .word ∧ Bytes.beginsWith (utf8 "bb") first.text then do
    let second ← there line.tokens[1]?
    pure (decide (second.kind = .mark .colon))
  else pure false

/-- Gathers a value line or a terminator line. Behind percent sign, number, colon, type and equals
sign of a value line it looks for the instruction. -/
def gatherContent (gathered : Gathered) (block : BlockId) (line : Line) (first : Token) :
    Except Crash (Except Complaint Gathered) :=
  if first.kind = .mark .percent then
    match Grammar.readValueHead (stopOf line) line.tokens with
    | .error complaint => pure (.error complaint)
    | .ok head => do
      let instruction ← behind line.tokens 5
      let (types, type) := gathered.context.types.insert head.type
      pure (.ok { gathered with
        context := { gathered.context with types }
        values := ⟨line, block, head.number, first.column, type, instruction⟩ :: gathered.values })
  else pure (Reader.gatherContent gathered block line first)

/-- Gathers a line of a body. It looks at the first token, and at the function of the body before a
block is added. -/
def gatherLine (function : FunctionId) (gathered : Gathered) (line : Line) :
    Except Crash (Except Complaint Gathered) := do
  let first ← there line.tokens[0]?
  if ← isLabel line then do
    let _ ← there (gathered.context.functions.get? function)
    pure (gatherLabel function gathered line first)
  else if gathered.blocks = 0 then
    pure (.error ⟨first.column, utf8 "instruction outside of a block", none⟩)
  else if gathered.ended then
    pure (.error ⟨first.column, utf8 "instruction after the terminator of " ++
      blockName (gathered.blocks - 1), none⟩)
  else gatherContent gathered (gathered.blocks - 1) line first

/-- Gathers the lines of a body. -/
def gather (file : Bytes) (function : FunctionId) (gathered : Gathered) :
    List Line → Except Crash (Except ParseError Gathered)
  | [] => .ok (.ok gathered)
  | line :: rest => do
    match ← gatherLine function gathered line with
    | .ok gathered => gather file function gathered rest
    | .error complaint => pure (.error (complaint.locate file line))

/-- Builds the value of a line. It looks at the first token of the line and of the instruction, at
the function, and at the value that it has built. -/
def replayValue (file : Bytes) (function : FunctionId) (context : Context) (value : PendingValue) :
    Except Crash (Except Complaint Context) := do
  let first ← there value.line.tokens[0]?
  let content ← there (context.functions.get? function)
  if value.number ≠ content.values.size then
    pure (.error ⟨first.column, utf8 "value " ++ valueName value.number ++
      utf8 " out of sequence, expected " ++ valueName content.values.size, none⟩)
  else do
    let head ← there value.instruction[0]?
    match readInstruction file context value with
    | .error complaint => pure (.error complaint)
    | .ok instruction =>
      match buildInstruction context ⟨function, value.block⟩ value.type instruction with
      | .error error =>
        pure (.error ⟨head.column, utf8 "invalid instruction", some (.build error)⟩)
      | .ok (context, id) => do
        let content ← there (context.functions.get? function)
        let built ← there (content.values.get? id)
        if built.type = value.type then pure (.ok context)
        else
          pure (.error ⟨first.column, valueName id ++ utf8 " declared as " ++
            context.types.name value.type ++ utf8 " but has type " ++
            context.types.name built.type, none⟩)

/-- Builds the values of a body. -/
def replayValues (file : Bytes) (function : FunctionId) (context : Context) :
    List PendingValue → Except Crash (Except ParseError Context)
  | [] => .ok (.ok context)
  | value :: rest => do
    match ← replayValue file function context value with
    | .ok context => replayValues file function context rest
    | .error complaint => pure (.error (complaint.locate file value.line))

/-- Ends the block of a terminator line. It looks at the function, and at the first token of the
line if construction refuses what the line says. -/
def replayTerminator (function : FunctionId) (context : Context) (pending : PendingTerminator) :
    Except Crash (Except Complaint Context) := do
  let content ← there (context.functions.get? function)
  let place : Place := ⟨function, pending.block⟩
  match pending.terminator with
  | .branch target =>
    if (content.blocks.get? target).isNone then
      pure (.error ⟨pending.referenceColumn,
        utf8 "branch to undefined block " ++ blockName target, none⟩)
    else
      match context.buildBranch place (.own target) with
      | .ok context => pure (.ok context)
      | .error error => do
        let first ← there pending.line.tokens[0]?
        pure (.error ⟨first.column, utf8 "invalid branch", some (.build error)⟩)
  | .result value =>
    if (content.values.get? value).isNone then
      pure (.error ⟨pending.referenceColumn,
        utf8 "return of undefined value " ++ valueName value, none⟩)
    else
      match context.buildReturn place (.own value) with
      | .ok context => pure (.ok context)
      | .error error => do
        let first ← there pending.line.tokens[0]?
        pure (.error ⟨first.column, utf8 "invalid return", some (.build error)⟩)

/-- Ends the blocks of a body. -/
def replayTerminators (file : Bytes) (function : FunctionId) (context : Context) :
    List PendingTerminator → Except Crash (Except ParseError Context)
  | [] => .ok (.ok context)
  | pending :: rest => do
    match ← replayTerminator function context pending with
    | .ok context => replayTerminators file function context rest
    | .error complaint => pure (.error (complaint.locate file pending.line))

/-- Reads the body of a function. -/
def readBody (file : Bytes) (context : Context) (declaration : Declaration) :
    Except Crash (Except ParseError Context) := do
  match ← gather file declaration.function { context } declaration.body with
  | .error error => pure (.error error)
  | .ok gathered =>
    match ← replayValues file declaration.function gathered.context
        (sortByNumber gathered.values.reverse) with
    | .error error => pure (.error error)
    | .ok context =>
      replayTerminators file declaration.function context gathered.terminators.reverse

/-- Reads bodies one after the other, up to the first that is wrong. -/
def readBodies (file : Bytes) (context : Context) :
    List Declaration → Except Crash (Except ParseError Context)
  | [] => .ok (.ok context)
  | declaration :: rest => do
    match ← readBody file context declaration with
    | .error error => pure (.error error)
    | .ok context => readBodies file context rest

/-- Reads a source text. -/
def parse (file source : Bytes) (optimize : Bool) : Except Crash (Except ParseError Context) := do
  let lines := Line.split source
  match ← declare file lines (.new optimize) none lines with
  | .error error => pure (.error error)
  | .ok (context, declarations) => readBodies file context declarations

/-! ## Nothing that is looked at is missing -/

theorem there_some {α : Type} (value : α) : there (some value) = .ok value := rfl

theorem there_first (line : Line) :
    there line.tokens[0]? = .ok (Grammar.peek (stopOf line) line.tokens) := by
  rw [← List.head?_eq_getElem?, line.head?_tokens, there_some]

theorem there_second {line : Line}
    (more : (Grammar.peek (stopOf line) line.tokens).kind ≠ .endOfLine) :
    there line.tokens[1]? = .ok (Grammar.peek (stopOf line) line.tokens.tail) := by
  rw [Line.second_tokens more, there_some]

theorem behind_first (line : Line) : behind line.tokens 1 = .ok line.tokens.tail := by
  have one : 1 ≤ line.tokens.length := List.length_pos_of_ne_nil line.arranged.ne_nil
  rw [behind, if_pos one, List.drop_one]

theorem there_function {context : Context} {function : FunctionId}
    (present : Present context function) :
    ∃ content, context.functions.get? function = some content ∧
      there (context.functions.get? function) = .ok content := by
  obtain ⟨content, found⟩ := Option.isSome_iff_exists.mp present
  exact ⟨content, found, by rw [found, there_some]⟩

variable {file : Bytes} {lines : List Line} {context : Context}

theorem declare_eq {last : Line} {rest before : List Line} (current : Option Declaration)
    (split : before ++ rest = lines) (final : rest = [] → lines.getLast? = some last) :
    declare file lines context current rest =
      .ok (Reader.declare file last context current rest) := by
  induction rest generalizing last before context current with
  | nil =>
    cases current with
    | none => rfl
    | some declaration =>
      rw [declare, ← List.getLast?_eq_getElem?, final rfl]
      rfl
  | cons line rest ih =>
    have split' : (before ++ [line]) ++ rest = lines := by simpa using split
    have final' : rest = [] → lines.getLast? = some line := by
      rintro rfl
      rw [← split']
      simp
    unfold Reader.declare
    rw [declare, there_first, ok_bind]
    dsimp only
    split
    · exact ih current split' final'
    · rename_i more
      cases current with
      | none =>
        dsimp only
        split
        · rw [behind_first, ok_bind]
          cases Grammar.readHeader (stopOf line) line.tokens.tail with
          | error complaint => rfl
          | ok header =>
            dsimp only
            cases declareHeader context header with
            | error complaint => rfl
            | ok added => exact ih _ split' final'
        · rfl
      | some declaration =>
        dsimp only
        split
        · rw [there_second more, ok_bind]
          split
          · rw [ih none split' final', ok_bind]
            cases Reader.declare file line context none rest <;> rfl
          · rfl
        · exact ih _ split' final'

theorem isLabel_eq (line : Line) :
    isLabel line = .ok (decide
      ((Grammar.peek (stopOf line) line.tokens).kind = .word ∧
        Bytes.beginsWith (utf8 "bb") (Grammar.peek (stopOf line) line.tokens).text ∧
        (Grammar.peek (stopOf line) line.tokens.tail).kind = .mark .colon)) := by
  rw [isLabel, there_first, ok_bind]
  split
  · -- A word is not the end of the line, so something stands behind it.
    rename_i word
    have more : (Grammar.peek (stopOf line) line.tokens).kind ≠ .endOfLine := by
      rw [word.1]
      nofun
    rw [there_second more, ok_bind]
    simp only [word, true_and]
    rfl
  · rename_i other
    rw [decide_eq_false fun all => other ⟨all.1, all.2.1⟩]
    rfl

theorem gatherContent_eq (gathered : Gathered) (block : BlockId) (line : Line) (first : Token) :
    gatherContent gathered block line first =
      .ok (Reader.gatherContent gathered block line first) := by
  unfold gatherContent
  split
  · rename_i percent
    rw [Reader.gatherContent, if_pos percent]
    have reads := Grammar.delivers_readValueHead line.reaches List.suffix_rfl
    cases read : Grammar.readValueHead (stopOf line) line.tokens with
    | error complaint => rfl
    | ok head =>
      obtain ⟨fifth, first, rest, split, -⟩ := reads.of_ok read
      have enough : 5 ≤ line.tokens.length := by
        by_contra short
        rw [List.drop_of_length_le (by omega), split] at fifth
        cases fifth
      dsimp only
      rw [behind, if_pos enough, ok_bind, ← fifth]
      rfl
  · rfl

theorem gatherLine_eq {function : FunctionId} {gathered : Gathered} (line : Line)
    (present : Present gathered.context function) :
    gatherLine function gathered line = .ok (Reader.gatherLine function gathered line) := by
  obtain ⟨content, -, found⟩ := there_function present
  rw [gatherLine, Reader.gatherLine, there_first, ok_bind, isLabel_eq, ok_bind]
  by_cases label : (Grammar.peek (stopOf line) line.tokens).kind = .word ∧
      Bytes.beginsWith (utf8 "bb") (Grammar.peek (stopOf line) line.tokens).text ∧
      (Grammar.peek (stopOf line) line.tokens.tail).kind = .mark .colon
  · rw [if_pos label, if_pos (decide_eq_true label), found]
    rfl
  · rw [if_neg label, if_neg (by simpa using label)]
    split
    · rfl
    · split
      · rfl
      · exact gatherContent_eq gathered _ line _

theorem gather_eq {function : FunctionId} {gathered : Gathered} {body : List Line}
    (members : ∀ line ∈ body, line ∈ lines) (sound : gathered.Sound lines)
    (present : Present gathered.context function) :
    gather file function gathered body = .ok (Reader.gather file function gathered body) := by
  induction body generalizing gathered with
  | nil => rfl
  | cons line rest ih =>
    obtain ⟨member, others⟩ := List.forall_mem_cons.mp members
    rw [gather, Reader.gather, gatherLine_eq line present, ok_bind]
    cases read : Reader.gatherLine function gathered line with
    | error complaint => rfl
    | ok later =>
      obtain ⟨built, sound⟩ := (delivers_gatherLine function member sound).of_ok read
      exact ih others sound (present.builds built)

theorem replayValue_eq {function : FunctionId} {value : PendingValue}
    (sound : value.Sound lines context.types) (present : Present context function) :
    replayValue file function context value =
      .ok (Reader.replayValue file function context value) := by
  obtain ⟨head, rest, split, -⟩ := sound.instruction
  obtain ⟨content, found, here⟩ := there_function present
  unfold Reader.replayValue
  rw [replayValue, there_first, ok_bind, here, ok_bind, split]
  simp only [found]
  split
  · rw [sound.column]
    rfl
  · cases readInstruction file context value with
    | error complaint => rfl
    | ok instruction =>
      dsimp only
      cases built : buildInstruction context ⟨function, value.block⟩ value.type instruction with
      | error error => rfl
      | ok added =>
        obtain ⟨later, id⟩ := added
        obtain ⟨-, content, entered, -, -, -, -, held, stored⟩ := exists_built built
        simp only [List.getElem?_cons_zero, there_some, ok_bind, held, stored, Option.bind_some,
          sound.column]
        split <;> rfl

theorem replayValues_eq {function : FunctionId} {values : List PendingValue}
    (underway : Underway context) (sound : ∀ value ∈ values, value.Sound lines context.types)
    (present : Present context function) :
    replayValues file function context values =
      .ok (Reader.replayValues file function context values) := by
  induction values generalizing context with
  | nil => rfl
  | cons value rest ih =>
    obtain ⟨first, others⟩ := List.forall_mem_cons.mp sound
    rw [replayValues, Reader.replayValues, replayValue_eq first present, ok_bind]
    cases replayed : Reader.replayValue file function context value with
    | error complaint => rfl
    | ok later =>
      have built := (delivers_replayValue file function underway first).of_ok replayed
      exact ih (underway.builds built)
        (fun value member => (others value member).extends built.reaches.grows.types)
        (present.builds built)

theorem replayTerminator_eq {function : FunctionId} {pending : PendingTerminator}
    (sound : pending.Sound lines) (present : Present context function) :
    replayTerminator function context pending =
      .ok (Reader.replayTerminator function context pending) := by
  obtain ⟨content, found, here⟩ := there_function present
  rw [replayTerminator, Reader.replayTerminator, here, ok_bind, there_first, sound.column]
  simp only [found, Option.bind_some]
  cases pending.terminator with
  | branch target =>
    dsimp only
    split
    · rfl
    · cases context.buildBranch ⟨function, pending.block⟩ (.own target) <;> rfl
  | result value =>
    dsimp only
    split
    · rfl
    · cases context.buildReturn ⟨function, pending.block⟩ (.own value) <;> rfl

theorem replayTerminators_eq {function : FunctionId} {terminators : List PendingTerminator}
    (sound : ∀ pending ∈ terminators, pending.Sound lines) (present : Present context function) :
    replayTerminators file function context terminators =
      .ok (Reader.replayTerminators file function context terminators) := by
  induction terminators generalizing context with
  | nil => rfl
  | cons pending rest ih =>
    obtain ⟨first, others⟩ := List.forall_mem_cons.mp sound
    rw [replayTerminators, Reader.replayTerminators, replayTerminator_eq first present, ok_bind]
    cases replayed : Reader.replayTerminator function context pending with
    | error complaint => rfl
    | ok later =>
      have built := (delivers_replayTerminator function context first).of_ok replayed
      exact ih others (present.builds built)

theorem readBody_eq (underway : Underway context) {declaration : Declaration}
    (sound : declaration.Sound lines context) :
    readBody file context declaration = .ok (Reader.readBody file context declaration) := by
  have empty : ({ context } : Gathered).Sound lines := .empty underway
  rw [readBody, Reader.readBody, gather_eq sound.body empty sound.function, ok_bind]
  cases gathering : Reader.gather file declaration.function { context } declaration.body with
  | error error => rfl
  | ok gathered =>
    obtain ⟨built, gatheredSound⟩ :=
      (delivers_gather declaration.function sound.body empty).of_ok gathering
    have present := sound.function.builds built
    have underway := gatheredSound.underway
    dsimp only
    rw [replayValues_eq underway gatheredSound.sorted present, ok_bind, ok_bind]
    cases building : Reader.replayValues file declaration.function gathered.context
        (sortByNumber gathered.values.reverse) with
    | error error => rfl
    | ok middle =>
      have built := (delivers_replayValues _ underway gatheredSound.sorted).of_ok building
      exact replayTerminators_eq gatheredSound.reversed (present.builds built)

theorem readBodies_eq (underway : Underway context) {declarations : List Declaration}
    (sound : ∀ declaration ∈ declarations, declaration.Sound lines context) :
    readBodies file context declarations =
      .ok (Reader.readBodies file context declarations).outcome := by
  induction declarations generalizing context with
  | nil => rfl
  | cons declaration rest ih =>
    obtain ⟨here, others⟩ := List.forall_mem_cons.mp sound
    rw [readBodies, Reader.readBodies, readBody_eq underway here, ok_bind]
    cases read : Reader.readBody file context declaration with
    | error error => rfl
    | ok later =>
      have built := (delivers_readBody file underway here).of_ok read
      exact ih (underway.builds built) fun declaration member =>
        (others declaration member).builds built

/-- Reading a text never looks at what is not there. -/
theorem parse_eq (file source : Bytes) (optimize : Bool) :
    parse file source optimize = .ok (Context.parse file source optimize) := by
  have final : Line.split source = [] → (Line.split source).getLast? = some ⟨1, []⟩ :=
    fun empty => absurd empty (Line.split_ne_nil source)
  have declaring := delivers_declare_split file source optimize ⟨1, []⟩
  rw [parse, Context.parse, Reader.read, declare_eq none (List.nil_append _) final, ok_bind]
  cases declared : Reader.declare file ⟨1, []⟩ (.new optimize) none (Line.split source) with
  | error error => rfl
  | ok declared' =>
    rw [declared] at declaring
    exact readBodies_eq declaring.1 declaring.2

end Unguarded

/-! ## Failures point into the text -/

/-- A place in a text: one of its lines, and a column of it or the one behind its end. -/
structure Spot.LiesIn (spot : Spot) (file source : Bytes) : Prop where
  /-- The text has the given name. -/
  file : spot.file = file
  /-- Lines are counted from one up to one more than there are line ends. -/
  line : 1 ≤ spot.line ∧ spot.line ≤ source.count 10 + 1
  /-- The line is that of the text, without a carriage return at its end. -/
  text : ∃ raw, source.IsLine spot.line raw ∧ spot.text = Bytes.trimEnding [13] raw
  /-- Columns are counted from one up to one more than there are bytes. -/
  column : 1 ≤ spot.column ∧ spot.column ≤ spot.text.length + 1

theorem Line.liesIn {source : Bytes} {line : Line} (member : line ∈ split source) (file : Bytes)
    {column : Nat} (inside : 1 ≤ column ∧ column ≤ line.text.length + 1) :
    Spot.LiesIn ⟨file, line.number, column, line.text⟩ file source := by
  obtain ⟨counted, raw, isLine, text⟩ := exists_isLine_of_mem_split member
  exact ⟨rfl, ⟨counted, isLine.le⟩, ⟨raw, isLine, text⟩, inside⟩

namespace Context

/-- Reading a text always comes to an end without looking at what is not there. If it fails, the
failure points into the text: at a token of a line, or at the beginning of the last line if a body
is not closed. -/
theorem parse_pointed (file source : Bytes) (optimize : Bool) :
    Unguarded.parse file source optimize = .ok (Context.parse file source optimize) ∧
      ∀ error, Context.parse file source optimize = .error error →
        error.spot.LiesIn file source ∧
          ((∃ token ∈ Token.lex error.spot.text, token.column = error.spot.column) ∨
            error.spot.line = source.count 10 + 1 ∧ error.spot.column = 1 ∧ ∃ name,
              error.message =
                utf8 "function " ++ name ++ utf8 " is missing its closing '\x7d'") := by
  refine ⟨Unguarded.parse_eq file source optimize, fun error failed => ?_⟩
  cases arises_of_parse failed with
  | line member stems =>
    obtain ⟨token, inside, same⟩ := stems.exists_token
    have bounds := (Line.arranged _).bounds token inside
    rw [same] at bounds
    exact ⟨Line.liesIn member file bounds, .inl ⟨token, inside, same⟩⟩
  | unclosed name final =>
    have member := List.mem_of_getLast? final
    exact ⟨Line.liesIn member file ⟨Nat.le_refl _, Nat.le_add_left _ _⟩,
      .inr ⟨Line.number_of_getLast?_split final, rfl, name, rfl⟩⟩

end Context

/-- A text whose only value line ends within a call. -/
def SourceLanguage.cutOffSource : Bytes :=
  utf8 "define f() -> i32 \x7b\nbb0:\n  %0: i32 = call f(\n\x7d\n"

/-- The failure to read `cutOffSource` points at the call in its third line. -/
theorem Context.parse_pointed_cutOffSource :
    ∃ error, Context.parse [] SourceLanguage.cutOffSource true = .error error ∧
      error.spot.line = 3 ∧ error.spot.column = 13 ∧
      error.spot.LiesIn [] SourceLanguage.cutOffSource ∧
      ∃ token ∈ Token.lex error.spot.text, token.column = 13 := by
  have spotted : (match Context.parse [] SourceLanguage.cutOffSource true with
      | .ok _ => none
      | .error error => some (error.spot.line, error.spot.column)) = some (3, 13) := by
    decide +kernel
  cases failed : Context.parse [] SourceLanguage.cutOffSource true with
  | ok context =>
    rw [failed] at spotted
    cases spotted
  | error error =>
    rw [failed] at spotted
    obtain ⟨line, column⟩ := Prod.mk.inj (Option.some.inj spotted)
    obtain ⟨lies, at_ | ⟨-, first, -⟩⟩ :=
      (parse_pointed [] SourceLanguage.cutOffSource true).2 error failed
    · exact ⟨error, rfl, line, column, lies, column ▸ at_⟩
    · rw [column] at first
      cases first

end Blockwork
