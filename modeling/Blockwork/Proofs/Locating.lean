import Blockwork.Proofs.Declaring
import Blockwork.Proofs.Growth
import Blockwork.Proofs.Paths
import Blockwork.Proofs.Pointing

/-!
# Where reading fails

A text is read in rounds, and lines wait for their turn between them: a body is gathered before it
is built, and values are built in the order of their numbers. Everything that waits remembers the
line it came from, so a failure points at a token of the line that is at fault, in whatever round it
is noticed. Only a body that is never closed is reported without a token, at the end of the text.

A call that cannot be read is reported twice over: where the instruction begins, with a complaint
about a token behind that as the reason.
-/

namespace Blockwork

open SourceLanguage

/-! ## Lines of a text -/

/-- A byte string is the line of a text with the given number: so many line ends stand before it, it
ends at one or with the text, and it holds none. -/
def Bytes.IsLine (source : Bytes) (number : Nat) (raw : Bytes) : Prop :=
  ∃ before after, source = before ++ raw ++ after ∧ 10 ∉ raw ∧
    (before = [] ∨ before.getLast? = some 10) ∧ (after = [] ∨ after.head? = some 10) ∧
    number = before.count 10 + 1

namespace Bytes

theorem IsLine.le {source raw : Bytes} {number : Nat} (line : source.IsLine number raw) :
    number ≤ source.count 10 + 1 := by
  obtain ⟨before, after, rfl, -, -, -, rfl⟩ := line
  simp only [List.count_append]
  omega

theorem isLine_of_getElem? {source raw : Bytes} {index : Nat}
    (found : (splitOnByte 10 source)[index]? = some raw) : source.IsLine (index + 1) raw := by
  induction source generalizing index raw with
  | nil =>
    rw [splitOnByte, List.getElem?_singleton] at found
    split at found
    · rename_i first
      cases found
      exact ⟨[], [], rfl, List.not_mem_nil, .inl rfl, .inl rfl, by simp [first]⟩
    · cases found
  | cons byte rest ih =>
    rw [splitOnByte] at found
    split at found
    · rename_i ends
      subst ends
      cases index with
      | zero =>
        cases found
        exact ⟨[], 10 :: rest, rfl, List.not_mem_nil, .inl rfl, .inr rfl, rfl⟩
      | succ index =>
        obtain ⟨before, after, same, free, begins, stops, count⟩ := ih found
        refine ⟨10 :: before, after, by rw [same]; rfl, free, .inr ?_, stops, by simp [count]⟩
        rcases begins with rfl | begins
        · rfl
        · rw [List.getLast?_cons, begins]
          rfl
    · rename_i other
      obtain ⟨piece, pieces, pieced⟩ :=
        List.exists_cons_of_ne_nil (splitOnByte_ne_nil 10 rest)
      rw [pieced] at found ih
      cases index with
      | zero =>
        cases found
        have first : (piece :: pieces)[0]? = some piece := rfl
        obtain ⟨before, after, same, free, begins, stops, count⟩ := ih first
        have none_ : before = [] := by
          rcases begins with empty | ends
          · exact empty
          · have inside := List.count_pos_iff.mpr (List.mem_of_getLast? ends)
            omega
        refine ⟨[], after, ?_, ?_, .inl rfl, stops, rfl⟩
        · rw [same, none_]
          rfl
        · simp [Ne.symm other, free]
      | succ index =>
        have later : (piece :: pieces)[index + 1]? = some raw := found
        obtain ⟨before, after, same, free, begins, stops, count⟩ := ih later
        refine ⟨byte :: before, after, by rw [same]; rfl, free, .inr ?_, stops, ?_⟩
        · rcases begins with rfl | ends
          · simp at count
          · rw [List.getLast?_cons, ends]
            rfl
        · rw [List.count_cons_of_ne other, count]

theorem length_splitOnByte (separator : UInt8) (text : Bytes) :
    (splitOnByte separator text).length = text.count separator + 1 := by
  induction text with
  | nil => rfl
  | cons byte rest ih =>
    obtain ⟨piece, pieces, pieced⟩ :=
      List.exists_cons_of_ne_nil (splitOnByte_ne_nil separator rest)
    rw [splitOnByte]
    split
    · rename_i same
      simp [same, ih]
    · rename_i other
      rw [pieced] at ih ⊢
      simpa [other] using ih

end Bytes

namespace Line

theorem split_ne_nil (source : Bytes) : split source ≠ [] := by
  simpa [split] using Bytes.splitOnByte_ne_nil 10 source

/-- A line of a text has the number and the bytes of a line of it, up to a carriage return. -/
theorem exists_isLine_of_mem_split {source : Bytes} {line : Line} (member : line ∈ split source) :
    1 ≤ line.number ∧
      ∃ raw, source.IsLine line.number raw ∧ line.text = Bytes.trimEnding [13] raw := by
  obtain ⟨⟨raw, index⟩, inside, rfl⟩ := List.mem_map.mp member
  have found := List.mem_zipIdx_iff_getElem?.mp inside
  exact ⟨Nat.le_add_left _ _, raw, Bytes.isLine_of_getElem? found, rfl⟩

theorem number_of_getLast?_split {source : Bytes} {last : Line}
    (final : (split source).getLast? = some last) : last.number = source.count 10 + 1 := by
  rw [split, List.getLast?_eq_getElem?, List.length_map, List.length_zipIdx,
    Bytes.length_splitOnByte, List.getElem?_map, List.getElem?_zipIdx] at final
  obtain ⟨⟨raw, index⟩, found, rfl⟩ := Option.map_eq_some_iff.mp final
  obtain ⟨_, -, same⟩ := Option.map_eq_some_iff.mp found
  obtain ⟨-, rfl⟩ := Prod.mk.inj same
  simp

end Line

/-! ## Tokens of a line -/

namespace Line

variable (line : Line)

theorem tokens_eq :
    line.tokens = Grammar.peek (Reader.stopOf line) line.tokens :: line.tokens.tail := by
  cases split : line.tokens with
  | nil => exact absurd split line.arranged.ne_nil
  | cons token rest => rfl

theorem head?_tokens :
    line.tokens.head? = some (Grammar.peek (Reader.stopOf line) line.tokens) := by
  rw [line.tokens_eq]
  rfl

theorem peek_mem_tokens : Grammar.peek (Reader.stopOf line) line.tokens ∈ line.tokens :=
  List.mem_of_mem_head? line.head?_tokens

theorem reaches : Grammar.Reaches line.tokens (Reader.stopOf line) line.tokens :=
  ⟨List.suffix_rfl, line.stopOf_mem, rfl⟩

variable {line}

/-- Behind a token that is not the end of the line the end of the line comes. -/
theorem stopOf_mem_of_suffix {token : Token} {rest : List Token}
    (suffix : token :: rest <:+ line.tokens) (more : token.kind ≠ .endOfLine) :
    Reader.stopOf line ∈ rest := by
  have last : (token :: rest).getLast? = some (Reader.stopOf line) := by
    obtain ⟨before, split⟩ := suffix
    have whole : line.tokens.getLast? = some (Reader.stopOf line) := line.arranged.last
    rwa [← split, List.getLast?_append_of_ne_nil _ (List.cons_ne_nil _ _)] at whole
  cases rest with
  | nil =>
    cases last
    exact absurd rfl more
  | cons next rest => exact List.mem_of_getLast? (List.getLast?_cons_cons.symm.trans last)

/-- A line that does not end at once has a second token. -/
theorem second_tokens
    (more : (Grammar.peek (Reader.stopOf line) line.tokens).kind ≠ .endOfLine) :
    line.tokens[1]? = some (Grammar.peek (Reader.stopOf line) line.tokens.tail) := by
  have whole : Grammar.peek (Reader.stopOf line) line.tokens :: line.tokens.tail <:+ line.tokens :=
    ⟨[], line.tokens_eq.symm⟩
  have ends := stopOf_mem_of_suffix whole more
  rw [line.tokens_eq, List.getElem?_cons_succ, List.tail_cons]
  cases split : line.tokens.tail with
  | nil =>
    rw [split] at ends
    exact absurd ends List.not_mem_nil
  | cons second rest => rfl

end Line

/-! ## Complaints about a line -/

/-- How a complaint about a line can come about. -/
inductive Complaint.Stems (file : Bytes) (line : Line) : Complaint → Prop
  /-- It points at the token that it is about. -/
  | direct {complaint : Complaint} (points : complaint.PointsInto line.tokens line.tokens) :
      Stems file line complaint
  /-- It is about a call that cannot be read, and passes on what is complained about there. -/
  | call {head : Token} {rest : List Token} {inner : Complaint} (is : head.isWord "call" = true)
      (suffix : head :: rest <:+ line.tokens) (points : inner.PointsInto line.tokens rest) :
      Stems file line
        ⟨head.column, utf8 "invalid instruction", some (inner.locate file line).toFailure⟩

/-- A complaint about a line has the column of a token of it. -/
theorem Complaint.Stems.exists_token {file : Bytes} {line : Line} {complaint : Complaint}
    (stems : complaint.Stems file line) :
    ∃ token ∈ line.tokens, token.column = complaint.column := by
  cases stems with
  | direct points =>
    obtain ⟨token, member, concerns⟩ := points
    exact ⟨token, member, concerns.column_eq.symm⟩
  | call is suffix points => exact ⟨_, suffix.subset List.mem_cons_self, rfl⟩

/-- How reading lines can fail: with a complaint about one of them, or because the last body is not
closed. -/
inductive ParseError.Arises (file : Bytes) (lines : List Line) : ParseError → Prop
  /-- A line is at fault. -/
  | line {line : Line} {complaint : Complaint} (member : line ∈ lines)
      (stems : complaint.Stems file line) : Arises file lines (complaint.locate file line)
  /-- The lines end within a body. -/
  | unclosed {last : Line} (name : Bytes) (final : lines.getLast? = some last) :
      Arises file lines (Complaint.locate
        ⟨1, utf8 "function " ++ name ++ utf8 " is missing its closing '\x7d'", none⟩ file last)

namespace Reader

variable {file : Bytes} {lines : List Line} {context : Context}

/-! ## Contexts on the way -/

/-- A context that is being built. -/
structure Underway (context : Context) : Prop where
  /-- It is well-formed. -/
  formed : context.WellFormed
  /-- It can be built on. -/
  building : context.phase = .building

theorem Underway.new (optimize : Bool) : Underway (.new optimize) := ⟨.new optimize, rfl⟩

theorem Underway.builds {context' : Context} (underway : Underway context)
    (built : context.Builds context') : Underway context' :=
  ⟨underway.formed.builds built, built.phase_eq.trans underway.building⟩

theorem Underway.sketches (underway : Underway context) : context.Sketches context.outlines :=
  ⟨underway.formed, underway.building, rfl⟩

/-- A function has its number in a context. -/
def Present (context : Context) (function : FunctionId) : Prop :=
  (context.functions.get? function).isSome

theorem Present.builds {context' : Context} {function : FunctionId}
    (present : Present context function) (built : context.Builds context') :
    Present context' function := by
  obtain ⟨content, found⟩ := Option.isSome_iff_exists.mp present
  obtain ⟨content', found', -⟩ := built.reaches.grows.functions function content found
  rw [Present, found']
  rfl

/-! ## Declaring -/

/-- A declared function is in the context, and its body is part of the text. -/
structure Declaration.Sound (lines : List Line) (context : Context) (declaration : Declaration) :
    Prop where
  /-- The function is there. -/
  function : Present context declaration.function
  /-- The body consists of lines of the text. -/
  body : ∀ line ∈ declaration.body, line ∈ lines

theorem Declaration.Sound.builds {context' : Context} {declaration : Declaration}
    (sound : declaration.Sound lines context) (built : context.Builds context') :
    declaration.Sound lines context' :=
  ⟨sound.function.builds built, sound.body⟩

/-- A header that is read is one, and its name is the second token of the line. -/
theorem isHeader_of_readHeader {line : Line} {header : Grammar.Header}
    (define : (Grammar.peek (stopOf line) line.tokens).isWord "define" = true)
    (read : Grammar.readHeader (stopOf line) line.tokens.tail = .ok header) :
    IsHeader line.lexemes ⟨header.name, header.inputs, header.output⟩ := by
  obtain ⟨kind, text⟩ := Grammar.isWord_iff.mp define
  obtain ⟨back, split, behind⟩ := Grammar.tail_of_word (stopOf line) line.yields kind
  rw [split, text]
  exact (Grammar.readHeader_iff (stopOf line) behind).mp ⟨header.column, read⟩

/-- A header that is read from a line is declared, or it is refused at its name. -/
theorem delivers_declareHeader (underway : Underway context) {line : Line} {header : Grammar.Header}
    (more : (Grammar.peek (stopOf line) line.tokens).kind ≠ .endOfLine)
    (define : (Grammar.peek (stopOf line) line.tokens).isWord "define" = true)
    (read : Grammar.readHeader (stopOf line) line.tokens.tail = .ok header) :
    Delivers (declareHeader context header)
      (fun declared => context.Builds declared.1 ∧ Present declared.1 declared.2)
      (Complaint.PointsInto line.tokens line.tokens) := by
  have inside : line.tokens.tail <:+ line.tokens := List.tail_suffix _
  have heads := isHeader_of_readHeader define read
  obtain ⟨inputs, output⟩ := valid_of_isHeader heads
  cases declared : declareHeader context header with
  | ok added =>
    refine ⟨builds_of_declareHeader underway.building inputs output declared, ?_⟩
    obtain ⟨-, -, -, -, rfl⟩ :=
      Context.addFunction_eq_ok_iff.mp (declareHeader_eq_ok_iff.mp declared)
    rw [Present, Arena.get?_isSome_iff, Arena.size_push]
    exact Nat.lt_succ_self _
  | error complaint =>
    have column := (Grammar.delivers_readHeader line.reaches inside).of_ok read
    obtain ⟨-, inputsTyped, outputTyped⟩ := internSignature_spec inputs output underway.sketches
    unfold declareHeader at declared
    dsimp only at declared
    split at declared
    · cases declared
    · rename_i refuses
      cases declared
      refine ⟨_, line.reaches.peek_mem inside, ?_⟩
      rw [column]
      exact .refused (.declare (Line.second_tokens more) heads inputsTyped outputTyped refuses)

/-- What the round over the headers leaves: functions that are there, with bodies of lines of the
text. -/
theorem delivers_declare {last : Line} {rest before : List Line} {current : Option Declaration}
    (split : before ++ rest = lines) (final : rest = [] → lines.getLast? = some last)
    (underway : Underway context)
    (sound : ∀ declaration ∈ current, declaration.Sound lines context) :
    Delivers (declare file last context current rest)
      (fun declared => context.Builds declared.1 ∧
        ∀ declaration ∈ declared.2, declaration.Sound lines declared.1)
      (ParseError.Arises file lines) := by
  induction rest generalizing last before context current with
  | nil =>
    cases current with
    | none => exact ⟨.refl, List.forall_mem_nil _⟩
    | some declaration => exact .unclosed declaration.name (final rfl)
  | cons line rest ih =>
    have member : line ∈ lines := by
      rw [← split]
      simp
    have split' : (before ++ [line]) ++ rest = lines := by simpa using split
    have final' : rest = [] → lines.getLast? = some line := by
      rintro rfl
      rw [← split']
      simp
    have reaches := line.reaches
    have inside : line.tokens.tail <:+ line.tokens := List.tail_suffix _
    unfold declare
    refine .ite (fun _ => ih split' final' underway sound) fun more => ?_
    cases current with
    | none =>
      refine .ite (fun define => ?_) fun other => ?_
      · have reads := Grammar.delivers_readHeader reaches inside
        cases read : Grammar.readHeader (stopOf line) line.tokens.tail with
        | error complaint => exact .line member (.direct (reads.of_error read))
        | ok header =>
          have declares := delivers_declareHeader underway more define read
          dsimp only
          cases declared : declareHeader context header with
          | error complaint => exact .line member (.direct (declares.of_error declared))
          | ok added =>
            obtain ⟨built, present⟩ := declares.of_ok declared
            dsimp only
            refine (ih split' final' (underway.builds built) ?_).weaken
              fun _ rest => ⟨built.trans rest.1, rest.2⟩
            rintro _ ⟨⟩
            exact ⟨present, List.forall_mem_nil _⟩
      · have other : (Grammar.peek (stopOf line) line.tokens).isWord "define" = false := by
          simpa using other
        exact .line member (.direct ⟨_, line.peek_mem_tokens,
          .unknown (.header line.head?_tokens other)⟩)
    | some declaration =>
      have current := sound declaration rfl
      refine .ite (fun closing => ?_) fun _ => ?_
      · refine .ite (fun _ => ?_) fun further => ?_
        · have closed : ∀ declaration ∈ (none : Option Declaration),
              declaration.Sound lines context := by simp
          refine (ih split' final' underway closed).bind ?_
          rintro ⟨context', declarations⟩ ⟨built, others⟩
          refine ⟨built, List.forall_mem_cons.mpr ⟨⟨current.function.builds built, ?_⟩, others⟩⟩
          exact fun line inside => current.body line (List.mem_reverse.mp inside)
        · exact .line member (.direct ⟨_, reaches.peek_mem inside,
            .unsuited (.closing line.head?_tokens closing (Line.second_tokens more) further)⟩)
      · refine ih split' final' underway ?_
        rintro _ ⟨⟩
        exact ⟨current.function, List.forall_mem_cons.mpr ⟨member, current.body⟩⟩

/-! ## Gathering -/

/-- A value line that waits is one of the text, and knows where its parts stand: its number begins
the line, and its instruction follows the first five tokens. -/
structure PendingValue.Sound (lines : List Line) (types : Interner) (value : PendingValue) :
    Prop where
  /-- The line is part of the text. -/
  line : value.line ∈ lines
  /-- The number begins the line. -/
  column : value.column = (Grammar.peek (stopOf value.line) value.line.tokens).column
  /-- The instruction ends the line. -/
  behind : value.instruction = value.line.tokens.drop 5
  /-- There is an instruction. -/
  instruction : ∃ head rest, value.instruction = head :: rest ∧ head.kind ≠ .endOfLine
  /-- What waits is what the line says. -/
  written : ∃ entry, IsValueLine value.line.lexemes entry ∧ value.Stands types (value.block, entry)

theorem PendingValue.Sound.extends {types types' : Interner} {value : PendingValue}
    (sound : value.Sound lines types) (extended : types.Extends types') :
    value.Sound lines types' := by
  obtain ⟨entry, written, stands⟩ := sound.written
  exact { sound with written := ⟨entry, written, stands.extends extended⟩ }

/-- A terminator line that waits is one of the text, and knows where its parts stand: its word
begins the line, and what it refers to comes second. -/
structure PendingTerminator.Sound (lines : List Line) (pending : PendingTerminator) : Prop where
  /-- The line is part of the text. -/
  line : pending.line ∈ lines
  /-- The word begins the line. -/
  column : pending.column = (Grammar.peek (stopOf pending.line) pending.line.tokens).column
  /-- What it refers to comes second. -/
  reference : ∃ second, pending.line.tokens[1]? = some second ∧
    pending.referenceColumn = second.column
  /-- What waits is what the line says. -/
  written : IsEnding pending.line.lexemes pending.terminator

/-- Everything that has been gathered is part of the text. -/
structure Gathered.Sound (lines : List Line) (gathered : Gathered) : Prop where
  /-- The context is being built. -/
  underway : Underway gathered.context
  /-- The value lines are. -/
  values : ∀ value ∈ gathered.values, value.Sound lines gathered.context.types
  /-- The terminator lines are. -/
  terminators : ∀ pending ∈ gathered.terminators, pending.Sound lines

theorem Gathered.Sound.empty (underway : Underway context) :
    ({ context } : Gathered).Sound lines :=
  ⟨underway, nofun, nofun⟩

section

variable {gathered : Gathered} {line : Line}

/-- A label begins with a word that looks like one, and a colon follows. -/
theorem kind_of_isLabel {number : BlockId} (label : IsLabel line.lexemes number) :
    (Grammar.peek (stopOf line) line.tokens).kind = .word ∧
      Bytes.beginsWith (utf8 "bb") (Grammar.peek (stopOf line) line.tokens).text ∧
      (Grammar.peek (stopOf line) line.tokens.tail).kind = .mark .colon := by
  obtain ⟨digits, -, split⟩ := label
  have yields := line.yields
  rw [split] at yields
  obtain ⟨word, text, behind⟩ := Grammar.peek_word (stopOf line) yields
  refine ⟨word, ?_, (Grammar.peek_mark (stopOf line) behind).1⟩
  rw [text]
  rw [Bytes.beginsWith, Bytes.dropBeginning?_append]
  rfl

theorem delivers_gatherLabel (function : FunctionId) (sound : gathered.Sound lines) :
    Delivers (gatherLabel function gathered line (Grammar.peek (stopOf line) line.tokens))
      (fun later => gathered.context.Builds later.context ∧ later.Sound lines)
      (Complaint.PointsInto line.tokens line.tokens) := by
  have first := line.head?_tokens
  have here := line.peek_mem_tokens
  have reads : Delivers (Grammar.readLabel (stopOf line) line.tokens)
      (fun number => IsLabel line.lexemes number) (Complaint.PointsInto line.tokens line.tokens) :=
    (Grammar.delivers_readLabel line.reaches List.suffix_rfl).noting.weaken
      fun number noted => ((Grammar.readLabel_iff _ line.yields).mp noted.1).1
  refine reads.bind fun number label => ?_
  refine .ite (fun other => ⟨_, here, .unsuited (.label first label other)⟩) fun _ => ?_
  cases added : gathered.context.addBlock function with
  | ok block =>
    have built : gathered.context.Builds block.1 := .single (Context.build_of_addBlock added)
    refine ⟨built, sound.underway.builds built, fun value member => ?_, sound.terminators⟩
    exact (sound.values value member).extends built.reaches.grows.types
  | error error => exact ⟨_, here, .refused (.block first label added)⟩

theorem delivers_gatherContent (block : BlockId) (member : line ∈ lines)
    (sound : gathered.Sound lines) :
    Delivers (gatherContent gathered block line (Grammar.peek (stopOf line) line.tokens))
      (fun later => gathered.context.Builds later.context ∧ later.Sound lines)
      (Complaint.PointsInto line.tokens line.tokens) := by
  have whole : line.tokens <:+ line.tokens := List.suffix_rfl
  refine .ite (fun _ => ?_) fun value => .ite (fun begins => ?_) fun other => ?_
  · refine (Grammar.delivers_readValueHead line.reaches whole).noting.bind ?_
    rintro head ⟨read, behind, instruction⟩
    obtain ⟨formula, written, small, yields⟩ := Grammar.yields_of_readValueHead line.yields read
    have valid := Grammar.valid_of_readValueHead read
    have built := Context.Build.intern head.type sound.underway.building valid
    have known := sound.underway.formed.types.lookup?_insert valid
    refine ⟨.single built, sound.underway.builds (.single built),
      List.forall_mem_cons.mpr ⟨?_, fun value member => ?_⟩, sound.terminators⟩
    · exact ⟨member, rfl, behind, instruction, _, written, rfl, rfl, small, known, yields⟩
    · exact (sound.values value member).extends built.grows.types
  · have more : (Grammar.peek (stopOf line) line.tokens).kind ≠ .endOfLine := by
      intro ended
      simp [Token.isWord, ended] at begins
    refine (Grammar.delivers_readTerminator line.reaches whole).noting.bind ?_
    rintro ⟨terminator, column⟩ ⟨read, reference⟩
    have ending := Grammar.isEnding_of_readTerminator line.yields begins read
    refine ⟨.refl, sound.underway, sound.values,
      List.forall_mem_cons.mpr ⟨?_, sound.terminators⟩⟩
    exact ⟨member, rfl, ⟨_, Line.second_tokens more, reference⟩, ending⟩
  · rw [Bool.or_eq_true, not_or, Bool.not_eq_true, Bool.not_eq_true] at other
    exact ⟨_, line.peek_mem_tokens,
      .unknown (.content line.head?_tokens value other.1 other.2)⟩

theorem delivers_gatherLine (function : FunctionId) (member : line ∈ lines)
    (sound : gathered.Sound lines) :
    Delivers (gatherLine function gathered line)
      (fun later => gathered.context.Builds later.context ∧ later.Sound lines)
      (Complaint.PointsInto line.tokens line.tokens) := by
  have first := line.head?_tokens
  have here := line.peek_mem_tokens
  refine .ite (fun _ => delivers_gatherLabel function sound) fun begins => ?_
  have other (number : BlockId) : ¬ IsLabel line.lexemes number := mt kind_of_isLabel begins
  refine .ite (fun _ => ⟨_, here, .unsuited (.outside first other)⟩) fun _ => ?_
  refine .ite (fun _ => ⟨_, here, .unsuited (.ended _ first other)⟩) fun _ => ?_
  exact delivers_gatherContent _ member sound

end

theorem delivers_gather {gathered : Gathered} (function : FunctionId) {body : List Line}
    (members : ∀ line ∈ body, line ∈ lines) (sound : gathered.Sound lines) :
    Delivers (gather file function gathered body)
      (fun later => gathered.context.Builds later.context ∧ later.Sound lines)
      (ParseError.Arises file lines) := by
  induction body generalizing gathered with
  | nil => exact ⟨.refl, sound⟩
  | cons line rest ih =>
    obtain ⟨member, others⟩ := List.forall_mem_cons.mp members
    have first := delivers_gatherLine function member sound
    rw [gather]
    cases read : gatherLine function gathered line with
    | error complaint => exact .line member (.direct (first.of_error read))
    | ok later =>
      obtain ⟨built, sound⟩ := first.of_ok read
      exact (ih others sound).weaken fun _ rest => ⟨built.trans rest.1, rest.2⟩

/-! ## Building -/

/-- An instruction is complained about at a token of its line, or within a call. -/
theorem delivers_readInstruction (file : Bytes) {value : PendingValue} (context : Context)
    (sound : value.Sound lines context.types) :
    Delivers (readInstruction file context value) (fun _ => True)
      (Complaint.Stems file value.line) := by
  obtain ⟨head, rest, split, more⟩ := sound.instruction
  obtain ⟨entry, written, stands⟩ := sound.written
  have suffix : head :: rest <:+ value.line.tokens := by
    rw [← split, sound.behind]
    exact List.drop_suffix _ _
  have sixth : value.line.tokens[5]? = some head := by
    rw [← List.head?_drop, ← sound.behind, split]
    rfl
  unfold readInstruction
  dsimp only
  rw [split, stands.number]
  refine .ite (fun call => ?_) fun _ => ?_
  · have reaches : Grammar.Reaches value.line.tokens (stopOf value.line) rest :=
      ⟨(List.suffix_cons _ _).trans suffix, Line.stopOf_mem_of_suffix suffix more, rfl⟩
    have behind : rest = value.line.tokens.drop 6 := by
      rw [← List.tail_drop, ← sound.behind, split]
      rfl
    have reads := Grammar.delivers_readCall reaches written context sixth call behind List.suffix_rfl
    cases read : Grammar.readCall (stopOf value.line) context.functionNamed? entry.number rest with
    | ok instruction =>
      simp only [List.tail_cons, read]
      trivial
    | error complaint =>
      simp only [List.tail_cons, read]
      exact .call call suffix (reads.of_error read)
  · have first : value.line.tokens[5]? = some (Grammar.peek (stopOf value.line) (head :: rest)) :=
      sixth
    exact (Grammar.delivers_readSimple value.line.reaches written first suffix).imp
      (fun _ read => read) fun _ points => .direct points

/-- What construction has built is there, under the next number and with a type that it suits. -/
theorem exists_built {function : FunctionId} {block : BlockId} {type : TypeId}
    {instruction : Instruction} {later : Context} {id : ValueId}
    (built : buildInstruction context ⟨function, block⟩ type instruction = .ok (later, id)) :
    ∃ holder content value, context.functions.get? function = some holder ∧
      id = holder.values.size ∧ instruction.Fits context holder value.type ∧
      later.types = context.types ∧ later.functions.get? function = some content ∧
      content.values.get? id = some value := by
  obtain ⟨holder, _, type', opened, fits, same⟩ := exists_of_buildInstruction built
  obtain ⟨rfl, rfl⟩ := Prod.mk.inj same
  have found : context.functions.get? function = some holder := opened.function_eq
  refine ⟨holder, holder.pushValue block type' instruction,
    ⟨type', .instruction block instruction⟩, found, rfl, fits, rfl, ?_, ?_⟩
  · simp [Context.get?_replace, found]
  · simp [Function.get?_pushValue]

/-- A value line is complained about at a token of it, or within a call. -/
theorem delivers_replayValue (file : Bytes) {value : PendingValue} (function : FunctionId)
    (underway : Underway context) (sound : value.Sound lines context.types) :
    Delivers (replayValue file function context value) context.Builds
      (Complaint.Stems file value.line) := by
  obtain ⟨head, rest, split, -⟩ := sound.instruction
  obtain ⟨entry, written, stands⟩ := sound.written
  have first := value.line.head?_tokens
  have remark {message : Bytes} (unsuited : Token.Unsuited value.line.tokens
      (Grammar.peek (stopOf value.line) value.line.tokens) message) :
      Complaint.Stems file value.line ⟨value.column, message, none⟩ := by
    rw [sound.column]
    exact .direct ⟨_, value.line.peek_mem_tokens, .unsuited unsuited⟩
  unfold replayValue
  refine .ite (fun other => ?_) fun same => ?_
  · rw [stands.number] at other ⊢
    exact remark (.number first written other)
  · cases read : readInstruction file context value with
    | error complaint => exact (delivers_readInstruction file context sound).of_error read
    | ok instruction =>
      dsimp only
      cases built : buildInstruction context ⟨function, value.block⟩ value.type instruction with
      | error error =>
        have sixth : value.line.tokens[5]? = some head := by
          rw [← List.head?_drop, ← sound.behind, split]
          rfl
        have tells := (readInstruction_iff file context (Nat.le_of_lt stands.small)
          stands.instruction).mp read
        rw [stands.number] at tells
        rw [split]
        exact .direct ⟨head, List.mem_of_getElem? sixth,
          .refused (.instruction sixth written stands.type tells built)⟩
      | ok added =>
        obtain ⟨later, id⟩ := added
        obtain ⟨holder, content, entered, found, number, fits, types, held, stored⟩ :=
          exists_built built
        simp only [types, held, stored, Option.bind_some]
        refine .ite (fun _ => .single (build_of_buildInstruction built)) fun differs => ?_
        obtain ⟨type, known⟩ :=
          Option.isSome_iff_exists.mp (underway.formed.known_of_fits found fits)
        have other : type ≠ entry.type := by
          rintro rfl
          exact differs (underway.formed.types.lookup?_injective known stands.type)
        have next : id = entry.number := by
          have same := not_not.mp same
          rw [found] at same
          exact number.trans (same.symm.trans stands.number)
        rw [next, Interner.name_of_lookup? stands.type, Interner.name_of_lookup? known]
        exact remark (.type first written other)

theorem delivers_replayTerminator {pending : PendingTerminator} (function : FunctionId)
    (context : Context) (sound : pending.Sound lines) :
    Delivers (replayTerminator function context pending) context.Builds
      (Complaint.PointsInto pending.line.tokens pending.line.tokens) := by
  obtain ⟨second, reference, column⟩ := sound.reference
  have written := sound.written
  have first := pending.line.head?_tokens
  have undefined_ {message : Bytes}
      (unsuited : Token.Unsuited pending.line.tokens second message) :
      Complaint.PointsInto pending.line.tokens pending.line.tokens
        ⟨pending.referenceColumn, message, none⟩ := by
    rw [column]
    exact ⟨second, List.mem_of_getElem? reference, .unsuited unsuited⟩
  have refused {message : Bytes} {error : BuildError}
      (refused : Token.Refused pending.line.tokens
        (Grammar.peek (stopOf pending.line) pending.line.tokens) message error) :
      Complaint.PointsInto pending.line.tokens pending.line.tokens
        ⟨pending.column, message, some (.build error)⟩ := by
    rw [sound.column]
    exact ⟨_, pending.line.peek_mem_tokens, .refused refused⟩
  unfold replayTerminator
  cases kind : pending.terminator with
  | branch target =>
    rw [kind] at written
    refine .ite (fun _ => undefined_ (.branch reference written)) fun _ => ?_
    cases built : context.buildBranch ⟨function, pending.block⟩ (.own target) with
    | error error => exact refused (.branch first written built)
    | ok context' => exact .single (Context.build_of_buildBranch built)
  | result value =>
    rw [kind] at written
    refine .ite (fun _ => undefined_ (.result reference written)) fun _ => ?_
    cases built : context.buildReturn ⟨function, pending.block⟩ (.own value) with
    | error error => exact refused (.result first written built)
    | ok context' => exact .single (Context.build_of_buildReturn built)

theorem delivers_replayValues {values : List PendingValue} (function : FunctionId)
    (underway : Underway context) (sound : ∀ value ∈ values, value.Sound lines context.types) :
    Delivers (replayValues file function context values) context.Builds
      (ParseError.Arises file lines) := by
  induction values generalizing context with
  | nil => exact .refl
  | cons value rest ih =>
    obtain ⟨here, others⟩ := List.forall_mem_cons.mp sound
    have first := delivers_replayValue file function underway here
    rw [replayValues]
    cases replayed : replayValue file function context value with
    | error complaint => exact .line here.line (first.of_error replayed)
    | ok later =>
      have built := first.of_ok replayed
      have extended := built.reaches.grows.types
      refine (ih (underway.builds built) fun value member => ?_).weaken fun _ => built.trans
      exact (others value member).extends extended

theorem delivers_replayTerminators {terminators : List PendingTerminator} (function : FunctionId)
    (context : Context) (sound : ∀ pending ∈ terminators, pending.Sound lines) :
    Delivers (replayTerminators file function context terminators) context.Builds
      (ParseError.Arises file lines) := by
  induction terminators generalizing context with
  | nil => exact .refl
  | cons pending rest ih =>
    obtain ⟨here, others⟩ := List.forall_mem_cons.mp sound
    have first := delivers_replayTerminator function context here
    rw [replayTerminators]
    cases replayed : replayTerminator function context pending with
    | error complaint => exact .line here.line (.direct (first.of_error replayed))
    | ok later => exact (ih later others).weaken fun _ => (first.of_ok replayed).trans

/-! ## Bodies and texts -/

theorem Gathered.Sound.sorted {gathered : Gathered} (sound : gathered.Sound lines) :
    ∀ value ∈ sortByNumber gathered.values.reverse,
      value.Sound lines gathered.context.types := fun value member =>
  sound.values value (List.mem_reverse.mp ((perm_sortByNumber _).subset member))

theorem Gathered.Sound.reversed {gathered : Gathered} (sound : gathered.Sound lines) :
    ∀ pending ∈ gathered.terminators.reverse, pending.Sound lines := fun pending member =>
  sound.terminators pending (List.mem_reverse.mp member)

theorem delivers_readBody (file : Bytes) (underway : Underway context) {declaration : Declaration}
    (sound : declaration.Sound lines context) :
    Delivers (readBody file context declaration) context.Builds
      (ParseError.Arises file lines) := by
  refine (delivers_gather declaration.function sound.body (.empty underway)).bind ?_
  rintro gathered ⟨gathering, gatheredSound⟩
  refine (delivers_replayValues _ gatheredSound.underway gatheredSound.sorted).bind
    fun middle building => ?_
  refine (delivers_replayTerminators _ _ gatheredSound.reversed).weaken ?_
  exact fun _ => (gathering.trans building).trans

theorem arises_of_readBodies {declarations : List Declaration} {error : ParseError}
    (underway : Underway context)
    (sound : ∀ declaration ∈ declarations, declaration.Sound lines context)
    (failed : (readBodies file context declarations).outcome = .error error) :
    error.Arises file lines := by
  induction declarations generalizing context with
  | nil => cases failed
  | cons declaration rest ih =>
    obtain ⟨here, others⟩ := List.forall_mem_cons.mp sound
    have first := delivers_readBody file underway here
    rw [readBodies] at failed
    split at failed
    · rename_i read
      cases failed
      exact first.of_error read
    · rename_i later read
      have built := first.of_ok read
      exact ih (underway.builds built)
        (fun declaration member => (others declaration member).builds built) failed

theorem delivers_declare_split (file source : Bytes) (optimize : Bool) (last : Line) :
    Delivers (declare file last (.new optimize) none (Line.split source))
      (fun declared => Underway declared.1 ∧ ∀ declaration ∈ declared.2,
        declaration.Sound (Line.split source) declared.1)
      (ParseError.Arises file (Line.split source)) := by
  have closed : ∀ declaration ∈ (none : Option Declaration),
      declaration.Sound (Line.split source) (.new optimize) := by simp
  have begun := Underway.new optimize
  exact (delivers_declare (List.nil_append _) (fun empty => absurd empty (Line.split_ne_nil source))
    begun closed).weaken fun _ sound => ⟨begun.builds sound.1, sound.2⟩

end Reader

/-- Every failure to read a text arises from a line of it, or from its end. -/
theorem Context.arises_of_parse {file source : Bytes} {optimize : Bool} {error : ParseError}
    (failed : Context.parse file source optimize = .error error) :
    error.Arises file (Line.split source) := by
  unfold Context.parse Reader.read at failed
  have declaring := Reader.delivers_declare_split file source optimize ⟨1, []⟩
  split at failed
  · rename_i declared
    cases failed
    exact declaring.of_error declared
  · rename_i declared
    obtain ⟨underway, sound⟩ := declaring.of_ok declared
    exact Reader.arises_of_readBodies underway sound failed

end Blockwork
