import Blockwork.Proofs.Declaring

/-!
# The texts that are read

Reading succeeds exactly on the source texts of the language. The round over the headers divides the
lines into definitions and the round over the bodies reads each of them; together they find the
program that the lines make up, or there is none. A text that is short enough to be addressed cannot
say so much that a number of it would be too large.
-/

namespace Blockwork

open SourceLanguage

/-! ## How much a text can say -/

theorem Bytes.sum_length_splitOnByte_le (separator : UInt8) (text : Bytes) :
    ((splitOnByte separator text).map List.length).sum ≤ text.length := by
  induction text with
  | nil => simp [splitOnByte]
  | cons byte rest ih =>
    rw [splitOnByte, List.length_cons]
    split
    · rw [List.map_cons, List.sum_cons, List.length_nil]
      omega
    · split
      · simp
      · rename_i piece pieces pieced
        rw [pieced, List.map_cons, List.sum_cons] at ih
        rw [List.map_cons, List.sum_cons, List.length_cons]
        omega

theorem Bytes.length_trimEnding_le (ending text : Bytes) :
    (trimEnding ending text).length ≤ text.length := by
  rw [trimEnding]
  cases trimmed : dropEnding? ending text with
  | none => exact Nat.le_refl _
  | some rest =>
    obtain ⟨back, dropped, rfl⟩ := Option.map_eq_some_iff.mp trimmed
    have whole := congrArg List.length (Bytes.dropBeginning?_eq_some_iff.mp dropped)
    rw [List.length_reverse, List.length_append] at whole
    rw [Option.getD_some, List.length_reverse]
    omega

namespace SourceLanguage

/-- The number of words and marks on lines. -/
def extent (lines : List (List Lexeme)) : Nat := (lines.map List.length).sum

@[simp]
theorem extent_cons (line : List Lexeme) (lines : List (List Lexeme)) :
    extent (line :: lines) = line.length + extent lines := by
  simp [extent]

@[simp]
theorem extent_append (lines rest : List (List Lexeme)) :
    extent (lines ++ rest) = extent lines + extent rest := by
  simp [extent]

/-- Every word and every mark takes a byte. -/
theorem extent_sentences_le (source : Bytes) : extent (sentences source) ≤ source.length := by
  have written (lines : List Line) : extent ((lines.map Line.lexemes).filter (· ≠ [])) ≤
      (lines.map fun line => line.text.length).sum := by
    induction lines with
    | nil => exact Nat.le_refl _
    | cons line lines ih =>
      rw [List.map_cons, List.map_cons, List.sum_cons]
      by_cases blank : line.lexemes = []
      · rw [List.filter_cons_of_neg (by simpa using blank)]
        omega
      · have words := line.length_lexemes_le
        rw [List.filter_cons_of_pos (by simpa using blank), extent_cons]
        omega
  have trimmed (pieces : List Bytes) (start : Nat) :
      ((pieces.zipIdx start).map fun piece => (Bytes.trimEnding [13] piece.1).length).sum ≤
        (pieces.map List.length).sum := by
    induction pieces generalizing start with
    | nil => exact Nat.le_refl _
    | cons piece pieces ih =>
      have rest := ih (start + 1)
      have first := Bytes.length_trimEnding_le [13] piece
      rw [List.zipIdx_cons, List.map_cons, List.map_cons, List.sum_cons, List.sum_cons]
      exact Nat.add_le_add first rest
  calc extent (sentences source)
    _ ≤ ((Line.split source).map fun line => line.text.length).sum := written _
    _ = (((Bytes.splitOnByte 10 source).zipIdx.map fun piece =>
          (Bytes.trimEnding [13] piece.1).length)).sum := by
        rw [Line.split, List.map_map]
        rfl
    _ ≤ ((Bytes.splitOnByte 10 source).map List.length).sum := trimmed _ 0
    _ ≤ source.length := Bytes.sum_length_splitOnByte_le 10 source

theorem length_le_separated (words : List Bytes) :
    words.length ≤ (separated (words.map typeItem)).length := by
  induction words with
  | nil => exact Nat.le_refl _
  | cons word words ih =>
    cases words with
    | nil => exact Nat.le_refl _
    | cons next rest =>
      rw [List.map_cons, Grammar.separated_cons (by simp), List.length_append]
      simp only [typeItem, List.length_cons, List.length_nil] at ih ⊢
      omega

theorem IsHeader.length_inputs_le {line : List Lexeme} {heading : Heading}
    (head : IsHeader line heading) : heading.inputs.length ≤ line.length := by
  obtain ⟨words, word, types, -, rfl⟩ := head
  have each := length_le_separated words
  rw [types.length_eq] at each
  simp only [List.length_cons, List.length_append]
  omega

/-- Every block and every value of a body has a line. -/
theorem IsBody.length_le {lines : List (List Lexeme)} {passages : List Passage}
    (body : IsBody lines passages) :
    passages.length + (passages.flatMap Passage.entries).length ≤ extent lines := by
  induction body with
  | empty => exact Nat.le_refl _
  | line body next ih =>
    cases next with
    | label label =>
      obtain ⟨digits, -, rfl⟩ := label
      simp [extent] at ih ⊢
      omega
    | entry value =>
      obtain ⟨digits, word, -, -, -, rfl⟩ := value
      simp [extent, reference] at ih ⊢
      omega
    | ending ending =>
      simp [extent] at ih ⊢
      omega

/-- A program is no larger than its text. -/
theorem IsProgram.size_le {lines : List (List Lexeme)} {program : List Definition}
    (whole : IsProgram lines program) {definition : Definition} (member : definition ∈ program) :
    definition.inputs.length + (definition.passages.length + definition.entries.length) ≤
      extent lines := by
  induction whole with
  | empty => cases member
  | define head content others ih =>
    rw [extent_cons, extent_append, extent_cons]
    rcases List.mem_cons.mp member with rfl | later
    · have inputs := head.length_inputs_le
      have body := content.length_le
      rw [Definition.entries]
      omega
    · have rest := ih later
      omega

/-- Whatever a definition that is small enough refers to has a number that can be one. -/
theorem Definition.Valid.addressable {title : Bytes → Bytes} {headings : List Heading}
    {definition : Definition} (valid : definition.Valid title headings)
    (small : definition.inputs.length + (definition.passages.length + definition.entries.length) ≤
      0x80000000) : Addressable definition.passages := by
  constructor
  case blocks => omega
  case values =>
    intro item member
    obtain ⟨-, below⟩ := valid.numbered.bounds (mem_entries_of_perm (.refl _) member)
    exact Nat.lt_of_lt_of_le below (by omega)
  case ends =>
    intro item member
    obtain ⟨passage, found, ending⟩ := mem_endings_iff.mp member
    have refers := valid.ends passage (List.mem_of_getElem? found) item.2 ending
    revert refers
    cases item.2 with
    | branch target =>
      intro inside
      have inside : target < definition.passages.length := inside
      exact Nat.lt_of_lt_of_le inside (by omega)
    | result value =>
      intro typed
      have inside := valid.numbered.lt_of_hasType typed
      exact Nat.lt_of_lt_of_le inside (by omega)

end SourceLanguage

namespace Reader

/-! ## Definitions and their parts -/

/-- A definition whose body stands on the lines of a part. -/
structure Fills (part : Heading × List Line) (definition : Definition) : Prop where
  /-- The heading. -/
  heading : definition.toHeading = part.1
  /-- The blocks. -/
  body : IsBody (part.2.map Line.lexemes) definition.passages

theorem Fills.map_toHeading {parts : List (Heading × List Line)} {program : List Definition}
    (fills : List.Forall₂ Fills parts program) :
    program.map Definition.toHeading = parts.map Prod.fst := by
  induction fills with
  | nil => rfl
  | cons first _ ih => rw [List.map_cons, List.map_cons, first.heading, ih]

theorem Fills.map_title {parts : List (Heading × List Line)} {program : List Definition}
    (fills : List.Forall₂ Fills parts program) :
    (program.map fun definition => title definition.name) =
      (outlinesOf parts).map Outline.name := by
  have same := congrArg (List.map fun heading => title heading.name) (map_toHeading fills)
  rw [List.map_map, List.map_map] at same
  rw [outlinesOf, List.map_map]
  exact same

theorem Parts.isProgram {lines : List Line} {parts : List (Heading × List Line)}
    (divided : Parts lines parts) {program : List Definition}
    (fills : List.Forall₂ Fills parts program) :
    IsProgram (lines.map Line.lexemes) program := by
  induction divided generalizing program with
  | empty =>
    cases fills
    exact .empty
  | define head inner closed others ih =>
    cases fills with
    | cons first rest =>
      rw [List.map_cons, List.map_append, List.map_cons, closed]
      exact .define (first.heading ▸ head) first.body (ih rest)

/-- No line of a body looks like its end. -/
theorem head?_ne_of_isBody {lines : List (List Lexeme)} {passages : List Passage}
    (body : IsBody lines passages) {line : List Lexeme} (member : line ∈ lines) :
    line.head? ≠ some (.mark .rightBrace) := by
  induction body with
  | empty => cases member
  | line body next ih =>
    rcases List.mem_append.mp member with early | last
    · exact ih early
    · obtain rfl := List.mem_singleton.mp last
      cases next with
      | label label =>
        obtain ⟨digits, -, rfl⟩ := label
        simp
      | entry value =>
        obtain ⟨digits, word, -, -, -, rfl⟩ := value
        simp [reference]
      | @ending _ _ _ terminator ending =>
        cases terminator with
        | branch target =>
          obtain ⟨digits, -, rfl⟩ := ending
          simp
        | result value =>
          obtain ⟨digits, -, rfl⟩ := ending
          simp

theorem exists_parts {sentences : List (List Lexeme)} {program : List Definition}
    (whole : IsProgram sentences program) {lines : List Line}
    (written : lines.map Line.lexemes = sentences) :
    ∃ parts, Parts lines parts ∧ List.Forall₂ Fills parts program := by
  induction whole generalizing lines with
  | empty =>
    obtain rfl := List.map_eq_nil_iff.mp written
    exact ⟨[], .empty, .nil⟩
  | @define header body rest definition definitions head content others ih =>
    obtain ⟨first, behind, rfl, rfl, behindWritten⟩ := List.map_eq_cons_iff.mp written
    obtain ⟨inside, back, rfl, rfl, backWritten⟩ := List.map_eq_append_iff.mp behindWritten
    obtain ⟨closing, remaining, rfl, closed, others⟩ := List.map_eq_cons_iff.mp backWritten
    obtain ⟨parts, divided, fills⟩ := ih others
    exact ⟨(definition.toHeading, inside) :: parts,
      .define head (fun line member => head?_ne_of_isBody content (List.mem_map_of_mem member))
        closed divided,
      .cons ⟨rfl, content⟩ fills⟩

/-! ## All bodies -/

variable {file : Bytes} {context context' : Context} {before : List Outline}
  {parts : List (Heading × List Line)} {headings : List Heading}

theorem map_head_outlinesOf (parts : List (Heading × List Line)) :
    (outlinesOf parts).map Outline.head = (parts.map Prod.fst).map (Heading.head title) := by
  rw [outlinesOf, List.map_map, List.map_map]
  rfl

/-- Bodies that are read make up definitions that fit into the program. -/
theorem fills_of_readBodies
    (heads : (before ++ outlinesOf parts).map Outline.head = headings.map (Heading.head title))
    (sketches : context.Sketches (before ++ outlinesOf parts))
    (read : (readBodies file context (declarations before.length parts)).outcome = .ok context') :
    ∃ program, List.Forall₂ Fills parts program ∧
      ∀ definition ∈ program, definition.Valid title headings := by
  induction parts generalizing context before with
  | nil => exact ⟨[], .nil, fun _ member => absurd member List.not_mem_nil⟩
  | cons part parts ih =>
    obtain ⟨heading, body⟩ := part
    rw [declarations, readBodies] at read
    split at read
    · cases read
    · rename_i middle first
      have surrounds : before.map Outline.head ++ heading.head title ::
          (outlinesOf parts).map Outline.head = headings.map (Heading.head title) := by
        rw [← heads, List.map_append]
        rfl
      obtain ⟨passages, outline, lines, valid, sketches', head⟩ :=
        valid_of_readBody surrounds rfl sketches first
      have split : before ++ outline :: outlinesOf parts =
          (before ++ [outline]) ++ outlinesOf parts := by simp
      have heads' : ((before ++ [outline]) ++ outlinesOf parts).map Outline.head =
          headings.map (Heading.head title) := by
        rw [← split, List.map_append, List.map_cons, head]
        exact surrounds
      obtain ⟨program, fills, others⟩ := ih heads' (split ▸ sketches') (by
        rw [List.length_append]
        exact read)
      refine ⟨{ heading with passages } :: program, .cons ⟨rfl, lines⟩ fills, ?_⟩
      intro definition member
      rcases List.mem_cons.mp member with rfl | later
      · exact valid
      · exact others definition later

/-- The bodies of definitions that fit into the program are read. -/
theorem exists_readBodies (file : Bytes) {program : List Definition}
    (fills : List.Forall₂ Fills parts program)
    (heads : (before ++ outlinesOf parts).map Outline.head = headings.map (Heading.head title))
    (sketches : context.Sketches (before ++ outlinesOf parts))
    (addressable : ∀ definition ∈ program, Addressable definition.passages)
    (valid : ∀ definition ∈ program, definition.Valid title headings) :
    ∃ context', (readBodies file context (declarations before.length parts)).outcome =
      .ok context' := by
  induction fills generalizing context before with
  | nil => exact ⟨context, rfl⟩
  | @cons part definition parts program first others ih =>
    obtain ⟨heading, body⟩ := part
    obtain ⟨rfl, lines⟩ := first
    have surrounds : Surrounds title headings definition before (outlinesOf parts) := by
      rw [Surrounds, ← heads, List.map_append]
      rfl
    let declaration : Declaration := ⟨before.length, Text.normalize definition.name, body⟩
    have numbered : declaration.function = before.length := rfl
    obtain ⟨middle, outline, read, sketches', head⟩ := exists_readBody file surrounds numbered
      sketches lines (addressable _ List.mem_cons_self) (valid _ List.mem_cons_self)
    have split : before ++ outline :: outlinesOf parts =
        (before ++ [outline]) ++ outlinesOf parts := by simp
    have heads' : ((before ++ [outline]) ++ outlinesOf parts).map Outline.head =
        headings.map (Heading.head title) := by
      rw [← split, List.map_append, List.map_cons, head]
      exact surrounds
    obtain ⟨context', rest⟩ := ih heads' (split ▸ sketches')
      (fun other member => addressable other (List.mem_cons_of_mem _ member))
      (fun other member => valid other (List.mem_cons_of_mem _ member))
    refine ⟨context', ?_⟩
    rw [List.length_append] at rest
    rw [declarations, readBodies, read]
    exact rest

end Reader

theorem Context.parse_eq_ok_iff {source : Bytes} {optimize : Bool} {context : Context} :
    Context.parse file source optimize = .ok context ↔
      ∃ middle declarations,
        Reader.declare file ⟨1, []⟩ (.new optimize) none (Line.split source) =
          .ok (middle, declarations) ∧
        (Reader.readBodies file middle declarations).outcome = .ok context := by
  unfold Context.parse Reader.read
  constructor
  · intro parsed
    split at parsed
    · cases parsed
    · exact ⟨_, _, ‹_›, parsed⟩
  · rintro ⟨middle, declarations, declared, read⟩
    rw [declared]
    exact read

namespace Reader

theorem map_lexemes_filter (source : Bytes) :
    ((Line.split source).filter fun line => line.lexemes ≠ []).map Line.lexemes =
      sentences source := by
  rw [sentences, List.filter_map]
  rfl

theorem written_of_filter (source : Bytes) :
    ∀ line ∈ (Line.split source).filter fun line => line.lexemes ≠ [], line.lexemes ≠ [] :=
  fun _ member => of_decide_eq_true (List.mem_filter.mp member).2

/-- A text that is read belongs to the language. -/
theorem accepts_of_parse {source : Bytes} {optimize : Bool}
    (parsed : Context.parse file source optimize = .ok context) : Accepts title source := by
  obtain ⟨middle, found, declared, read⟩ := Context.parse_eq_ok_iff.mp parsed
  obtain ⟨parts, divided, rfl, sketches⟩ := parts_of_declare (written_of_filter source)
    (.new optimize) ((declare_filter_iff ..).mpr declared)
  obtain ⟨program, fills, valid⟩ := fills_of_readBodies (map_head_outlinesOf parts) sketches read
  rw [← Fills.map_toHeading fills] at valid
  refine ⟨program, map_lexemes_filter source ▸ divided.isProgram fills, ?_, ?_, valid⟩
  · intro definition member
    have named : title definition.name ∈ (outlinesOf parts).map Outline.name := by
      rw [← Fills.map_title fills]
      exact List.mem_map_of_mem member
    obtain ⟨outline, inside, same⟩ := List.mem_map.mp named
    rw [← same]
    refine (sketches.formed.sound ?_).spelled
    rw [sketches.outlines_eq]
    exact inside
  · have distinct := sketches.formed.nodup_names
    rw [sketches.outlines_eq] at distinct
    rw [Fills.map_title fills]
    exact distinct

/-- A text of the language is read, if it is not too long. -/
theorem exists_parse_of_accepts (file : Bytes) (optimize : Bool) {source : Bytes}
    (short : source.length ≤ 0x80000000) (accepted : Accepts title source) :
    ∃ context, Context.parse file source optimize = .ok context := by
  obtain ⟨program, whole, spelled, distinct, valid⟩ := accepted
  obtain ⟨parts, divided, fills⟩ := exists_parts whole (map_lexemes_filter source)
  have spelledParts : ∀ part ∈ parts, FunctionName.check (title part.1.name) = .ok () := by
    intro part member
    have listed : part.1 ∈ program.map Definition.toHeading := by
      rw [Fills.map_toHeading fills]
      exact List.mem_map_of_mem member
    obtain ⟨definition, inside, same⟩ := List.mem_map.mp listed
    rw [← same]
    exact spelled definition inside
  rw [Fills.map_title fills] at distinct
  obtain ⟨middle, declared, sketches⟩ := exists_declare file ⟨1, []⟩ divided
    (written_of_filter source) (.new optimize) spelledParts distinct
  have addressable : ∀ definition ∈ program, Addressable definition.passages := by
    intro definition member
    have small := (whole.size_le member).trans ((extent_sentences_le source).trans short)
    exact (valid definition member).addressable small
  rw [Fills.map_toHeading fills] at valid
  obtain ⟨context, read⟩ := exists_readBodies file fills (map_head_outlinesOf parts) sketches
    addressable valid
  exact ⟨context, Context.parse_eq_ok_iff.mpr ⟨_, _, (declare_filter_iff ..).mp declared, read⟩⟩

end Reader

/-! ## Names -/

namespace SourceLanguage

theorem IsProgram.exists_word {lines : List (List Lexeme)} {program : List Definition}
    (whole : IsProgram lines program) {definition : Definition} (member : definition ∈ program) :
    ∃ line ∈ lines, .word definition.name ∈ line := by
  induction whole with
  | empty => cases member
  | define head content others ih =>
    rcases List.mem_cons.mp member with rfl | later
    · obtain ⟨_, _, -, -, rfl⟩ := head
      exact ⟨_, List.mem_cons_self, by simp⟩
    · obtain ⟨line, inside, word⟩ := ih later
      exact ⟨line, by simp [inside], word⟩

variable {title title' : Bytes → Bytes}

theorem Definition.Valid.congr {headings : List Heading} {definition : Definition}
    (agree : ∀ heading ∈ headings, title heading.name = title' heading.name)
    (valid : definition.Valid title headings) : definition.Valid title' headings := by
  refine { valid with computes := fun entry member => ?_ }
  cases valid.computes entry member with
  | literal written numeral fits => exact .literal written numeral fits
  | operation written left right leftEarlier rightEarlier leftTyped rightTyped typed =>
    exact .operation written left right leftEarlier rightEarlier leftTyped rightTyped typed
  | call written numerals earlier known named passed typed =>
    exact .call written numerals earlier known ((agree _ known).symm.trans named) passed typed

/-- The language depends only on what the words of a text are as names. -/
theorem Accepts.congr {source : Bytes}
    (agree : ∀ line ∈ sentences source, ∀ word, .word word ∈ line → title word = title' word)
    (accepted : Accepts title source) : Accepts title' source := by
  obtain ⟨program, whole, spelled, distinct, valid⟩ := accepted
  have same : ∀ definition ∈ program, title definition.name = title' definition.name := by
    intro definition member
    obtain ⟨line, inside, word⟩ := whole.exists_word member
    exact agree line inside _ word
  refine ⟨program, whole, fun definition member => ?_, ?_, fun definition member => ?_⟩
  · rw [← same definition member]
    exact spelled definition member
  · rw [← List.map_congr_left same]
    exact distinct
  · refine (valid definition member).congr fun heading listed => ?_
    obtain ⟨other, inside, rfl⟩ := List.mem_map.mp listed
    exact same other inside

end SourceLanguage

/-- Reading succeeds exactly on the texts of the language, where a name is put into normal form
twice; if doing so once more changes no word of the text, once is enough. -/
theorem Context.parse_iff_accepts (file source : Bytes) (optimize : Bool)
    (short : source.length < Nat.pow 2 31) :
    ((∃ context, Context.parse file source optimize = .ok context) ↔
      Accepts Reader.title source) ∧
    ((∀ line ∈ sentences source, ∀ word, .word word ∈ line →
        Text.normalize (Text.normalize word) = Text.normalize word) →
      ((∃ context, Context.parse file source optimize = .ok context) ↔
        Accepts Text.normalize source)) := by
  have exactly : (∃ context, Context.parse file source optimize = .ok context) ↔
      Accepts Reader.title source :=
    ⟨fun ⟨_, parsed⟩ => Reader.accepts_of_parse parsed,
      Reader.exists_parse_of_accepts file optimize short.le⟩
  refine ⟨exactly, fun settled => exactly.trans ⟨fun accepted => ?_, fun accepted => ?_⟩⟩
  · exact accepted.congr settled
  · exact accepted.congr fun line inside word listed => (settled line inside word listed).symm

/-- A text whose first function has the given line in its second block. A value of the block before
has a higher number. -/
def SourceLanguage.crossingSource (line : String) : Bytes :=
  utf8 "define f(i8) -> i8 \x7b ; f\nbb0:\n%02: i8 = add %1 %0\nbranch bb1\r\nbb1:\n" ++
    utf8 line ++ utf8 "\nreturn %2\n\x7d\ndefine g(i8) -> i8 \x7b\n\x7d"

/-- Whether a lexeme is spelled in ASCII, as every mark is. -/
def Lexeme.isAscii : Lexeme → Bool
  | .word text => text.isAscii
  | .mark _ => true

/-- A function may be called before its definition, but not with a value that is computed later. -/
theorem Context.parse_iff_accepts_crossingSource :
    Accepts Text.normalize (crossingSource "%1: i8 = call g(%0)") ∧
      ¬ Accepts Text.normalize (crossingSource "%1: i8 = call g(%2)") := by
  have settled {source : Bytes} (plain : (sentences source).all (·.all Lexeme.isAscii)) :
      ∀ line ∈ sentences source, ∀ word, .word word ∈ line →
        Text.normalize (Text.normalize word) = Text.normalize word := by
    intro line inside word listed
    have spelled := List.all_eq_true.mp (List.all_eq_true.mp plain line inside) _ listed
    rw [Text.normalize_of_isAscii spelled]
    exact Text.normalize_of_isAscii spelled
  have good : (crossingSource "%1: i8 = call g(%0)").length < Nat.pow 2 31 ∧
      (sentences (crossingSource "%1: i8 = call g(%0)")).all (·.all Lexeme.isAscii) ∧
      (Context.parse [] (crossingSource "%1: i8 = call g(%0)") true).isOk := by
    decide +kernel
  have bad : (crossingSource "%1: i8 = call g(%2)").length < Nat.pow 2 31 ∧
      (sentences (crossingSource "%1: i8 = call g(%2)")).all (·.all Lexeme.isAscii) ∧
      (Context.parse [] (crossingSource "%1: i8 = call g(%2)") true).isOk = false := by
    decide +kernel
  constructor
  · obtain ⟨short, plain, parsed⟩ := good
    refine ((parse_iff_accepts [] _ true short).2 (settled plain)).mp ?_
    cases outcome : Context.parse [] (crossingSource "%1: i8 = call g(%0)") true with
    | ok context => exact ⟨context, rfl⟩
    | error error =>
      rw [outcome] at parsed
      cases parsed
  · intro accepted
    obtain ⟨short, plain, refused⟩ := bad
    obtain ⟨context, parsed⟩ := ((parse_iff_accepts [] _ true short).2 (settled plain)).mpr accepted
    rw [parsed] at refused
    cases refused

end Blockwork
