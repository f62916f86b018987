import Blockwork.Proofs.Replaying

/-!
# Declaring the functions of a text

The round over the headers divides the lines of a text into definitions, each with the lines of its
body, and declares every function under its name. It succeeds exactly if the lines can be divided
and the names are names that differ. What the bodies say is left for later.
-/

namespace Blockwork

open SourceLanguage

namespace Reader

/-- The name that a definition gets. It is put into normal form when its header is read, and once
more when its function is added. -/
def title (name : Bytes) : Bytes := Text.normalize (Text.normalize name)

/-- Lines divided into definitions: what others see of each, and the lines of its body. -/
inductive Parts : List Line → List (Heading × List Line) → Prop
  /-- There may be none. -/
  | empty : Parts [] []
  /-- A body reaches up to the first line that begins with a closing bracket, which has to be all of
  that line. -/
  | define {header closing : Line} {body rest : List Line} {heading : Heading}
      {parts : List (Heading × List Line)} (head : IsHeader header.lexemes heading)
      (inner : ∀ line ∈ body, line.lexemes.head? ≠ some (.mark .rightBrace))
      (closed : closing.lexemes = [.mark .rightBrace]) (others : Parts rest parts) :
      Parts (header :: (body ++ closing :: rest)) ((heading, body) :: parts)

/-- The declarations of definitions, numbered from `start` on. -/
def declarations (start : FunctionId) : List (Heading × List Line) → List Declaration
  | [] => []
  | (heading, body) :: parts =>
    ⟨start, Text.normalize heading.name, body⟩ :: declarations (start + 1) parts

/-- What has been declared of definitions. -/
def outlinesOf (parts : List (Heading × List Line)) : List Outline :=
  parts.map fun part => part.1.declared title

variable {file : Bytes} {context context' : Context} {outlines : List Outline}

/-! ## Empty lines -/

theorem kind_peek_eq_endOfLine_iff {tokens : List Token} {lexemes : List Lexeme} (stop : Token)
    (yields : Token.Yields tokens lexemes) :
    (Grammar.peek stop tokens).kind = .endOfLine ↔ lexemes = [] := by
  cases yields with
  | stop => simp [Grammar.peek]
  | word => simp [Grammar.peek]
  | mark => simp [Grammar.peek]

theorem kind_peek_eq_mark_iff {tokens : List Token} {lexemes : List Lexeme} {sign : Mark}
    (stop : Token) (yields : Token.Yields tokens lexemes) :
    (Grammar.peek stop tokens).kind = .mark sign ↔ lexemes.head? = some (.mark sign) := by
  cases yields with
  | stop => simp [Grammar.peek]
  | word => simp [Grammar.peek]
  | mark => simp [Grammar.peek]

theorem toOption_bind {ε α β : Type} (first : Except ε α) (next : α → Except ε β) :
    (first >>= next).toOption = first.toOption.bind fun value => (next value).toOption := by
  cases first <;> rfl

theorem toOption_eq_some_iff {ε α : Type} {outcome : Except ε α} {value : α} :
    outcome.toOption = some value ↔ outcome = .ok value := by
  cases outcome <;> simp [Except.toOption]

/-- Empty lines do not matter, and neither does the line that is blamed for a missing end. -/
theorem toOption_declare_filter (file : Bytes) (last last' : Line) (context : Context)
    (current : Option Declaration) (lines : List Line) :
    (declare file last context current lines).toOption =
      (declare file last' context current
        (lines.filter fun line => line.lexemes ≠ [])).toOption := by
  induction lines generalizing last last' context current with
  | nil => cases current <;> rfl
  | cons line rest ih =>
    have ended := kind_peek_eq_endOfLine_iff (stopOf line) line.yields
    by_cases blank : line.lexemes = []
    · rw [List.filter_cons_of_neg (by simpa using blank), declare.eq_def]
      simp only [if_pos (ended.mpr blank)]
      exact ih ..
    · rw [List.filter_cons_of_pos (by simpa using blank)]
      cases current with
      | none =>
        rw [declare, declare]
        simp only [if_neg (mt ended.mp blank)]
        split
        · split
          · rfl
          · split
            · rfl
            · exact ih ..
        · rfl
      | some declaration =>
        rw [declare, declare]
        simp only [if_neg (mt ended.mp blank)]
        split
        · split
          · rw [toOption_bind, toOption_bind, ih line line context none]
          · rfl
        · exact ih ..

theorem declare_filter_iff (file : Bytes) (last : Line) (context : Context)
    (current : Option Declaration) (lines : List Line) {found : Context × List Declaration} :
    declare file last context current (lines.filter fun line => line.lexemes ≠ []) = .ok found ↔
      declare file last context current lines = .ok found := by
  rw [← toOption_eq_some_iff, ← toOption_declare_filter file last last, toOption_eq_some_iff]

/-! ## Headers -/

theorem valid_of_isHeader {line : List Lexeme} {heading : Heading} (head : IsHeader line heading) :
    (∀ type ∈ heading.inputs, type.Valid) ∧ heading.output.Valid := by
  obtain ⟨words, word, types, type, -⟩ := head
  refine ⟨?_, type.valid⟩
  have valid : List.Forall₂ (fun type word => type.Valid ∧ IsType word type) heading.inputs words :=
    types.flip.imp fun _ _ spells => ⟨spells.valid, spells⟩
  exact ((List.forall₂_and_left _ _).mp valid).1

/-- A function that is declared has a name that is one and is new. -/
theorem fresh_of_declareHeader {header : Grammar.Header} {id : FunctionId}
    (sketches : context.Sketches outlines)
    (declared : declareHeader context header = .ok (context', id)) :
    FunctionName.check (title header.name) = .ok () ∧
      ∀ outline ∈ outlines, outline.name ≠ title header.name := by
  obtain ⟨-, checked, unused, -⟩ :=
    Context.addFunction_eq_ok_iff.mp (declareHeader_eq_ok_iff.mp declared)
  refine ⟨checked, fun outline member same => ?_⟩
  rw [← sketches.outlines_eq] at member
  obtain ⟨function, inside, rfl⟩ := List.mem_map.mp member
  obtain ⟨id, found⟩ := Arena.mem_toList_iff.mp inside
  have used := (sketches.formed.names _ id).mpr ⟨function, found, same⟩
  cases unused.symm.trans used

/-! ## Definitions -/

/-- The lines of a body are put aside up to the closing bracket. -/
theorem exists_of_declare {last : Line} {declaration : Declaration} {lines : List Line}
    (written : ∀ line ∈ lines, line.lexemes ≠ []) {found : List Declaration}
    (declared : declare file last context (some declaration) lines = .ok (context', found)) :
    ∃ body closing rest last' others, lines = body ++ closing :: rest ∧
      (∀ line ∈ body, line.lexemes.head? ≠ some (.mark .rightBrace)) ∧
      closing.lexemes = [.mark .rightBrace] ∧
      declare file last' context none rest = .ok (context', others) ∧
      found = { declaration with body := declaration.body.reverse ++ body } :: others := by
  induction lines generalizing last declaration with
  | nil => cases declared
  | cons line rest ih =>
    have ended := kind_peek_eq_endOfLine_iff (stopOf line) line.yields
    rw [declare] at declared
    simp only [if_neg (mt ended.mp (written line List.mem_cons_self))] at declared
    split at declared
    · rename_i closing
      obtain ⟨back, split, behind⟩ := Grammar.tail_of_mark (stopOf line) line.yields closing
      obtain ⟨alone, declared⟩ := of_ite_eq_ok declared
      obtain ⟨⟨_, others⟩, tail, done⟩ := bind_eq_ok_iff.mp declared
      cases done
      rw [(kind_peek_eq_endOfLine_iff (stopOf line) behind).mp alone] at split
      exact ⟨[], line, rest, line, others, rfl, fun _ member => absurd member List.not_mem_nil,
        split, tail, by rw [List.append_nil]⟩
    · rename_i other
      obtain ⟨body, closing, rest, last', others, rfl, inner, closed, tail, rfl⟩ :=
        ih (fun other member => written other (List.mem_cons_of_mem _ member)) declared
      refine ⟨line :: body, closing, rest, last', others, rfl, ?_, closed, tail, ?_⟩
      · intro line' member
        rcases List.mem_cons.mp member with rfl | inside
        · exact mt (kind_peek_eq_mark_iff (stopOf line') line'.yields).mpr other
        · exact inner line' inside
      · rw [List.reverse_cons, List.append_assoc, List.singleton_append]

/-- Lines that are declared can be divided, and the functions have been declared. -/
theorem parts_of_declare {last : Line} {lines : List Line}
    (written : ∀ line ∈ lines, line.lexemes ≠ []) {found : List Declaration}
    (sketches : context.Sketches outlines)
    (declared : declare file last context none lines = .ok (context', found)) :
    ∃ parts, Parts lines parts ∧ found = declarations outlines.length parts ∧
      context'.Sketches (outlines ++ outlinesOf parts) := by
  induction length : lines.length using Nat.strong_induction_on
    generalizing lines last context outlines found with
  | h size ih =>
    cases lines with
    | nil =>
      cases declared
      exact ⟨[], .empty, rfl, by simpa [outlinesOf] using sketches⟩
    | cons line rest =>
      have ended := kind_peek_eq_endOfLine_iff (stopOf line) line.yields
      rw [declare] at declared
      simp only [if_neg (mt ended.mp (written line List.mem_cons_self))] at declared
      obtain ⟨define, declared⟩ := of_ite_eq_ok declared
      obtain ⟨kind, text⟩ := Grammar.isWord_iff.mp define
      obtain ⟨back, split, behind⟩ := Grammar.tail_of_word (stopOf line) line.yields kind
      rw [text] at split
      split at declared
      · cases declared
      · rename_i header read
        obtain ⟨name, column, inputs, output⟩ := header
        have head := (Grammar.readHeader_iff (stopOf line) behind).mp ⟨column, read⟩
        rw [← split] at head
        obtain ⟨inputsValid, outputValid⟩ := valid_of_isHeader head
        split at declared
        · cases declared
        · rename_i middle id added
          obtain ⟨spelled, fresh⟩ := fresh_of_declareHeader sketches added
          obtain ⟨_, again, sketches'⟩ := exists_declareHeader rfl inputsValid outputValid spelled
            fresh sketches column
          cases added.symm.trans again
          obtain ⟨body, closing, rest, last', others, rfl, inner, closed, tail, rfl⟩ :=
            exists_of_declare (fun other member => written other (List.mem_cons_of_mem _ member))
              declared
          obtain ⟨parts, divided, rfl, done⟩ := ih rest.length (by
              rw [← length, List.length_cons, List.length_append, List.length_cons]
              omega)
            (fun other member => written other (List.mem_cons_of_mem _
              (List.mem_append_right _ (List.mem_cons_of_mem _ member)))) sketches' tail rfl
          refine ⟨(⟨name, inputs, output⟩, body) :: parts, .define head inner closed divided,
            ?_, ?_⟩
          · rw [List.length_append]
            rfl
          · rw [List.append_assoc] at done
            exact done

/-- A line of a body is neither empty nor ends it. -/
theorem inner_of_lexemes {line : Line} (written : line.lexemes ≠ [])
    (inner : line.lexemes.head? ≠ some (.mark .rightBrace)) : Inner line.phrase := by
  have yields := line.yields
  rw [Line.phrase]
  generalize line.tokens = tokens at yields
  generalize line.lexemes = lexemes at yields written inner
  cases yields with
  | stop => exact absurd rfl written
  | word => exact ⟨_, _, _, rfl, TokenKind.noConfusion, TokenKind.noConfusion⟩
  | mark =>
    refine ⟨_, _, _, rfl, TokenKind.noConfusion, fun same => ?_⟩
    cases same
    exact inner rfl

/-- A header line declares its function, and what follows is its body. -/
theorem exists_declare_header (file : Bytes) (last : Line) {header : Line} {heading : Heading}
    (head : IsHeader header.lexemes heading) (sketches : context.Sketches outlines)
    (spelled : FunctionName.check (title heading.name) = .ok ())
    (fresh : ∀ outline ∈ outlines, outline.name ≠ title heading.name) :
    ∃ middle, middle.Sketches (outlines ++ [heading.declared title]) ∧ ∀ rest,
      declare file last context none (header :: rest) =
        declare file header middle (some ⟨outlines.length, Text.normalize heading.name, []⟩)
          rest := by
  obtain ⟨inputsValid, outputValid⟩ := valid_of_isHeader head
  obtain ⟨back, split⟩ : ∃ back, header.lexemes = .word (utf8 "define") :: back := by
    obtain ⟨_, _, -, -, same⟩ := head
    exact ⟨_, same⟩
  have yields := header.yields
  rw [split] at head yields
  obtain ⟨kind, text, behind⟩ := Grammar.peek_word (stopOf header) yields
  have define := Grammar.isWord_iff.mpr ⟨kind, text⟩
  obtain ⟨column, read⟩ := (Grammar.readHeader_iff (stopOf header) behind).mpr head
  obtain ⟨middle, added, sketches'⟩ :=
    exists_declareHeader rfl inputsValid outputValid spelled fresh sketches column
  refine ⟨middle, sketches', fun rest => ?_⟩
  have more : (Grammar.peek (stopOf header) header.tokens).kind ≠ .endOfLine := by
    rw [kind]
    exact TokenKind.noConfusion
  rw [declare]
  simp only [if_neg more, define, if_true, read, added]

/-- A line with a closing bracket ends a body. -/
theorem declare_closing {last closing : Line} {declaration : Declaration} {rest : List Line}
    {others : List Declaration} (closed : closing.lexemes = [.mark .rightBrace])
    (declared : declare file closing context none rest = .ok (context', others)) :
    declare file last context (some declaration) (closing :: rest) =
      .ok (context', { declaration with body := declaration.body.reverse } :: others) := by
  have yields := closing.yields
  rw [closed] at yields
  obtain ⟨brace, nothing⟩ := Grammar.peek_mark (stopOf closing) yields
  have alone := (kind_peek_eq_endOfLine_iff (stopOf closing) nothing).mpr rfl
  rw [declare]
  simp only [brace, reduceCtorEq, if_false, if_true, alone, declared, ok_bind]
  rfl

/-- Lines that can be divided are declared if the names are names that differ. -/
theorem exists_declare (file : Bytes) (last : Line) {lines : List Line}
    {parts : List (Heading × List Line)} (divided : Parts lines parts)
    (written : ∀ line ∈ lines, line.lexemes ≠ []) (sketches : context.Sketches outlines)
    (spelled : ∀ part ∈ parts, FunctionName.check (title part.1.name) = .ok ())
    (distinct : ((outlines ++ outlinesOf parts).map Outline.name).Nodup) :
    ∃ context', declare file last context none lines =
        .ok (context', declarations outlines.length parts) ∧
      context'.Sketches (outlines ++ outlinesOf parts) := by
  induction divided generalizing last context outlines with
  | empty => exact ⟨context, rfl, by simpa [outlinesOf] using sketches⟩
  | @define header closing body rest heading parts head inner closed others ih =>
    have fresh : ∀ outline ∈ outlines, outline.name ≠ title heading.name := by
      intro outline member
      rw [List.map_append] at distinct
      exact (List.nodup_append.mp distinct).2.2 _ (List.mem_map_of_mem member) _
        List.mem_cons_self
    obtain ⟨middle, sketches', begun⟩ := exists_declare_header file last head sketches
      (spelled _ List.mem_cons_self) fresh
    have writtenRest : ∀ line ∈ body ++ closing :: rest, line.lexemes ≠ [] :=
      fun line member => written line (List.mem_cons_of_mem _ member)
    obtain ⟨last', aside⟩ := declare_inner file header middle
      ⟨outlines.length, Text.normalize heading.name, []⟩
      (fun line member => inner_of_lexemes (writtenRest line (List.mem_append_left _ member))
        (inner line member)) (closing :: rest)
    have split : (outlines ++ [heading.declared title]) ++ outlinesOf parts =
        outlines ++ outlinesOf ((heading, body) :: parts) := by
      rw [List.append_assoc]
      rfl
    obtain ⟨context', declared, done⟩ := ih closing
      (fun line member => writtenRest line
        (List.mem_append_right _ (List.mem_cons_of_mem _ member))) sketches'
      (fun part member => spelled part (List.mem_cons_of_mem _ member)) (split ▸ distinct)
    refine ⟨context', ?_, split ▸ done⟩
    rw [begun, aside, declare_closing closed declared, List.append_nil, List.reverse_reverse,
      List.length_append]
    rfl

end Reader
end Blockwork
