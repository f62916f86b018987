import Blockwork.Proofs.Complaints
import Blockwork.Proofs.Kinds

/-!
# What complaints point at

The grammar reads a line from left to right and complains about a token of it. This file follows the
tokens through the grammar: every part hands on the end of what it was given, so whatever is
complained about later stands on the same line, and what a complaint says is true of its token.
-/

namespace Blockwork

open SourceLanguage

/-! ## Columns -/

/-- Tokens stand one behind another from a column on, and the last is the end of the line. -/
structure Token.Arranged (start stop : Nat) (tokens : List Token) : Prop where
  /-- Each token starts behind those before it. -/
  rising : tokens.Pairwise fun first second => first.column < second.column
  /-- Every token starts between the two columns. -/
  bounds : ∀ token ∈ tokens, start ≤ token.column ∧ token.column ≤ stop
  /-- The last token is the end of the line. -/
  last : tokens.getLast? = some ⟨.endOfLine, [], stop⟩

namespace Token

variable {start later stop : Nat} {tokens : List Token}

theorem Arranged.mono (arranged : Arranged later stop tokens) (before : start ≤ later) :
    Arranged start stop tokens where
  rising := arranged.rising
  bounds token member :=
    ⟨Nat.le_trans before (arranged.bounds token member).1, (arranged.bounds token member).2⟩
  last := arranged.last

theorem Arranged.ne_nil (arranged : Arranged start stop tokens) : tokens ≠ [] := by
  rintro rfl
  cases arranged.last

theorem Arranged.start_le (arranged : Arranged start stop tokens) : start ≤ stop := by
  have inside := arranged.bounds _ (List.mem_of_getLast? arranged.last)
  exact Nat.le_trans inside.1 inside.2

theorem arranged_singleton (inside : start ≤ stop) :
    Arranged start stop [⟨.endOfLine, [], stop⟩] where
  rising := List.pairwise_singleton _ _
  bounds token member := by
    obtain rfl := List.mem_singleton.mp member
    exact ⟨inside, Nat.le_refl _⟩
  last := rfl

theorem Arranged.cons (arranged : Arranged later stop tokens) (before : start < later)
    (kind : TokenKind) (text : Bytes) : Arranged start stop (⟨kind, text, start⟩ :: tokens) where
  rising := List.pairwise_cons.mpr
    ⟨fun token member => Nat.lt_of_lt_of_le before (arranged.bounds token member).1,
      arranged.rising⟩
  bounds token member := by
    rcases List.mem_cons.mp member with rfl | tail
    · exact ⟨Nat.le_refl _, Nat.le_trans (Nat.le_of_lt before) arranged.start_le⟩
    · exact (arranged.mono (Nat.le_of_lt before)).bounds token tail
  last := by rw [List.getLast?_cons_of_ne_nil arranged.ne_nil, arranged.last]

theorem Arranged.prependToWord {glyph : Glyph}
    (arranged : Arranged (start + glyph.size) stop tokens) (extends_ : 0 < glyph.size) :
    Arranged start stop (prependToWord glyph start tokens) := by
  have before : start < start + glyph.size := Nat.lt_add_of_pos_right extends_
  unfold Token.prependToWord
  split
  · rename_i text column rest
    split
    · -- The word that follows starts earlier now; what comes behind it stays where it is.
      rename_i joined
      obtain ⟨first, rising⟩ := List.pairwise_cons.mp arranged.rising
      have behind : Arranged (column + 1) stop rest := by
        refine ⟨rising, fun token member => ⟨first token member, ?_⟩, ?_⟩
        · exact (arranged.bounds token (List.mem_cons_of_mem _ member)).2
        · cases rest with
          | nil => cases arranged.last
          | cons next rest => exact (List.getLast?_cons_cons).symm.trans arranged.last
      exact behind.cons (by omega) _ _
    · exact arranged.cons before _ _
  · exact arranged.cons before _ _

/-- The tokens of the rest of a line start between the column where it starts and its end. -/
theorem arranged_lexFrom {glyphs : List Glyph} (extend : ∀ glyph ∈ glyphs, 0 < glyph.size)
    (fits : start + (glyphs.map Glyph.size).sum ≤ stop) :
    Arranged start stop (lexFrom stop start glyphs) := by
  induction glyphs generalizing start with
  | nil => exact arranged_singleton (by simpa using fits)
  | cons glyph rest ih =>
    obtain ⟨here, others⟩ := List.forall_mem_cons.mp extend
    rw [List.map_cons, List.sum_cons, ← Nat.add_assoc] at fits
    have arranged := ih others fits
    have before : start < start + glyph.size := Nat.lt_add_of_pos_right here
    rw [lexFrom]
    split
    · exact arranged_singleton (Nat.le_trans (Nat.le_of_lt before) arranged.start_le)
    · dsimp only
      split
      · exact arranged.mono (Nat.le_of_lt before)
      · split
        · exact arranged.cons before _ _
        · exact arranged.prependToWord here

/-- The tokens of a line stand between its first column and the one behind its last. -/
theorem arranged_lex (line : Bytes) : Arranged 1 (line.length + 1) (lex line) := by
  refine arranged_lexFrom (fun glyph member => Glyph.size_pos member) ?_
  have whole := congrArg List.length (Glyph.spell_list line)
  rw [Glyph.spell, List.length_flatMap] at whole
  have same : ((Glyph.list line).map Glyph.size).sum = line.length := whole
  rw [same, Nat.add_comm]

end Token

theorem Line.arranged (line : Line) : Token.Arranged 1 (line.text.length + 1) line.tokens :=
  Token.arranged_lex line.text

theorem Line.stopOf_mem (line : Line) : Reader.stopOf line ∈ line.tokens :=
  List.mem_of_getLast? line.arranged.last

/-! ## Outcomes -/

/-- An outcome is a value of which the first holds, or an error of which the second holds. -/
def Delivers {ε α : Type} (outcome : Except ε α) (good : α → Prop) (bad : ε → Prop) : Prop :=
  match outcome with
  | .ok value => good value
  | .error error => bad error

namespace Delivers

variable {ε α β : Type} {outcome : Except ε α} {good : α → Prop} {bad : ε → Prop}

theorem bind {next : α → Except ε β} {better : β → Prop} (first : Delivers outcome good bad)
    (second : ∀ value, good value → Delivers (next value) better bad) :
    Delivers (outcome >>= next) better bad := by
  cases outcome with
  | error error => exact first
  | ok value => exact second value first

theorem ite {condition : Prop} [Decidable condition] {other : Except ε α}
    (yes : condition → Delivers outcome good bad) (no : ¬ condition → Delivers other good bad) :
    Delivers (if condition then outcome else other) good bad := by
  split
  · exact yes ‹_›
  · exact no ‹_›

theorem imp {better : α → Prop} {worse : ε → Prop} (delivers : Delivers outcome good bad)
    (ok : ∀ value, good value → better value) (error : ∀ error, bad error → worse error) :
    Delivers outcome better worse := by
  cases outcome with
  | error failure => exact error failure delivers
  | ok value => exact ok value delivers

/-- Something weaker about the value. -/
theorem weaken {better : α → Prop} (delivers : Delivers outcome good bad)
    (ok : ∀ value, good value → better value) : Delivers outcome better bad :=
  delivers.imp ok fun _ failed => failed

/-- The value is also what the outcome says it is. -/
theorem noting (delivers : Delivers outcome good bad) :
    Delivers outcome (fun value => outcome = .ok value ∧ good value) bad := by
  cases outcome with
  | error failure => exact delivers
  | ok value => exact ⟨rfl, delivers⟩

theorem of_ok {value : α} (delivers : Delivers outcome good bad) (done : outcome = .ok value) :
    good value := by
  rw [done] at delivers
  exact delivers

theorem of_error {error : ε} (delivers : Delivers outcome good bad)
    (failed : outcome = .error error) : bad error := by
  rw [failed] at delivers
  exact delivers

end Delivers

/-! ## The grammar -/

theorem Numeral.le_of_fitting?_eq_none {bits : Nat} {digits : Bytes}
    (large : fitting? bits digits = none) : Nat.pow 2 bits ≤ value digits := by
  by_contra! fits
  rw [fitting?, if_pos fits] at large
  cases large

namespace Grammar

theorem eq_cons_of_peek {stop : Token} {tokens : List Token} {kind : TokenKind}
    (is : (peek stop tokens).kind = kind) (other : stop.kind ≠ kind) :
    tokens = peek stop tokens :: tokens.tail := by
  cases tokens with
  | nil => exact absurd is other
  | cons token rest => rfl

/-- Tokens of a line that reach to its end. -/
structure Reaches (whole : List Token) (stop : Token) (within : List Token) : Prop where
  /-- They end the line. -/
  part : within <:+ whole
  /-- The end of the line is one of them. -/
  ends : stop ∈ within
  /-- That is what it is. -/
  kind : stop.kind = .endOfLine

variable {whole within tokens : List Token} {stop : Token}

theorem Reaches.ne_mark (reaches : Reaches whole stop within) (sign : Mark) :
    stop.kind ≠ .mark sign := by
  rw [reaches.kind]
  nofun

theorem Reaches.ne_word (reaches : Reaches whole stop within) : stop.kind ≠ .word := by
  rw [reaches.kind]
  nofun

theorem Reaches.peek_mem (reaches : Reaches whole stop within) (inside : tokens <:+ within) :
    peek stop tokens ∈ within := by
  cases tokens with
  | nil => exact reaches.ends
  | cons token rest => exact inside.subset List.mem_cons_self

theorem tail_suffix (inside : tokens <:+ within) : tokens.tail <:+ within :=
  (List.tail_suffix tokens).trans inside

section

variable (reaches : Reaches whole stop within)

include reaches

theorem delivers_expect (inside : tokens <:+ within) {kind : TokenKind} {what : Bytes}
    (differs : ∀ token : Token, token.kind ≠ kind → token.Differs what) :
    Delivers (expect stop kind what tokens)
      (fun read => read = (peek stop tokens, tokens.tail) ∧ (peek stop tokens).kind = kind)
      (Complaint.PointsInto whole within) := by
  refine .ite (fun is => ⟨rfl, is⟩) fun other => ?_
  exact ⟨_, reaches.peek_mem inside, .unexpected (differs _ other)⟩

theorem delivers_mark (inside : tokens <:+ within) (sign : Mark) :
    Delivers (mark stop sign tokens)
      (fun read => read = (peek stop tokens, tokens.tail) ∧ (peek stop tokens).kind = .mark sign)
      (Complaint.PointsInto whole within) :=
  delivers_expect reaches inside fun _ => .mark sign

theorem delivers_arrow (inside : tokens <:+ within) :
    Delivers (keyword stop "->" tokens) (fun read => read = (peek stop tokens, tokens.tail))
      (Complaint.PointsInto whole within) := by
  refine .ite (fun _ => rfl) fun other => ?_
  exact ⟨_, reaches.peek_mem inside, .unexpected (.arrow (by simpa using other))⟩

theorem delivers_finish (inside : tokens <:+ within) :
    Delivers (finish stop tokens) (fun _ => True) (Complaint.PointsInto whole within) :=
  (delivers_expect reaches inside fun _ => .stop).bind fun _ _ => trivial

end

section

variable {token percent digits : Token}

theorem delivers_descriptor (inside : token ∈ within) :
    Delivers (descriptor token) (fun _ => True) (Complaint.PointsInto whole within) := by
  refine .ite (fun other => ⟨token, inside, .unexpected (.word other (by simp))⟩) fun word => ?_
  have word := not_not.mp word
  refine .ite (fun _ => trivial) fun bool => ?_
  cases dropped : Bytes.dropBeginning? (utf8 "i") token.text with
  | none =>
    refine ⟨token, inside, .unknown (.type word bool fun digits written => ?_)⟩
    rw [written, Bytes.dropBeginning?_append] at dropped
    cases dropped
  | some digits =>
    have written := Bytes.dropBeginning?_eq_some_iff.mp dropped
    refine .ite (fun numeral => ?_) fun other => ?_
    · cases fits : Numeral.fitting? 32 digits with
      | none =>
        have large := Numeral.le_of_fitting?_eq_none fits
        exact ⟨token, inside, .unknown (.width written ⟨numeral, rfl⟩ large)⟩
      | some width => trivial
    · refine ⟨token, inside, .unknown (.type word bool fun digits' written' => ?_)⟩
      rw [← List.append_cancel_left (written.symm.trans written')]
      simpa using other

theorem delivers_typeOf (inside : token ∈ within) :
    Delivers (typeOf token) (fun type => token.kind = .word ∧ IsType token.text type)
      (Complaint.PointsInto whole within) := by
  have checked : Delivers (typeOf token) (fun _ => True) (Complaint.PointsInto whole within) := by
    refine (delivers_descriptor inside).noting.bind ?_
    rintro type ⟨spelled, -⟩
    by_cases valid : type.Valid
    · rw [Descriptor.check, if_pos valid]
      trivial
    · rw [Descriptor.check, if_neg valid]
      obtain ⟨rfl, -⟩ | ⟨digits, width, written, numeral, fits, rfl⟩ := spelt_of_descriptor spelled
      · exact absurd (by decide) valid
      · rw [Descriptor.valid_int_iff fits] at valid
        exact ⟨token, inside, .noType written numeral fits (by omega)⟩
  exact checked.noting.weaken fun _ noted => typeOf_eq_ok_iff.mp noted.1

theorem delivers_labelOf (inside : token ∈ within) :
    Delivers (labelOf token) (fun _ => True) (Complaint.PointsInto whole within) := by
  have unexpected (other : ∀ number, ¬ token.LabelsBlock number) :
      Complaint.PointsInto whole within (.expected (utf8 "block label") token) :=
    ⟨token, inside, .unexpected (.label other)⟩
  refine .ite (fun other => unexpected fun _ label => other label.1) fun word => ?_
  cases dropped : Bytes.dropBeginning? (utf8 "bb") token.text with
  | none =>
    refine unexpected ?_
    rintro number ⟨-, digits, -, written⟩
    rw [written, Bytes.dropBeginning?_append] at dropped
    cases dropped
  | some digits =>
    have written := Bytes.dropBeginning?_eq_some_iff.mp dropped
    refine .ite (fun numeral => ?_) fun other => ?_
    · have label : token.LabelsBlock (Numeral.value digits) :=
        ⟨not_not.mp word, digits, ⟨numeral, rfl⟩, written⟩
      cases large : Numeral.index digits with
      | ok number => trivial
      | error cause => exact ⟨token, inside, .largeLabel label written large⟩
    · refine unexpected ?_
      rintro number ⟨-, digits', numeral, written'⟩
      rw [List.append_cancel_left (written.symm.trans written')] at other
      exact other numeral.1

theorem delivers_referenceOf (first : percent ∈ within) (second : digits ∈ within) :
    Delivers (referenceOf percent digits)
      (fun number => percent.kind = .mark .percent ∧ digits.IsNumber number)
      (Complaint.PointsInto whole within) := by
  have read : Delivers (referenceOf percent digits) (fun _ => True)
      (Complaint.PointsInto whole within) := by
    refine .ite (fun other => ⟨percent, first, .unexpected (.mark .percent other)⟩) fun _ => ?_
    refine .ite (fun other => ⟨digits, second, .unexpected (.number ?_)⟩) fun is => ?_
    · rintro number ⟨word, numeral, -⟩
      rcases other with other | other
      · exact other word
      · rw [numeral] at other
        cases other
    · have number : digits.IsNumber (Numeral.value digits.text) :=
        ⟨not_not.mp (not_or.mp is).1, by simpa using (not_or.mp is).2, rfl⟩
      cases large : Numeral.index digits.text with
      | ok number => trivial
      | error cause => exact ⟨digits, second, .largeNumber number large⟩
  refine read.noting.weaken fun number noted => ?_
  obtain ⟨sign, word, numeral, -⟩ := referenceOf_eq_ok_iff.mp noted.1
  exact ⟨sign, word, numeral⟩

end

section

variable (reaches : Reaches whole stop within)

include reaches

theorem delivers_readType (inside : tokens <:+ within) :
    Delivers (readType stop tokens) (fun read => read.2 = tokens.tail)
      (Complaint.PointsInto whole within) :=
  (delivers_typeOf (reaches.peek_mem inside)).bind fun _ _ => rfl

theorem delivers_readReference (inside : tokens <:+ within) :
    Delivers (readReference stop tokens) (fun read => read.2 = tokens.tail.tail)
      (Complaint.PointsInto whole within) :=
  (delivers_referenceOf (reaches.peek_mem inside) (reaches.peek_mem (tail_suffix inside))).bind
    fun _ _ => rfl

theorem delivers_readTypes (inside : tokens <:+ within) :
    Delivers (readTypes stop tokens) (fun read => read.2 <:+ within)
      (Complaint.PointsInto whole within) := by
  fun_induction readTypes stop tokens with
  | case1 token separator rest ih =>
    have behind : rest <:+ within := tail_suffix (tail_suffix inside)
    refine (delivers_typeOf (inside.subset (by simp))).bind fun type _ => ?_
    split
    · exact behind
    · exact (ih behind).bind fun read suffix => suffix
    · rename_i closing further
      exact ⟨separator, inside.subset (by simp), .unexpected (.separator further closing)⟩
  | case2 tokens =>
    refine (delivers_typeOf (reaches.peek_mem inside)).bind fun _ _ => ?_
    exact ⟨stop, reaches.ends,
      .unexpected (.separator (reaches.ne_mark _) (reaches.ne_mark _))⟩

/-- A header is complained about at a token of it; its column is that of its name. -/
theorem delivers_readHeader (inside : tokens <:+ within) :
    Delivers (readHeader stop tokens) (fun header => header.column = (peek stop tokens).column)
      (Complaint.PointsInto whole within) := by
  refine (delivers_expect reaches inside fun _ other => .word other (by simp)).bind ?_
  rintro _ ⟨rfl, -⟩
  have inside := tail_suffix inside
  refine (delivers_mark reaches inside _).bind ?_
  rintro _ ⟨rfl, -⟩
  have inside := tail_suffix inside
  dsimp only
  rw [ite_bind]
  have inputs : Delivers
      (if (peek stop tokens.tail.tail).kind = .mark .rightParen then
          pure ([], tokens.tail.tail.tail) else readTypes stop tokens.tail.tail)
      (fun read => read.2 <:+ within) (Complaint.PointsInto whole within) :=
    .ite (fun _ => tail_suffix inside) fun _ => delivers_readTypes reaches inside
  refine inputs.bind ?_
  rintro ⟨types, rest⟩ inside
  refine (delivers_arrow reaches inside).bind ?_
  rintro _ rfl
  have inside := tail_suffix inside
  refine (delivers_readType reaches inside).bind ?_
  rintro ⟨output, _⟩ rfl
  have inside := tail_suffix inside
  refine (delivers_mark reaches inside _).bind ?_
  rintro _ ⟨rfl, -⟩
  exact (delivers_finish reaches (tail_suffix inside)).bind fun _ _ => rfl

theorem delivers_readLabel (inside : tokens <:+ within) :
    Delivers (readLabel stop tokens) (fun _ => True) (Complaint.PointsInto whole within) := by
  refine (delivers_labelOf (reaches.peek_mem inside)).bind fun number _ => ?_
  have inside := tail_suffix inside
  refine (delivers_mark reaches inside _).bind ?_
  rintro _ ⟨rfl, -⟩
  exact (delivers_finish reaches (tail_suffix inside)).bind fun _ _ => trivial

/-- A value line is complained about at a token of it; its instruction stands behind the first five
tokens and is not empty. -/
theorem delivers_readValueHead (inside : tokens <:+ within) :
    Delivers (readValueHead stop tokens)
      (fun head => head.instruction = tokens.drop 5 ∧ ∃ first rest,
        head.instruction = first :: rest ∧ first.kind ≠ .endOfLine)
      (Complaint.PointsInto whole within) := by
  refine (delivers_readReference reaches inside).bind ?_
  rintro ⟨number, _⟩ rfl
  have inside := tail_suffix (tail_suffix inside)
  refine (delivers_mark reaches inside _).bind ?_
  rintro _ ⟨rfl, -⟩
  have inside := tail_suffix inside
  refine (delivers_readType reaches inside).bind ?_
  rintro ⟨type, _⟩ rfl
  have inside := tail_suffix inside
  refine (delivers_mark reaches inside _).bind ?_
  rintro _ ⟨rfl, -⟩
  have inside := tail_suffix inside
  refine .ite (fun missing => ⟨_, reaches.peek_mem inside, .missing missing⟩) fun more => ?_
  refine ⟨by simp only [← List.drop_one, List.drop_drop], _, _, eq_cons_of_peek rfl ?_, more⟩
  rw [reaches.kind]
  exact Ne.symm more

/-- A terminator line is complained about at a token of it; what it refers to begins at its second
token. -/
theorem delivers_readTerminator (inside : tokens <:+ within) :
    Delivers (readTerminator stop tokens) (fun read => read.2 = (peek stop tokens.tail).column)
      (Complaint.PointsInto whole within) := by
  have inside := tail_suffix inside
  refine .ite (fun _ => ?_) fun _ => ?_
  · refine (delivers_labelOf (reaches.peek_mem inside)).bind fun target _ => ?_
    exact (delivers_finish reaches (tail_suffix inside)).bind fun _ _ => rfl
  · refine (delivers_readReference reaches inside).bind ?_
    rintro ⟨value, _⟩ rfl
    exact (delivers_finish reaches (tail_suffix (tail_suffix inside))).bind fun _ _ => rfl

/-! ## Instructions -/

variable {entry : ValueLine} (value : IsValueLine (Token.lexemes whole) entry)

include value

theorem delivers_operandOf (inside : tokens <:+ within) :
    Delivers (operandOf entry.number (peek stop tokens) (peek stop tokens.tail)) (fun _ => True)
      (Complaint.PointsInto whole within) := by
  have first := reaches.peek_mem inside
  refine (delivers_referenceOf first (reaches.peek_mem (tail_suffix inside))).bind ?_
  rintro number ⟨sign, is⟩
  refine .ite (fun _ => trivial) fun late => ⟨_, first, ?_⟩
  have behind : peek stop tokens :: peek stop tokens.tail :: tokens.tail.tail <:+ whole := by
    rw [← eq_cons_of_peek is.1 reaches.ne_word, ← eq_cons_of_peek sign (reaches.ne_mark _)]
    exact inside.trans reaches.part
  exact .early value sign behind is (Nat.le_of_not_lt late)

theorem delivers_readOperand (inside : tokens <:+ within) :
    Delivers (readOperand stop entry.number tokens) (fun read => read.2 = tokens.tail.tail)
      (Complaint.PointsInto whole within) :=
  (delivers_operandOf reaches value inside).bind fun _ _ => rfl

theorem delivers_readOperands (inside : tokens <:+ within) :
    Delivers (readOperands stop entry.number tokens) (fun read => read.2 <:+ within)
      (Complaint.PointsInto whole within) := by
  fun_induction readOperands stop entry.number tokens with
  | case1 percent digits separator rest ih =>
    have behind : rest <:+ within := tail_suffix (tail_suffix (tail_suffix inside))
    refine (delivers_operandOf reaches value inside).bind fun number _ => ?_
    split
    · exact behind
    · exact (ih behind).bind fun read suffix => suffix
    · rename_i closing further
      exact ⟨separator, inside.subset (by simp), .unexpected (.separator further closing)⟩
  | case2 tokens =>
    refine (delivers_operandOf reaches value inside).bind fun _ _ => ?_
    exact ⟨stop, reaches.ends,
      .unexpected (.separator (reaches.ne_mark _) (reaches.ne_mark _))⟩

/-- A call is complained about at a token behind the word that begins it. -/
theorem delivers_readCall (context : Context) {call : Token}
    (sixth : whole[5]? = some call) (is : call.isWord "call" = true)
    (behind : tokens = whole.drop 6) (inside : tokens <:+ within) :
    Delivers (readCall stop context.functionNamed? entry.number tokens) (fun _ => True)
      (Complaint.PointsInto whole within) := by
  have here := reaches.peek_mem inside
  refine (delivers_expect reaches inside fun _ other => .word other (by simp)).bind ?_
  rintro _ ⟨rfl, word⟩
  dsimp only
  cases unknown : context.functionNamed? (peek stop tokens).text with
  | none =>
    have seventh : whole[6]? = some (peek stop tokens) := by
      rw [← List.head?_drop, ← behind, eq_cons_of_peek word reaches.ne_word]
      rfl
    exact ⟨_, here, .unknown (.callee sixth is seventh word unknown)⟩
  | some callee =>
    have inside := tail_suffix inside
    refine (delivers_mark reaches inside _).bind ?_
    rintro _ ⟨rfl, -⟩
    have inside := tail_suffix inside
    dsimp only
    rw [ite_bind]
    have arguments : Delivers
        (if (peek stop tokens.tail.tail).kind = .mark .rightParen then
            pure ([], tokens.tail.tail.tail) else readOperands stop entry.number tokens.tail.tail)
        (fun read => read.2 <:+ within) (Complaint.PointsInto whole within) :=
      .ite (fun _ => tail_suffix inside) fun _ => delivers_readOperands reaches value inside
    refine arguments.bind ?_
    rintro ⟨operands, rest⟩ inside
    exact (delivers_finish reaches inside).bind fun _ _ => trivial

theorem delivers_readSimple (sixth : whole[5]? = some (peek stop tokens))
    (inside : tokens <:+ within) :
    Delivers (readSimple stop entry.number tokens) (fun _ => True)
      (Complaint.PointsInto whole within) := by
  have here := reaches.peek_mem inside
  have inside := tail_suffix inside
  refine .ite (fun other => ⟨_, here, ?_⟩) fun word => .ite (fun numeral => ?_) fun other => ?_
  · have found : Token.Concerns whole (peek stop tokens) (.expected (utf8 "an instruction") _) :=
      .unexpected (.word other (by simp))
    rwa [Complaint.expected, Token.description, if_neg other] at found
  · cases fits : Numeral.fitting? 64 (peek stop tokens).text with
    | none =>
      have large := Numeral.le_of_fitting?_eq_none fits
      exact ⟨_, here, .unknown (.literal sixth ⟨not_not.mp word, numeral, rfl⟩ large)⟩
    | some literal => exact (delivers_finish reaches inside).bind fun _ _ => trivial
  · cases found : Operator.ofMnemonic? (peek stop tokens).text with
    | none =>
      refine ⟨_, here, .unknown (.operator sixth (fun _ is => other is.2.1) ?_)⟩
      intro operator written
      rw [written, Operator.ofMnemonic?_mnemonic] at found
      cases found
    | some operator =>
      refine (delivers_readOperand reaches value inside).bind ?_
      rintro ⟨left, _⟩ rfl
      have inside := tail_suffix (tail_suffix inside)
      refine (delivers_readOperand reaches value inside).bind ?_
      rintro ⟨right, _⟩ rfl
      exact (delivers_finish reaches (tail_suffix (tail_suffix inside))).bind fun _ _ => trivial

end

end Grammar
end Blockwork
