import Blockwork.Proofs.Cutting

/-!
# How tokens tile a line

The tokens of a line are pieces of it, each at the place that its column tells. Between them is
nothing but white space, behind the last one there may be a comment, and no word could be longer on
either side. Only one list of tokens is like that.
-/

namespace Blockwork

/-! ## Characters of one byte -/

/-- The bytes of a mark. -/
def Mark.text (mark : Mark) : Bytes := Bytes.ofChars [mark.char]

theorem Mark.char_of_ofChar? {char : Char} {mark : Mark} (sign : ofChar? char = some mark) :
    mark.char = char := by
  simpa using List.find?_some sign

namespace Glyph

theorem toNat_charOfNat {code : Nat} (valid : code.isValidChar) :
    (Char.ofNat code).toNat = code := by
  rw [Char.ofNat, dif_pos valid]
  rfl

theorem le_toNat_of_scalar? {least code : Nat} {char : Char}
    (spelled : scalar? least code = some char) : least ≤ char.toNat := by
  unfold scalar? at spelled
  split at spelled
  · rename_i fits
    obtain rfl := Option.some.inj spelled
    rw [toNat_charOfNat fits.2]
    exact fits.1
  · cases spelled

/-- A character of one byte is never spelled with more. -/
theorem eq_zero_of_decode?_ascii {lead : UInt8} {rest : Bytes} {char : Char} {more : Nat}
    (decoded : decode? lead rest = some (char, more)) (ascii : char.toNat < 0x80) :
    more = 0 ∧ char.toNat = lead.toNat := by
  cases Spells.of_decode? decoded with
  | one range => exact ⟨rfl, toNat_charOfNat (.inl (by omega))⟩
  | two range tail scalar | three range tail scalar | four range tail scalar =>
    have least := le_toNat_of_scalar? scalar
    omega

/-- A mark is spelled with its one byte. -/
theorem bytes_of_mark {text : Bytes} {glyph : Glyph} {glyphs : List Glyph} {mark : Mark}
    (parts : list text = glyph :: glyphs) (sign : Mark.ofChar? glyph.char = some mark) :
    glyph.bytes = mark.text := by
  have char := Mark.char_of_ofChar? sign
  cases text with
  | nil => cases parts
  | cons lead rest =>
    obtain ⟨_, more, decoded, listed⟩ | ⟨-, listed⟩ := list_cons_cases lead rest
    · obtain ⟨rfl, -⟩ := List.cons.inj (listed.symm.trans parts)
      dsimp only at char
      subst char
      obtain ⟨rfl, code⟩ := eq_zero_of_decode?_ascii decoded (by cases mark <;> decide)
      have byte : mark.text = [UInt8.ofNat mark.char.toNat] := by cases mark <;> rfl
      rw [byte, code, UInt8.ofNat_toNat]
      rfl
    · obtain ⟨rfl, -⟩ := List.cons.inj (listed.symm.trans parts)
      cases mark <;> cases char

end Glyph

namespace Token

/-! ## Tilings -/

/-- The number of bytes of the line in front of a token. -/
def start (token : Token) : Nat := token.column - 1

/-- The number of bytes of the line up to the end of a token. -/
def finish (token : Token) : Nat := token.start + token.text.length

/-- A text of white space only. -/
def IsBlank (text : Bytes) : Prop :=
  ∀ glyph ∈ Glyph.list text, Text.isSpace glyph.char = true

/-- What may stand behind the last token: white space, and then perhaps a comment. -/
def IsTrail (text : Bytes) : Prop :=
  ∃ blank comment, text = blank ++ comment ∧ IsBlank blank ∧
    ∀ glyph ∈ (Glyph.list comment).head?, glyph.char = commentStart

/-- A token that stands in a line is a word or a mark, and has the bytes of one. -/
def IsFormed (token : Token) : Prop :=
  match token.kind with
  | .endOfLine => False
  | .word => IsWord token.text
  | .mark mark => token.text = mark.text

/-- No word comes from a text: it is empty, or its last glyph belongs to no word. -/
def Ended (text : Bytes) : Prop :=
  ∀ glyph ∈ (Glyph.list text).getLast?, isPlain glyph.char = false

/-- What stands from a place on in front of each token. -/
def gaps (line : Bytes) (place : Nat) : List Token → List Bytes
  | [] => []
  | token :: rest => line.slice place token.start :: gaps line token.finish rest

/-- What stands from a place on behind the last token. -/
def behind (line : Bytes) (place : Nat) : List Token → Bytes
  | [] => line.drop place
  | token :: rest => behind line token.finish rest

/-- The tokens of a line from a place on, its end left out. -/
structure Tiles (line : Bytes) (place : Nat) (tokens : List Token) : Prop where
  /-- A token is the piece of the line that starts at its column. -/
  pieces : ∀ token ∈ tokens, 0 < token.column ∧ token.finish ≤ line.length ∧
    line.slice token.start token.finish = token.text
  /-- The tokens start behind the place, and each behind those before it. -/
  order : (∀ token ∈ tokens, place ≤ token.start) ∧ tokens.Pairwise fun first second =>
    first.column < second.column ∧ first.finish ≤ second.start
  /-- In front of the first token and between two of them is nothing but white space. -/
  blank : ∀ gap ∈ gaps line place tokens, IsBlank gap
  /-- Behind the last token there is white space, up to the end or a comment. -/
  trail : IsTrail (behind line place tokens)
  /-- No comment begins in front of a token or inside it. -/
  uncommented : ∀ token ∈ tokens, ∀ glyph ∈ Glyph.list (line.take token.finish),
    glyph.char ≠ commentStart
  /-- A token is a word or a mark. -/
  formed : ∀ token ∈ tokens, token.IsFormed
  /-- Neither the glyph in front of a word nor the one behind it would make it longer. -/
  maximal : ∀ token ∈ tokens, token.kind = .word →
    Ended (line.take token.start) ∧ Bounds (line.drop token.finish)

/-- How the rest of a line is read from a column on: white space, a token, and so forth. -/
inductive Reads : Nat → Bytes → List Token → Prop where
  /-- No further token. -/
  | trail {column : Nat} {text : Bytes} : IsTrail text → Reads column text []
  /-- A token behind white space; into what follows, no word goes on. -/
  | token {column : Nat} {blank after : Bytes} {token : Token} {rest : List Token} :
      IsBlank blank → token.column = column + blank.length → token.IsFormed →
      (token.kind = .word → Bounds after) →
      Reads (token.column + token.text.length) after rest →
      Reads column (blank ++ token.text ++ after) (token :: rest)

theorem isPlain_of_isSpace {char : Char} (space : Text.isSpace char = true) :
    isPlain char = false := by
  simp [isPlain, space]

theorem isPlain_char (mark : Mark) : isPlain mark.char = false := by
  cases mark <;> decide

theorem isPlain_commentStart : isPlain commentStart = false := by
  decide

/-- A byte that stands for no character belongs to a word. -/
theorem isPlain_replacement : isPlain Glyph.replacement = true := by
  decide

theorem ne_replacement_of_isPlain {char : Char} (delimiter : isPlain char = false) :
    char ≠ Glyph.replacement := by
  rintro rfl
  rw [isPlain_replacement] at delimiter
  cases delimiter

theorem Bounds.fresh {text : Bytes} (bounds : Bounds text) : Glyph.StartsFresh text :=
  Glyph.startsFresh_of_complete fun glyph head => ne_replacement_of_isPlain (bounds glyph head)

theorem IsBlank.delimiter {text : Bytes} (blank : IsBlank text) :
    ∀ glyph ∈ Glyph.list text, isPlain glyph.char = false :=
  fun glyph member => isPlain_of_isSpace (blank glyph member)

theorem IsBlank.bounds {text : Bytes} (blank : IsBlank text) : Bounds text :=
  fun glyph head => blank.delimiter glyph (List.mem_of_mem_head? head)

theorem IsBlank.list_append {text : Bytes} (blank : IsBlank text) (tail : Bytes) :
    Glyph.list (text ++ tail) = Glyph.list text ++ Glyph.list tail :=
  Glyph.list_append_of_complete
    (fun glyph member => ne_replacement_of_isPlain (blank.delimiter glyph member)) tail

theorem isBlank_nil : IsBlank [] := by
  intro glyph member
  cases member

theorem list_text (mark : Mark) (rest : Bytes) :
    Glyph.list (mark.text ++ rest) = ⟨mark.char, mark.text⟩ :: Glyph.list rest := by
  cases mark <;> exact Glyph.list_cons_ascii (by decide) rest

theorem list_text_self (mark : Mark) : Glyph.list mark.text = [⟨mark.char, mark.text⟩] := by
  cases mark <;> exact Glyph.list_cons_ascii (by decide) []

theorem Bounds.list_append {tail : Bytes} (bounds : Bounds tail) (text : Bytes) :
    Glyph.list (text ++ tail) = Glyph.list text ++ Glyph.list tail :=
  Glyph.list_append text bounds.fresh

theorem IsWord.list_ne_nil {text : Bytes} (word : IsWord text) : Glyph.list text ≠ [] := by
  intro empty
  have spelled := Glyph.spell_list text
  rw [empty] at spelled
  exact word.1 spelled.symm

/-! ## Reading gives the tokens -/

/-- White space is skipped. -/
theorem lexFrom_blank {glyphs : List Glyph}
    (blank : ∀ glyph ∈ glyphs, Text.isSpace glyph.char = true) (stop column : Nat)
    (rest : List Glyph) :
    lexFrom stop column (glyphs ++ rest) =
      lexFrom stop (column + (Glyph.spell glyphs).length) rest := by
  induction glyphs generalizing column with
  | nil => rfl
  | cons glyph others ih =>
    obtain ⟨space, blank⟩ := List.forall_mem_cons.mp blank
    have comment : glyph.char ≠ commentStart := by
      intro same
      rw [same] at space
      exact absurd space (by decide)
    rw [List.cons_append, lexFrom, if_neg comment]
    dsimp only
    rw [if_pos space, ih blank]
    simp [Glyph.spell, Glyph.size, Nat.add_assoc]

theorem lexFrom_trail {text : Bytes} (trail : IsTrail text) (stop column : Nat) :
    lexFrom stop column (Glyph.list text) = [⟨.endOfLine, [], stop⟩] := by
  obtain ⟨blank, comment, rfl, isBlank, begun⟩ := trail
  rw [isBlank.list_append, lexFrom_blank isBlank]
  cases glyphs : Glyph.list comment with
  | nil => rfl
  | cons glyph rest =>
    have first : glyph.char = commentStart := begun glyph (by rw [glyphs]; rfl)
    rw [lexFrom, if_pos first]

theorem lexFrom_mark (mark : Mark) (stop column : Nat) (rest : Bytes) :
    lexFrom stop column (Glyph.list (mark.text ++ rest)) =
      ⟨.mark mark, mark.text, column⟩ ::
        lexFrom stop (column + mark.text.length) (Glyph.list rest) := by
  have comment : mark.char ≠ commentStart := by cases mark <;> decide
  have space : Text.isSpace mark.char ≠ true := by cases mark <;> decide
  rw [list_text, lexFrom, if_neg comment]
  dsimp only
  rw [if_neg space, Mark.ofChar?_char]
  rfl

/-- A line has the tokens as which it is read. -/
theorem Reads.lexFrom_eq {column : Nat} {text : Bytes} {tokens : List Token}
    (reads : Reads column text tokens) (stop : Nat) :
    lexFrom stop column (Glyph.list text) = tokens ++ [⟨.endOfLine, [], stop⟩] := by
  induction reads with
  | trail trail => exact lexFrom_trail trail stop _
  | @token column blank after token rest isBlank place formed bounds _ ih =>
    obtain ⟨kind, text, start⟩ := token
    dsimp only at place ih ⊢
    have size := Glyph.spell_list blank
    rw [List.append_assoc, isBlank.list_append, lexFrom_blank isBlank, size, ← place]
    cases kind with
    | endOfLine => cases formed
    | mark mark =>
      obtain rfl : text = mark.text := formed
      rw [lexFrom_mark, ih]
      rfl
    | word =>
      have word : IsWord text := formed
      rw [(bounds rfl).list_append, lexFrom_word word.list_ne_nil word.2 (bounds rfl),
        Glyph.spell_list, ih]
      rfl

/-! ## Every line is read -/

theorem IsBlank.append {first second : Bytes} (blank : IsBlank first) (blank' : IsBlank second) :
    IsBlank (first ++ second) := by
  intro glyph member
  rw [blank.list_append, List.mem_append] at member
  exact member.elim (blank glyph) (blank' glyph)

/-- White space in front of a line changes its columns only. -/
theorem Reads.behind_blank {column : Nat} {blank text : Bytes} {tokens : List Token}
    (isBlank : IsBlank blank) (reads : Reads (column + blank.length) text tokens) :
    Reads column (blank ++ text) tokens := by
  cases reads with
  | trail trail =>
    obtain ⟨more, comment, rfl, isBlank', begun⟩ := trail
    exact .trail ⟨blank ++ more, comment, (List.append_assoc _ _ _).symm, isBlank.append isBlank',
      begun⟩
  | @token _ more after token rest isBlank' place formed bounds reads =>
    have parts : blank ++ (more ++ token.text ++ after) =
        (blank ++ more) ++ token.text ++ after := by
      simp only [List.append_assoc]
    rw [parts]
    refine .token (isBlank.append isBlank') ?_ formed bounds reads
    rw [place, List.length_append, Nat.add_assoc]

theorem Reads.behind_mark {column : Nat} {text : Bytes} {tokens : List Token} {mark : Mark}
    (reads : Reads (column + mark.text.length) text tokens) :
    Reads column (mark.text ++ text) (⟨.mark mark, mark.text, column⟩ :: tokens) :=
  @Reads.token column [] text ⟨.mark mark, mark.text, column⟩ tokens isBlank_nil rfl rfl nofun reads

theorem Reads.behind_word {column : Nat} {word text : Bytes} {tokens : List Token}
    (isWord : IsWord word) (bounds : Bounds text)
    (reads : Reads (column + word.length) text tokens) :
    Reads column (word ++ text) (⟨.word, word, column⟩ :: tokens) :=
  @Reads.token column [] text ⟨.word, word, column⟩ tokens isBlank_nil rfl isWord (fun _ => bounds)
    reads

/-- A text whose first glyph belongs to a word starts with a word that no glyph would make
longer. -/
theorem exists_longest_word {text : Bytes} {glyph : Glyph} {others : List Glyph}
    (glyphs : Glyph.list text = glyph :: others) (plain : isPlain glyph.char = true) :
    ∃ word rest, text = word ++ rest ∧ IsWord word ∧ Bounds rest := by
  let belongs : Glyph → Bool := fun glyph => isPlain glyph.char
  have parts : Glyph.list text =
      (Glyph.list text).takeWhile belongs ++ (Glyph.list text).dropWhile belongs :=
    List.takeWhile_append_dropWhile.symm
  obtain ⟨rest, split, listed⟩ := Glyph.exists_of_list_eq_append parts
  have first : Glyph.list (Glyph.spell ((Glyph.list text).takeWhile belongs)) =
      (Glyph.list text).takeWhile belongs := Glyph.list_spell parts
  refine ⟨_, rest, split, ⟨?_, ?_⟩, ?_⟩
  · intro empty
    have begun : glyph ∈ (Glyph.list text).takeWhile belongs := by
      rw [glyphs, List.takeWhile_cons_of_pos (p := belongs) plain]
      exact List.mem_cons_self
    rw [empty] at first
    rw [← first] at begun
    cases begun
  · intro member inside
    rw [first] at inside
    exact List.all_eq_true.mp List.all_takeWhile member inside
  · intro next head
    rw [listed] at head
    have stops := List.head?_dropWhile_not belongs (Glyph.list text)
    rw [head] at stops
    simpa [belongs] using stops

/-- Every text is read in some way, whether it starts with white space, with a comment, with a mark
or with a word. -/
theorem exists_reads (column : Nat) (text : Bytes) : ∃ tokens, Reads column text tokens := by
  induction size : text.length using Nat.strong_induction_on generalizing column text with
  | h size ih =>
    subst size
    cases glyphs : Glyph.list text with
    | nil =>
      refine ⟨[], .trail ⟨[], text, rfl, isBlank_nil, fun glyph head => ?_⟩⟩
      rw [glyphs] at head
      cases head
    | cons glyph others =>
      have extent : 0 < glyph.bytes.length :=
        Glyph.size_pos (glyphs ▸ List.mem_cons_self : glyph ∈ Glyph.list text)
      by_cases comment : glyph.char = commentStart
      · refine ⟨[], .trail ⟨[], text, rfl, isBlank_nil, fun first head => ?_⟩⟩
        rw [glyphs] at head
        obtain rfl := Option.mem_some_iff.mp head
        exact comment
      by_cases space : Text.isSpace glyph.char = true
      · obtain ⟨rest, rfl, -⟩ := Glyph.exists_of_list_eq_cons glyphs
        have isBlank : IsBlank glyph.bytes := by
          have alone : Glyph.list (Glyph.spell [glyph]) = [glyph] := Glyph.list_spell glyphs
          rw [Glyph.spell, List.flatMap_singleton] at alone
          intro first member
          rw [alone, List.mem_singleton] at member
          exact member ▸ space
        obtain ⟨tokens, reads⟩ := ih _ (by rw [List.length_append]; omega)
          (column + glyph.bytes.length) rest rfl
        exact ⟨tokens, reads.behind_blank isBlank⟩
      cases sign : Mark.ofChar? glyph.char with
      | some mark =>
        obtain ⟨rest, rfl, -⟩ := Glyph.exists_of_list_eq_cons glyphs
        rw [Glyph.bytes_of_mark glyphs sign] at extent ih ⊢
        obtain ⟨tokens, reads⟩ := ih _ (by rw [List.length_append]; omega)
          (column + mark.text.length) rest rfl
        exact ⟨_, reads.behind_mark⟩
      | none =>
        have plain : isPlain glyph.char = true := by simp [isPlain, comment, space, sign]
        obtain ⟨word, rest, rfl, isWord, bounds⟩ := exists_longest_word glyphs plain
        have extent := List.length_pos_of_ne_nil isWord.1
        obtain ⟨tokens, reads⟩ := ih _ (by rw [List.length_append]; omega)
          (column + word.length) rest rfl
        exact ⟨_, reads.behind_word isWord bounds⟩

/-! ## Tilings are readings -/

variable {line : Bytes} {place : Nat} {token : Token} {tokens : List Token}

theorem column_eq (positive : 0 < token.column) : token.column = token.start + 1 :=
  (Nat.sub_add_cancel positive).symm

theorem Tiles.tail (tiles : Tiles line place (token :: tokens)) :
    Tiles line token.finish tokens where
  pieces := (List.forall_mem_cons.mp tiles.pieces).2
  order :=
    have rising := List.pairwise_cons.mp tiles.order.2
    ⟨fun second member => (rising.1 second member).2, rising.2⟩
  blank := (List.forall_mem_cons.mp tiles.blank).2
  trail := tiles.trail
  uncommented := (List.forall_mem_cons.mp tiles.uncommented).2
  formed := (List.forall_mem_cons.mp tiles.formed).2
  maximal := (List.forall_mem_cons.mp tiles.maximal).2

/-- A line is read as the tokens that tile it. -/
theorem Tiles.reads (tiles : Tiles line place tokens) :
    Reads (place + 1) (line.drop place) tokens := by
  induction tokens generalizing place with
  | nil => exact .trail tiles.trail
  | cons token rest ih =>
    obtain ⟨positive, inside, piece⟩ := tiles.pieces token List.mem_cons_self
    have begins : place ≤ token.start := tiles.order.1 token List.mem_cons_self
    have ends : token.start ≤ token.finish := Nat.le_add_right _ _
    have parts : line.drop place =
        line.slice place token.start ++ token.text ++ line.drop token.finish := by
      rw [← line.slice_append_drop begins, ← line.slice_append_drop ends, piece, List.append_assoc]
    have gap : (line.slice place token.start).length = token.start - place :=
      Bytes.length_slice (Nat.le_trans ends inside)
    have column := column_eq positive
    have next : token.column + token.text.length = token.finish + 1 := by
      rw [column, finish, Nat.add_right_comm]
    rw [parts]
    refine .token (List.forall_mem_cons.mp tiles.blank).1 (by omega)
      (tiles.formed token List.mem_cons_self)
      (fun word => (tiles.maximal token List.mem_cons_self word).2) ?_
    rw [next]
    exact ih tiles.tail

/-! ## Readings are tilings -/

theorem Ended.list_append {text : Bytes} (ended : Ended text) (tail : Bytes) :
    Glyph.list (text ++ tail) = Glyph.list text ++ Glyph.list tail :=
  Glyph.list_append_of_getLast? (fun glyph last => ne_replacement_of_isPlain (ended glyph last)) tail

theorem bounds_text (mark : Mark) : Bounds mark.text := by
  intro glyph head
  rw [list_text_self] at head
  obtain rfl := Option.mem_some_iff.mp head
  exact isPlain_char mark

/-- A mark ends whatever word there was. -/
theorem ended_append_mark (text : Bytes) (mark : Mark) : Ended (text ++ mark.text) := by
  intro glyph last
  rw [(bounds_text mark).list_append, list_text_self] at last
  obtain rfl : _ = glyph := Option.some.inj (List.getLast?_concat.symm.trans last)
  exact isPlain_char mark

/-- White space ends whatever word there was. If there is none, what stands behind does not begin as
a word, or what stands in front does not end as one. -/
theorem ended_append_blank {before blank word after : Bytes} (isBlank : IsBlank blank)
    (isWord : IsWord word) (bounds : Bounds after)
    (ended : Ended before ∨ Bounds (blank ++ word ++ after)) : Ended (before ++ blank) := by
  intro glyph last
  rw [isBlank.bounds.list_append, List.getLast?_append] at last
  cases spaces : (Glyph.list blank).getLast? with
  | some space =>
    rw [spaces] at last
    obtain rfl : space = glyph := Option.some.inj last
    exact isBlank.delimiter space (List.mem_of_getLast? spaces)
  | none =>
    rw [spaces] at last
    refine ended.elim (fun ended => ended glyph last) fun begins => ?_
    obtain ⟨first, others, begun⟩ := List.exists_cons_of_ne_nil isWord.list_ne_nil
    have none : Glyph.list blank = [] := List.getLast?_eq_none_iff.mp spaces
    have delimiter := begins first (by
      rw [List.append_assoc, isBlank.list_append, bounds.list_append, none, begun]
      rfl)
    rw [isWord.2 first (begun ▸ List.mem_cons_self)] at delimiter
    cases delimiter

theorem IsFormed.isWord (formed : token.IsFormed) (word : token.kind = .word) :
    IsWord token.text := by
  rw [IsFormed, word] at formed
  exact formed

theorem IsFormed.length_pos (formed : token.IsFormed) : 0 < token.text.length := by
  obtain ⟨kind, text, column⟩ := token
  cases kind with
  | endOfLine => cases formed
  | word => exact List.length_pos_of_ne_nil (formed : IsWord text).1
  | mark mark =>
    obtain rfl : text = mark.text := formed
    cases mark <;> exact Nat.zero_lt_one

/-- No comment begins inside a token. -/
theorem IsFormed.uncommented (formed : token.IsFormed) :
    ∀ glyph ∈ Glyph.list token.text, glyph.char ≠ commentStart := by
  obtain ⟨kind, text, column⟩ := token
  intro glyph member same
  cases kind with
  | endOfLine => cases formed
  | word =>
    have plain := (formed : IsWord text).2 glyph member
    rw [same, isPlain_commentStart] at plain
    cases plain
  | mark mark =>
    obtain rfl : text = mark.text := formed
    rw [list_text_self, List.mem_singleton] at member
    subst member
    cases mark <;> cases same

/-- Where a token starts, decoding starts anew. -/
theorem IsFormed.list_append (formed : token.IsFormed) {front : Bytes}
    (ended : token.kind = .word → Ended front) :
    Glyph.list (front ++ token.text) = Glyph.list front ++ Glyph.list token.text := by
  obtain ⟨kind, text, column⟩ := token
  cases kind with
  | endOfLine => cases formed
  | word => exact (ended rfl).list_append text
  | mark mark =>
    obtain rfl : text = mark.text := formed
    exact (bounds_text mark).list_append front

/-- No word reaches across the end of a token. -/
theorem IsFormed.ended_or (formed : token.IsFormed) {after : Bytes}
    (bounds : token.kind = .word → Bounds after) (front : Bytes) :
    Ended (front ++ token.text) ∨ Bounds after := by
  obtain ⟨kind, text, column⟩ := token
  cases kind with
  | endOfLine => cases formed
  | word => exact .inr (bounds rfl)
  | mark mark =>
    obtain rfl : text = mark.text := formed
    exact .inl (ended_append_mark front mark)

theorem IsBlank.uncommented {text : Bytes} (blank : IsBlank text) :
    ∀ glyph ∈ Glyph.list text, glyph.char ≠ commentStart := by
  intro glyph member same
  have space := blank glyph member
  rw [same] at space
  exact absurd space (by decide)

theorem Tiles.nil (trail : IsTrail (line.drop place)) : Tiles line place [] where
  pieces := nofun
  order := ⟨nofun, .nil⟩
  blank := nofun
  trail := trail
  uncommented := nofun
  formed := nofun
  maximal := nofun

theorem Tiles.cons (tiles : Tiles line token.finish tokens) (positive : 0 < token.column)
    (inside : token.finish ≤ line.length)
    (piece : line.slice token.start token.finish = token.text) (begins : place ≤ token.start)
    (blank : IsBlank (line.slice place token.start)) (formed : token.IsFormed)
    (uncommented : ∀ glyph ∈ Glyph.list (line.take token.finish), glyph.char ≠ commentStart)
    (maximal : token.kind = .word →
      Ended (line.take token.start) ∧ Bounds (line.drop token.finish)) :
    Tiles line place (token :: tokens) where
  pieces := List.forall_mem_cons.mpr ⟨⟨positive, inside, piece⟩, tiles.pieces⟩
  order := by
    have extent := formed.length_pos
    refine ⟨List.forall_mem_cons.mpr ⟨begins, fun second member => ?_⟩,
      List.pairwise_cons.mpr ⟨fun second member => ?_, tiles.order.2⟩⟩
    · have later := tiles.order.1 second member
      unfold finish at later
      omega
    · have later := tiles.order.1 second member
      have column := column_eq positive
      have column' := column_eq (tiles.pieces second member).1
      refine ⟨?_, later⟩
      unfold finish at later
      omega
  blank := List.forall_mem_cons.mpr ⟨blank, tiles.blank⟩
  trail := tiles.trail
  uncommented := List.forall_mem_cons.mpr ⟨uncommented, tiles.uncommented⟩
  formed := List.forall_mem_cons.mpr ⟨formed, tiles.formed⟩
  maximal := List.forall_mem_cons.mpr ⟨maximal, tiles.maximal⟩

/-- The tokens as which a line is read tile it. What stands in front of the place where reading
starts must not be a comment, and no word may reach across that place. -/
theorem Reads.tiles {column : Nat} {text : Bytes} (reads : Reads column text tokens)
    (before : Bytes) (place : column = before.length + 1)
    (uncommented : ∀ glyph ∈ Glyph.list before, glyph.char ≠ commentStart)
    (ended : Ended before ∨ Bounds text) : Tiles (before ++ text) before.length tokens := by
  induction reads generalizing before with
  | trail trail => exact .nil (by rwa [List.drop_left])
  | @token column blank after token rest isBlank behind formed bounds _ ih =>
    subst place
    obtain ⟨front, front_eq⟩ : ∃ front, front = before ++ blank := ⟨_, rfl⟩
    obtain ⟨done, done_eq⟩ : ∃ done, done = front ++ token.text := ⟨_, rfl⟩
    have line : before ++ (blank ++ token.text ++ after) = done ++ after := by
      simp only [done_eq, front_eq, List.append_assoc]
    have ended' : token.kind = .word → Ended front := fun word => by
      rw [front_eq]
      exact ended_append_blank isBlank (formed.isWord word) (bounds word) ended
    have glyphs : Glyph.list done =
        Glyph.list before ++ Glyph.list blank ++ Glyph.list token.text := by
      rw [done_eq, formed.list_append ended', front_eq, isBlank.bounds.list_append]
    have uncommented' : ∀ glyph ∈ Glyph.list done, glyph.char ≠ commentStart := by
      rw [glyphs, List.forall_mem_append, List.forall_mem_append]
      exact ⟨⟨uncommented, isBlank.uncommented⟩, formed.uncommented⟩
    have ended'' : Ended done ∨ Bounds after := done_eq ▸ formed.ended_or bounds front
    have start : token.start = front.length := by
      rw [Token.start, behind, front_eq, List.length_append]
      omega
    have finish : token.finish = done.length := by
      rw [Token.finish, start, done_eq, List.length_append]
    have place : token.column + token.text.length = done.length + 1 := by
      have positive : 0 < token.column := by omega
      rw [← finish, Token.finish, column_eq positive]
      omega
    have tiles := ih done place uncommented' ended''
    rw [← finish] at tiles
    have taken : (done ++ after).take token.start = front := by
      rw [start, done_eq, List.append_assoc, List.take_left]
    rw [line]
    refine tiles.cons (by omega) ?_ ?_ ?_ ?_ formed ?_ ?_
    · rw [finish, List.length_append]
      exact Nat.le_add_right _ _
    · rw [start, finish, done_eq]
      exact Bytes.slice_append front token.text after
    · rw [start, front_eq, List.length_append]
      exact Nat.le_add_right _ _
    · rw [start, done_eq, front_eq, List.append_assoc, Bytes.slice_append]
      exact isBlank
    · rw [finish, List.take_left]
      exact uncommented'
    · intro word
      rw [taken, finish, List.drop_left]
      exact ⟨ended' word, bounds word⟩

/-- Between two words there is always something. -/
theorem Tiles.apart (tiles : Tiles line place tokens) :
    tokens.Pairwise fun first second =>
      first.kind = .word → second.kind = .word → first.finish < second.start := by
  refine tiles.order.2.imp_of_mem fun {first second} member member' rising word word' => ?_
  refine Nat.lt_of_le_of_ne rising.2 fun touching => ?_
  -- Otherwise the second word would go on where the first one ends.
  have bounds := (tiles.maximal first member word).2
  have bounds' := (tiles.maximal second member' word').2
  have isWord := (tiles.formed second member').isWord word'
  have parts : line.drop first.finish = second.text ++ line.drop second.finish := by
    have split := line.slice_append_drop (Nat.le_add_right second.start second.text.length)
    rw [← (tiles.pieces second member').2.2, touching]
    exact split.symm
  obtain ⟨glyph, others, glyphs⟩ := List.exists_cons_of_ne_nil isWord.list_ne_nil
  have delimiter := bounds glyph (by
    rw [parts, bounds'.list_append, glyphs]
    rfl)
  rw [isWord.2 glyph (glyphs ▸ List.mem_cons_self)] at delimiter
  cases delimiter

/-- The tokens of a line tile it, and no others do. -/
theorem exists_tiles (line : Bytes) :
    ∃ tokens, lex line = tokens ++ [⟨.endOfLine, [], line.length + 1⟩] ∧ Tiles line 0 tokens ∧
      ∀ others, Tiles line 0 others → others = tokens := by
  obtain ⟨tokens, reads⟩ := exists_reads 1 line
  have lexed := reads.lexFrom_eq (line.length + 1)
  refine ⟨tokens, lexed, reads.tiles [] rfl nofun (.inl nofun), fun others tiles => ?_⟩
  have again := tiles.reads.lexFrom_eq (line.length + 1)
  exact List.append_cancel_right (again.symm.trans lexed)

end Token
end Blockwork
