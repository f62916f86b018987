import Blockwork.Proofs.Tiling

/-!
# Scanning a line

A line is scanned in rounds. A round looks at the glyph at hand: it passes over white space, takes a
mark, or runs through a word up to a character that ends it. The characters that end a word are
written down apart from the marks, so a round could stand still where the two differ. They do not
differ: there are never more rounds than bytes and one, and they give the tokens of the line, which
are the only ones that tile it.
-/

namespace Blockwork
namespace Token
namespace Scan

/-- The characters other than white space and the begin of a comment that end a word. -/
def breaks : List Char := ['%', '(', ')', ',', ':', '=', '\x7b', '\x7d']

/-- Whether a word ends in front of a character. -/
def leaves (char : Char) : Bool :=
  Text.isSpace char || char = commentStart || breaks.contains char

/-- Where a word ends that reaches at least up to a place with the given glyphs behind it. -/
def wordEnd (place : Nat) : List Glyph → Nat
  | [] => place
  | glyph :: rest => if leaves glyph.char then place else wordEnd (place + glyph.size) rest

/-- One round from a place on: where the next one starts, and what has been taken. There is none at
the end of the line and where a comment begins. -/
def round (line : Bytes) (place : Nat) : Option (Nat × List Token) :=
  match Glyph.list (line.drop place) with
  | [] => none
  | glyph :: others =>
    if glyph.char = commentStart then none
    else if Text.isSpace glyph.char then some (place + glyph.size, [])
    else
      match Mark.ofChar? glyph.char with
      | some mark =>
        let stop := place + glyph.size
        some (stop, [⟨.mark mark, line.slice place stop, place + 1⟩])
      | none =>
        let stop := wordEnd place (glyph :: others)
        some (stop, [⟨.word, line.slice place stop, place + 1⟩])

/-- The tokens from a place on, unless there are more rounds than the given number. -/
def rounds (line : Bytes) : Nat → Nat → Option (List Token)
  | 0, _ => none
  | count + 1, place =>
    match round line place with
    | none => some [⟨.endOfLine, [], line.length + 1⟩]
    | some (next, taken) => (rounds line count next).map (taken ++ ·)

/-- The characters that end a word are the marks. -/
theorem contains_breaks (char : Char) : breaks.contains char = (Mark.ofChar? char).isSome := by
  have same : breaks = Mark.all.map Mark.char := rfl
  rw [same, Mark.ofChar?, Bool.eq_iff_iff]
  simp [List.find?_isSome]

/-- A word ends exactly in front of what belongs to no word. -/
theorem leaves_eq (char : Char) : leaves char = !isPlain char := by
  rw [leaves, isPlain, contains_breaks]
  cases Mark.ofChar? char <;> cases Text.isSpace char <;> simp

theorem wordEnd_append {glyphs : List Glyph} (plain : ∀ glyph ∈ glyphs, isPlain glyph.char = true)
    {rest : Bytes} (bounds : Bounds rest) (place : Nat) :
    wordEnd place (glyphs ++ Glyph.list rest) = place + (Glyph.spell glyphs).length := by
  induction glyphs generalizing place with
  | nil =>
    rw [List.nil_append]
    unfold Bounds at bounds
    cases glyphs : Glyph.list rest with
    | nil => rfl
    | cons glyph others =>
      rw [glyphs] at bounds
      have delimiter : isPlain glyph.char = false := bounds glyph rfl
      rw [wordEnd, leaves_eq, delimiter]
      rfl
  | cons glyph others ih =>
    obtain ⟨first, plain⟩ := List.forall_mem_cons.mp plain
    rw [List.cons_append, wordEnd, leaves_eq, first, if_neg (by decide), ih plain]
    simp [Glyph.spell, Glyph.size, Nat.add_assoc]

theorem slice_of_drop_eq {line piece rest : Bytes} {place : Nat}
    (split : line.drop place = piece ++ rest) :
    line.slice place (place + piece.length) = piece := by
  rw [Bytes.slice, split, Nat.add_sub_cancel_left, List.take_left]

/-- At the end of a line and in front of a comment there is no further round, and there are no
further tokens. Otherwise a round takes a piece of the line that is not empty, and the tokens of the
line are what it has taken and the tokens of the rest. -/
theorem round_cases (line : Bytes) (place : Nat) :
    (round line place = none ∧ ∀ stop,
      lexFrom stop (place + 1) (Glyph.list (line.drop place)) = [⟨.endOfLine, [], stop⟩]) ∨
    ∃ piece rest taken, line.drop place = piece ++ rest ∧ 0 < piece.length ∧
      round line place = some (place + piece.length, taken) ∧
      ∀ stop, lexFrom stop (place + 1) (Glyph.list (line.drop place)) =
        taken ++ lexFrom stop (place + piece.length + 1) (Glyph.list rest) := by
  rw [round]
  cases glyphs : Glyph.list (line.drop place) with
  | nil => exact .inl ⟨rfl, fun _ => rfl⟩
  | cons glyph others =>
    have extent : 0 < glyph.bytes.length :=
      Glyph.size_pos (glyphs ▸ List.mem_cons_self : glyph ∈ Glyph.list (line.drop place))
    obtain ⟨rest, split, listed⟩ := Glyph.exists_of_list_eq_cons glyphs
    have column : place + 1 + glyph.size = place + glyph.bytes.length + 1 :=
      Nat.add_right_comm _ _ _
    dsimp only
    by_cases comment : glyph.char = commentStart
    · refine .inl ⟨if_pos comment, fun stop => ?_⟩
      rw [lexFrom, if_pos comment]
    refine .inr ?_
    rw [if_neg comment]
    by_cases space : Text.isSpace glyph.char = true
    · refine ⟨glyph.bytes, rest, [], split, extent, if_pos space, fun stop => ?_⟩
      rw [lexFrom, if_neg comment]
      dsimp only
      rw [if_pos space, column, listed, List.nil_append]
    rw [if_neg space]
    cases sign : Mark.ofChar? glyph.char with
    | some mark =>
      refine ⟨glyph.bytes, rest, [⟨.mark mark, glyph.bytes, place + 1⟩], split, extent, ?_,
        fun stop => ?_⟩
      · dsimp only
        rw [Glyph.size, slice_of_drop_eq split]
      · rw [lexFrom, if_neg comment]
        dsimp only
        rw [if_neg space, sign, column, listed]
        rfl
    | none =>
      have plain : isPlain glyph.char = true := by simp [isPlain, comment, space, sign]
      obtain ⟨word, rest, split, isWord, bounds⟩ := exists_longest_word glyphs plain
      have parts : glyph :: others = Glyph.list word ++ Glyph.list rest := by
        rw [← glyphs, split, bounds.list_append]
      refine ⟨word, rest, [⟨.word, word, place + 1⟩], split, List.length_pos_of_ne_nil isWord.1, ?_,
        fun stop => ?_⟩
      · dsimp only
        rw [parts, wordEnd_append isWord.2 bounds, Glyph.spell_list, slice_of_drop_eq split]
      · rw [parts, lexFrom_word isWord.list_ne_nil isWord.2 bounds, Glyph.spell_list,
          Nat.add_right_comm]
        rfl

/-- Scanning ends, and gives the tokens of the line. -/
theorem rounds_eq {line : Bytes} {count place : Nat} (inside : place ≤ line.length)
    (enough : line.length < count + place) :
    rounds line count place =
      some (lexFrom (line.length + 1) (place + 1) (Glyph.list (line.drop place))) := by
  induction count generalizing place with
  | zero => omega
  | succ count ih =>
    rw [rounds]
    obtain ⟨last, lexed⟩ | ⟨piece, rest, taken, split, extent, next, lexed⟩ :=
      round_cases line place
    · rw [last, lexed]
    · have length := congrArg List.length split
      rw [List.length_drop, List.length_append] at length
      have behind : line.drop (place + piece.length) = rest := by
        rw [← List.drop_drop, split, List.drop_left]
      rw [next, lexed]
      dsimp only
      rw [ih (by omega) (by omega), behind]
      rfl

end Scan

/-- Scanning a line ends after at most as many rounds as it has bytes, and one. The last token is
the end of the line, behind its last byte; the others tile the line, with something between any two
words, and no other list of tokens tiles it. -/
theorem lex_tiled (line : Bytes) :
    (∀ count, line.length < count → Scan.rounds line count 0 = some (lex line)) ∧
      ∃ tokens, lex line = tokens ++ [⟨.endOfLine, [], line.length + 1⟩] ∧
        Tiles line 0 tokens ∧
        (tokens.Pairwise fun first second =>
          first.kind = .word → second.kind = .word → first.finish < second.start) ∧
        ∀ others, Tiles line 0 others → others = tokens := by
  obtain ⟨tokens, lexed, tiles, only⟩ := exists_tiles line
  refine ⟨fun count enough => ?_, tokens, lexed, tiles, tiles.apart, only⟩
  exact Scan.rounds_eq (Nat.zero_le _) enough

end Token
end Blockwork
