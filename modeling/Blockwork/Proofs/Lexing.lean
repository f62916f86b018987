import Blockwork.Program.Name
import Blockwork.Source.Token
import Mathlib.Tactic.Common

/-!
# Words and marks of a line

How a line falls apart that is put together from words, marks and blanks. A word may be spelled in
any way, as long as it holds no character that ends a word, and stands next to no other word. The
columns of the tokens only serve messages, so they are left out here.
-/

namespace Blockwork

/-! ## Glyphs -/

namespace Glyph

theorem decode?_ascii {byte : UInt8} (ascii : byte.toNat < 0x80) (rest : Bytes) :
    decode? byte rest = some (Char.ofNat byte.toNat, 0) := by
  simp [decode?, ascii]

/-- How a lead byte and the bytes behind it spell a character: by itself, or with as many of them as
its range tells, each of which continues it. -/
inductive Spells (lead : UInt8) : Bytes → Char → Nat → Prop where
  /-- The character has one byte. -/
  | one (range : lead.toNat < 0x80) (rest : Bytes) : Spells lead rest (Char.ofNat lead.toNat) 0
  /-- The character has two bytes. -/
  | two (range : 0xC0 ≤ lead.toNat ∧ lead.toNat < 0xE0) {second : UInt8} {low : Nat} {char : Char}
    (tail : continuation? second = some low)
    (scalar : scalar? 0x80 ((lead.toNat - 0xC0) * 64 + low) = some char) (rest : Bytes) :
    Spells lead (second :: rest) char 1
  /-- The character has three bytes. -/
  | three (range : 0xE0 ≤ lead.toNat ∧ lead.toNat < 0xF0) {second third : UInt8}
    {middle low : Nat} {char : Char}
    (tail : continuation? second = some middle ∧ continuation? third = some low)
    (scalar : scalar? 0x800 (((lead.toNat - 0xE0) * 64 + middle) * 64 + low) = some char)
    (rest : Bytes) : Spells lead (second :: third :: rest) char 2
  /-- The character has four bytes. -/
  | four (range : 0xF0 ≤ lead.toNat ∧ lead.toNat < 0xF8) {second third fourth : UInt8}
    {high middle low : Nat} {char : Char}
    (tail : continuation? second = some high ∧ continuation? third = some middle ∧
      continuation? fourth = some low)
    (scalar : scalar? 0x10000 ((((lead.toNat - 0xF0) * 64 + high) * 64 + middle) * 64 + low) =
      some char)
    (rest : Bytes) : Spells lead (second :: third :: fourth :: rest) char 3

theorem Spells.of_decode? {lead : UInt8} {rest : Bytes} {char : Char} {more : Nat}
    (decoded : decode? lead rest = some (char, more)) : Spells lead rest char more := by
  unfold decode? at decoded
  dsimp only at decoded
  split at decoded
  case isTrue ascii =>
    cases decoded
    exact .one ascii rest
  case isFalse =>
    split at decoded
    case isTrue => cases decoded
    case isFalse notTail =>
      split at decoded
      case isTrue less =>
        rcases rest with _ | ⟨second, rest⟩
        · cases decoded
        · simp only [Option.bind_eq_bind, Option.bind_eq_some_iff] at decoded
          obtain ⟨low, tail, _, scalar, same⟩ := decoded
          cases same
          exact .two ⟨Nat.not_lt.mp notTail, less⟩ tail scalar rest
      case isFalse notTwo =>
        split at decoded
        case isTrue less =>
          rcases rest with _ | ⟨second, _ | ⟨third, rest⟩⟩
          · cases decoded
          · cases decoded
          · simp only [Option.bind_eq_bind, Option.bind_eq_some_iff] at decoded
            obtain ⟨middle, first, low, last, _, scalar, same⟩ := decoded
            cases same
            exact .three ⟨Nat.not_lt.mp notTwo, less⟩ ⟨first, last⟩ scalar rest
        case isFalse notThree =>
          split at decoded
          case isTrue less =>
            rcases rest with _ | ⟨second, _ | ⟨third, _ | ⟨fourth, rest⟩⟩⟩
            · cases decoded
            · cases decoded
            · cases decoded
            · simp only [Option.bind_eq_bind, Option.bind_eq_some_iff] at decoded
              obtain ⟨high, first, middle, next, low, last, _, scalar, same⟩ := decoded
              cases same
              exact .four ⟨Nat.not_lt.mp notThree, less⟩ ⟨first, next, last⟩ scalar rest
          case isFalse => cases decoded

theorem Spells.decode?_eq {lead : UInt8} {rest : Bytes} {char : Char} {more : Nat}
    (spells : Spells lead rest char more) : decode? lead rest = some (char, more) := by
  cases spells with
  | one range => exact decode?_ascii range rest
  | two range tail scalar =>
    have above : ¬ lead.toNat < 0x80 ∧ ¬ lead.toNat < 0xC0 := by omega
    simp [decode?, above, range, tail, scalar]
  | three range tail scalar =>
    have above : ¬ lead.toNat < 0x80 ∧ ¬ lead.toNat < 0xC0 ∧ ¬ lead.toNat < 0xE0 := by omega
    simp [decode?, above, range, tail, scalar]
  | four range tail scalar =>
    have above : ¬ lead.toNat < 0x80 ∧ ¬ lead.toNat < 0xC0 ∧ ¬ lead.toNat < 0xE0 ∧
        ¬ lead.toNat < 0xF0 := by
      omega
    simp [decode?, above, range, tail, scalar]

theorem decode?_length {lead : UInt8} {rest : Bytes} {char : Char} {more : Nat}
    (decoded : decode? lead rest = some (char, more)) : more ≤ rest.length := by
  cases Spells.of_decode? decoded <;> simp

theorem list_cons_ascii {byte : UInt8} (ascii : byte.toNat < 0x80) (rest : Bytes) :
    list (byte :: rest) = ⟨Char.ofNat byte.toNat, [byte]⟩ :: list rest := by
  simp [list, listFrom, decode?_ascii ascii]

/-- Every glyph has a byte. -/
theorem size_pos {text : Bytes} {glyph : Glyph} (member : glyph ∈ list text) : 0 < glyph.size := by
  suffices general : ∀ skip, glyph ∈ listFrom skip text → 0 < glyph.size from general 0 member
  clear member
  induction text with
  | nil => intro skip member; simp [listFrom] at member
  | cons byte rest ih =>
    intro skip member
    cases skip with
    | succ remaining => exact ih remaining member
    | zero =>
      rw [listFrom] at member
      split at member <;> rcases List.mem_cons.mp member with rfl | tail
      · simp [size]
      · exact ih _ tail
      · simp [size]
      · exact ih _ tail

/-- A text that is empty or starts with an ASCII character. -/
def StartsAscii (text : Bytes) : Prop :=
  ∀ byte ∈ text.head?, byte.toNat < 0x80

/-- A text that is empty or starts with a byte that continues no character. -/
def StartsFresh (text : Bytes) : Prop :=
  ∀ byte ∈ text.head?, continuation? byte = none

theorem continuation?_ascii {byte : UInt8} (ascii : byte.toNat < 0x80) :
    continuation? byte = none := by
  have low : ¬ (0x80 ≤ byte ∧ byte < 0xC0) := by
    rw [UInt8.le_iff_toNat_le]
    rintro ⟨high, -⟩
    exact Nat.not_le.mpr ascii high
  rw [continuation?, if_neg low]

theorem StartsAscii.fresh {text : Bytes} (starts : StartsAscii text) : StartsFresh text :=
  fun byte head => continuation?_ascii (starts byte head)

/-- No character reaches into a text whose first byte continues none. -/
theorem decode?_append (lead : UInt8) (rest : Bytes) {tail : Bytes} (starts : StartsFresh tail) :
    decode? lead (rest ++ tail) = decode? lead rest := by
  cases tail with
  | nil => rw [List.append_nil]
  | cons byte others =>
    have cut : continuation? byte = none := starts byte rfl
    unfold decode?
    dsimp only
    split
    · rfl
    · split
      · rfl
      · split
        · rcases rest with _ | ⟨second, rest⟩
          · simp [cut]
          · rfl
        · split
          · rcases rest with _ | ⟨second, _ | ⟨third, rest⟩⟩
            · cases others <;> simp [cut]
            · simp [cut]
            · rfl
          · split
            · rcases rest with _ | ⟨second, _ | ⟨third, _ | ⟨fourth, rest⟩⟩⟩
              · rcases others with _ | ⟨_, _ | ⟨_, _⟩⟩ <;> simp [cut]
              · cases others <;> simp [cut]
              · simp [cut]
              · rfl
            · rfl

theorem list_append (text : Bytes) {tail : Bytes} (starts : StartsFresh tail) :
    list (text ++ tail) = list text ++ list tail := by
  suffices general : ∀ skip, skip ≤ text.length →
      listFrom skip (text ++ tail) = listFrom skip text ++ list tail from
    general 0 (Nat.zero_le _)
  induction text with
  | nil =>
    intro skip short
    obtain rfl : skip = 0 := by simpa using short
    rfl
  | cons byte rest ih =>
    intro skip short
    cases skip with
    | succ remaining => simpa [listFrom] using ih remaining (by simpa using short)
    | zero =>
      simp only [List.cons_append, listFrom, decode?_append byte rest starts]
      cases decoded : decode? byte rest with
      | none => simp [ih 0 (Nat.zero_le _)]
      | some found =>
        obtain ⟨char, more⟩ := found
        have bound := decode?_length decoded
        simp [ih more bound, List.take_append_of_le_length bound]

end Glyph

/-! ## Tokens -/

namespace Token

/-- A token without its column. -/
def shape (token : Token) : TokenKind × Bytes := (token.kind, token.text)

/-- Whether a character belongs to a word. -/
def isPlain (char : Char) : Bool :=
  char ≠ commentStart && !Text.isSpace char && (Mark.ofChar? char).isNone

/-- A text that is one word. -/
def IsWord (text : Bytes) : Prop :=
  text ≠ [] ∧ ∀ glyph ∈ Glyph.list text, isPlain glyph.char = true

/-- A text that cannot continue a word: it is empty or starts with a blank or a mark. -/
def Delimits (text : Bytes) : Prop :=
  ∀ byte ∈ text.head?, byte.toNat < 0x80 ∧ isPlain (Char.ofNat byte.toNat) = false

/-- No word goes on into a text: it is empty, or its first glyph belongs to no word. -/
def Bounds (text : Bytes) : Prop :=
  ∀ glyph ∈ (Glyph.list text).head?, isPlain glyph.char = false

theorem Delimits.bounds {text : Bytes} (delimits : Delimits text) : Bounds text := by
  intro glyph head
  cases text with
  | nil => cases head
  | cons byte rest =>
    obtain ⟨ascii, delimiter⟩ := delimits byte rfl
    rw [Glyph.list_cons_ascii ascii] at head
    obtain rfl := Option.mem_some_iff.mp head
    exact delimiter

/-- A text falls apart into the given tokens, wherever it stands. -/
def Lexes (text : Bytes) (shapes : List (TokenKind × Bytes)) : Prop :=
  ∀ stop column, (lexFrom stop column (Glyph.list text)).map shape = shapes

theorem lexFrom_plain {glyph : Glyph} (plain : isPlain glyph.char = true) (stop column : Nat)
    (rest : List Glyph) :
    lexFrom stop column (glyph :: rest) =
      prependToWord glyph column (lexFrom stop (column + glyph.size) rest) := by
  simp only [isPlain, Bool.and_eq_true, decide_eq_true_eq, Bool.not_eq_true',
    Option.isNone_iff_eq_none] at plain
  obtain ⟨⟨comment, space⟩, mark⟩ := plain
  simp [lexFrom, comment, space, mark]

theorem mem_prependToWord {glyph : Glyph} {column : Nat} {tokens : List Token} {token : Token}
    (member : token ∈ prependToWord glyph column tokens) :
    token.column = column ∨ token ∈ tokens := by
  unfold prependToWord at member
  split at member
  · split at member
    · rcases List.mem_cons.mp member with rfl | tail
      · exact .inl rfl
      · exact .inr (List.mem_cons_of_mem _ tail)
    · rcases List.mem_cons.mp member with rfl | tail
      · exact .inl rfl
      · exact .inr tail
  · rcases List.mem_cons.mp member with rfl | tail
    · exact .inl rfl
    · exact .inr tail

/-- A word starts where its first glyph stands or later. -/
theorem le_column_of_mem {stop column : Nat} {glyphs : List Glyph} {token : Token}
    (member : token ∈ lexFrom stop column glyphs) (word : token.kind = .word) :
    column ≤ token.column := by
  induction glyphs generalizing column with
  | nil =>
    obtain rfl := List.mem_singleton.mp member
    cases word
  | cons glyph rest ih =>
    have later : token ∈ lexFrom stop (column + glyph.size) rest → column ≤ token.column :=
      fun inside => Nat.le_trans (Nat.le_add_right _ _) (ih inside)
    rw [lexFrom] at member
    split at member
    · obtain rfl := List.mem_singleton.mp member
      cases word
    · dsimp only at member
      split at member
      · exact later member
      · split at member
        · rcases List.mem_cons.mp member with rfl | tail
          · cases word
          · exact later tail
        · rcases mem_prependToWord member with same | tail
          · exact Nat.le_of_eq same.symm
          · exact later tail

/-- In front of a text into which no word goes on, a word ends. -/
theorem prependToWord_bounds {text : Bytes} (bounds : Bounds text) (glyph : Glyph)
    (stop column : Nat) :
    prependToWord glyph column (lexFrom stop (column + glyph.size) (Glyph.list text)) =
      ⟨.word, glyph.bytes, column⟩ ::
        lexFrom stop (column + glyph.size) (Glyph.list text) := by
  have apart : ∀ word start others,
      lexFrom stop (column + glyph.size) (Glyph.list text) = ⟨.word, word, start⟩ :: others →
        start ≠ column + glyph.size := by
    intro word start others lexed
    unfold Bounds at bounds
    have extend : ∀ glyph ∈ Glyph.list text, 0 < glyph.size := fun _ => Glyph.size_pos
    cases glyphs : Glyph.list text with
    | nil =>
      rw [glyphs] at lexed
      cases lexed
    | cons first rest =>
      rw [glyphs] at lexed bounds extend
      have delimiter : isPlain first.char = false := bounds first rfl
      rw [lexFrom] at lexed
      split at lexed
      · cases lexed
      · rename_i noComment
        dsimp only at lexed
        split at lexed
        · -- A blank moves everything behind it at least one column on.
          have member : (⟨.word, word, start⟩ : Token) ∈
              lexFrom stop (column + glyph.size + first.size) rest := by
            rw [lexed]
            exact List.mem_cons_self
          have bound := le_column_of_mem member rfl
          have moved := extend first List.mem_cons_self
          dsimp only at bound
          omega
        · rename_i noSpace
          split at lexed
          · cases lexed
          · rename_i noMark
            simp [isPlain, noComment, noSpace, noMark] at delimiter
  unfold prependToWord
  split
  · rename_i word start others lexed
    rw [if_neg (apart word start others lexed), lexed]
  · rfl

/-- A run of glyphs that belong to a word is one word, up to where no word goes on. -/
theorem lexFrom_word {glyphs : List Glyph} (nonempty : glyphs ≠ [])
    (plain : ∀ glyph ∈ glyphs, isPlain glyph.char = true) {text : Bytes}
    (bounds : Bounds text) (stop column : Nat) :
    lexFrom stop column (glyphs ++ Glyph.list text) =
      ⟨.word, Glyph.spell glyphs, column⟩ ::
        lexFrom stop (column + (Glyph.spell glyphs).length) (Glyph.list text) := by
  induction glyphs generalizing column with
  | nil => exact absurd rfl nonempty
  | cons glyph rest ih =>
    have first := plain glyph List.mem_cons_self
    rw [List.cons_append, lexFrom_plain first]
    cases rest with
    | nil =>
      rw [List.nil_append, prependToWord_bounds bounds]
      simp [Glyph.spell, Glyph.size]
    | cons next others =>
      rw [ih (List.cons_ne_nil _ _) fun other member => plain other (List.mem_cons_of_mem _ member)]
      simp [prependToWord, Glyph.spell, Glyph.size, Nat.add_assoc]

theorem lexes_nil : Lexes [] [(.endOfLine, [])] :=
  fun _ _ => rfl

namespace Lexes

variable {rest : Bytes} {shapes : List (TokenKind × Bytes)}

theorem blank (lexes : Lexes rest shapes) : Lexes (32 :: rest) shapes := by
  intro stop column
  rw [Glyph.list_cons_ascii (by decide), lexFrom, if_neg (by decide), if_pos (by decide)]
  exact lexes stop _

theorem mark (lexes : Lexes rest shapes) {byte : UInt8} {mark : Mark}
    (ascii : byte.toNat < 0x80) (sign : Mark.ofChar? (Char.ofNat byte.toNat) = some mark)
    (noSpace : Text.isSpace (Char.ofNat byte.toNat) = false)
    (noComment : Char.ofNat byte.toNat ≠ commentStart) :
    Lexes (byte :: rest) ((.mark mark, [byte]) :: shapes) := by
  intro stop column
  rw [Glyph.list_cons_ascii ascii, lexFrom, if_neg noComment]
  dsimp only
  rw [if_neg (by rw [noSpace]; exact Bool.false_ne_true), sign]
  dsimp only
  rw [List.map_cons, lexes stop]
  rfl

theorem word (lexes : Lexes rest shapes) {text : Bytes} (isWord : IsWord text)
    (delimits : Delimits rest) : Lexes (text ++ rest) ((.word, text) :: shapes) := by
  intro stop column
  have nonempty : Glyph.list text ≠ [] := by
    intro empty
    have spelled := Glyph.spell_list text
    rw [empty] at spelled
    exact isWord.1 spelled.symm
  have starts : Glyph.StartsAscii rest := fun byte head => (delimits byte head).1
  rw [Glyph.list_append text starts.fresh,
    lexFrom_word nonempty isWord.2 delimits.bounds, Glyph.spell_list, List.map_cons, lexes stop]
  rfl

end Lexes

end Token
end Blockwork
