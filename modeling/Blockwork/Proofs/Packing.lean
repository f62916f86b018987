import Blockwork.MessagePack
import Mathlib.Tactic.Common
import Mathlib.Tactic.IntervalCases
import Mathlib.Tactic.Ring

/-!
# Packed values read back

What is written of a packed value is read back as that value, and what follows it is left alone. All
that is asked is that its numbers fit the sizes they are given and that its lengths fit four bytes.
-/

namespace Blockwork
namespace Packed

/-! ## Numbers -/

theorem length_bigEndian (count value : Nat) : (Bytes.bigEndian count value).length = count := by
  simp [Bytes.bigEndian]

theorem foldl_number (bytes : Bytes) (start : Nat) :
    bytes.foldl (fun value byte => value * 256 + byte.toNat) start =
      start * Nat.pow 256 bytes.length + number bytes := by
  induction bytes generalizing start with
  | nil => simp [number]
  | cons byte rest ih =>
    rw [number, List.foldl_cons, List.foldl_cons, ih, ih]
    simp only [List.length_cons, Nat.pow_eq, Nat.pow_succ]
    ring

theorem number_cons (byte : UInt8) (rest : Bytes) :
    number (byte :: rest) = byte.toNat * Nat.pow 256 rest.length + number rest := by
  rw [number, List.foldl_cons, foldl_number]
  simp

/-- The bytes of a number spell what fits in them. -/
theorem number_bigEndian (count value : Nat) :
    number (Bytes.bigEndian count value) = value % Nat.pow 256 count := by
  induction count with
  | zero => simp [Bytes.bigEndian, number, Nat.mod_one]
  | succ count ih =>
    have split : Bytes.bigEndian (count + 1) value =
        UInt8.ofNat (value / Nat.pow 256 count) :: Bytes.bigEndian count value := by
      simp [Bytes.bigEndian, List.range_succ]
    have digit : (UInt8.ofNat (value / Nat.pow 256 count)).toNat = value / Nat.pow 256 count % 256 :=
      UInt8.toNat_ofNat'
    rw [split, number_cons, ih, length_bigEndian, digit]
    simp only [Nat.pow_eq, Nat.mod_pow_succ]
    ring

theorem number_bigEndian_of_lt {count value : Nat} (fits : value < Nat.pow 256 count) :
    number (Bytes.bigEndian count value) = value := by
  rw [number_bigEndian, Nat.mod_eq_of_lt fits]

/-- A signed number that fits is read back. -/
theorem integer_bigEndian {count bound : Nat} {value : Int} (size : Nat.pow 256 count = bound)
    (least : -(bound : Int) ≤ 2 * value) (most : 2 * value < bound) :
    integer (Bytes.bigEndian count (value % (bound : Int)).toNat) = value := by
  have positive : 0 < bound := by
    rw [← size]
    exact Nat.pow_pos (by decide)
  have digits : number (Bytes.bigEndian count (value % (bound : Int)).toNat) =
      (value % (bound : Int)).toNat := by
    apply number_bigEndian_of_lt
    rw [size]
    have below := Int.emod_lt_of_pos value (show (0 : Int) < bound by omega)
    omega
  simp only [integer, digits, length_bigEndian, size]
  by_cases negative : value < 0
  · have wrapped : value % (bound : Int) = value + bound := by
      rw [← Int.add_emod_right]
      exact Int.emod_eq_of_lt (by omega) (by omega)
    rw [wrapped]
    split <;> omega
  · have kept : value % (bound : Int) = value := Int.emod_eq_of_lt (by omega) (by omega)
    rw [kept]
    split <;> omega

/-! ## Pieces -/

theorem take?_append {count : Nat} {bytes : Bytes} (length : bytes.length = count) (rest : Bytes) :
    take? count (bytes ++ rest) = some (bytes, rest) := by
  subst length
  simp [take?]

theorem takeNumber?_bigEndian {count value : Nat} (fits : value < Nat.pow 256 count)
    (rest : Bytes) :
    takeNumber? count (Bytes.bigEndian count value ++ rest) = some (value, rest) := by
  rw [takeNumber?, take?_append (length_bigEndian count value)]
  simp [number_bigEndian_of_lt fits]

theorem takeString?_append {count : Nat} {bytes : Bytes} (fits : bytes.length < Nat.pow 256 count)
    (rest : Bytes) :
    takeString? count (Bytes.bigEndian count bytes.length ++ (bytes ++ rest)) =
      some (bytes, rest) := by
  rw [takeString?, takeNumber?_bigEndian fits]
  exact take?_append rfl rest

/-! ## Values -/

mutual

/-- Whether the numbers and lengths in a value fit the form they are written in. -/
def Sized : Packed → Prop
  | .nil => True
  | .bool _ => True
  | .small byte => byte.toNat < 0x80 ∨ 0xE0 ≤ byte.toNat
  | .unsigned size value => size < 4 ∧ value < Nat.pow 256 (Nat.pow 2 size)
  | .signed size value =>
    size < 4 ∧ -(Nat.pow 256 (Nat.pow 2 size) : Nat) ≤ 2 * value ∧
      2 * value < (Nat.pow 256 (Nat.pow 2 size) : Nat)
  | .float size bits => (size = 2 ∨ size = 3) ∧ bits < Nat.pow 256 (Nat.pow 2 size)
  | .text bytes => bytes.length < 0x100000000
  | .binary bytes => bytes.length < 0x100000000
  | .array items => items.length < 0x100000000 ∧ SizedAll items
  | .map items =>
    items.length % 2 = 0 ∧ items.length / 2 < 0x100000000 ∧ SizedAll items
  | .extension _ bytes => bytes.length < 0x100000000

/-- Whether values fit the forms they are written in. -/
def SizedAll : List Packed → Prop
  | [] => True
  | item :: rest => item.Sized ∧ SizedAll rest

end

theorem sizedAll_iff {items : List Packed} : SizedAll items ↔ ∀ item ∈ items, item.Sized := by
  induction items with
  | nil => simp [SizedAll]
  | cons item rest ih => simp [SizedAll, ih]

/-- A code that announces a value other than a list or map, what follows the code, and that the
value is read from there. -/
def ReadsLeaf (written : Bytes) (value : Packed) (rest : Bytes) : Prop :=
  ∃ code tail, written = code :: tail ∧ listOf? code tail = none ∧
    leaf? code tail = some (value, rest)

theorem ReadsLeaf.of_code {code : UInt8} {tail : Bytes} {value : Packed} {rest : Bytes}
    (single : listOf? code tail = none) (read : leaf? code tail = some (value, rest)) :
    ReadsLeaf (code :: tail) value rest :=
  ⟨code, tail, rfl, single, read⟩

theorem listOf?_eq_none {code : UInt8} (outside : code.toNat < 0x80 ∨
    0xA0 ≤ code.toNat ∧ code.toNat < 0xDC ∨ 0xE0 ≤ code.toNat) (rest : Bytes) :
    listOf? code rest = none := by
  have differs : ∀ other : UInt8, code.toNat ≠ other.toNat → code ≠ other := by
    rintro other ne rfl
    exact ne rfl
  have map : ¬ (0x80 ≤ code ∧ code < 0x90) := by
    rw [UInt8.le_iff_toNat_le, UInt8.lt_iff_toNat_lt]
    change ¬ (128 ≤ code.toNat ∧ code.toNat < 144)
    omega
  have array : ¬ (0x90 ≤ code ∧ code < 0xA0) := by
    rw [UInt8.le_iff_toNat_le, UInt8.lt_iff_toNat_lt]
    change ¬ (144 ≤ code.toNat ∧ code.toNat < 160)
    omega
  have array16 : code ≠ 0xDC := differs _ (by change code.toNat ≠ 220; omega)
  have array32 : code ≠ 0xDD := differs _ (by change code.toNat ≠ 221; omega)
  have map16 : code ≠ 0xDE := differs _ (by change code.toNat ≠ 222; omega)
  have map32 : code ≠ 0xDF := differs _ (by change code.toNat ≠ 223; omega)
  simp only [listOf?, if_neg map, if_neg array, if_neg array16, if_neg array32, if_neg map16,
    if_neg map32]

theorem readsLeaf_small {byte : UInt8} (small : byte.toNat < 0x80 ∨ 0xE0 ≤ byte.toNat)
    (rest : Bytes) : ReadsLeaf (byte :: rest) (.small byte) rest := by
  apply ReadsLeaf.of_code
  · exact listOf?_eq_none (by omega) rest
  · have code : byte < 0x80 ∨ 0xE0 ≤ byte := by
      rw [UInt8.lt_iff_toNat_lt, UInt8.le_iff_toNat_le]
      exact small
    rw [leaf?, if_pos code]

/-- A length in one, two or four bytes. -/
theorem longLength_cases (code : UInt8) {length : Nat} (fits : length < 0x100000000) :
    (longLength code length = code :: Bytes.bigEndian 1 length ∧ length < Nat.pow 256 1) ∨
      (longLength code length = (code + 1) :: Bytes.bigEndian 2 length ∧
        length < Nat.pow 256 2) ∨
      (longLength code length = (code + 2) :: Bytes.bigEndian 4 length ∧
        length < Nat.pow 256 4) := by
  unfold longLength
  by_cases byte : length < 0x100
  · exact .inl ⟨if_pos byte, byte⟩
  · by_cases word : length < 0x10000
    · exact .inr (.inl ⟨by rw [if_neg byte, if_pos word], word⟩)
    · exact .inr (.inr ⟨by rw [if_neg byte, if_neg word], fits⟩)

theorem readsLeaf_text {bytes : Bytes} (fits : bytes.length < 0x100000000) (rest : Bytes) :
    ReadsLeaf (textHead bytes.length ++ (bytes ++ rest)) (.text bytes) rest := by
  by_cases short : bytes.length < 32
  · have code : (0xA0 + UInt8.ofNat bytes.length).toNat = 160 + bytes.length := by
      rw [UInt8.toNat_add, UInt8.toNat_ofNat']
      change (160 + bytes.length % 256) % 256 = _
      omega
    refine ⟨0xA0 + UInt8.ofNat bytes.length, bytes ++ rest, ?_, ?_, ?_⟩
    · simp [textHead, short]
    · exact listOf?_eq_none (by omega) _
    · generalize 0xA0 + UInt8.ofNat bytes.length = lead at code
      have small : ¬ (lead < 0x80 ∨ 0xE0 ≤ lead) := by
        rw [UInt8.lt_iff_toNat_lt, UInt8.le_iff_toNat_le]
        change ¬ (lead.toNat < 128 ∨ 224 ≤ lead.toNat)
        omega
      have list : ¬ lead < 0xA0 := by
        rw [UInt8.lt_iff_toNat_lt]
        change ¬ lead.toNat < 160
        omega
      have text : lead < 0xC0 := by
        rw [UInt8.lt_iff_toNat_lt]
        change lead.toNat < 192
        omega
      have length : bytes.length = lead.toNat - 0xA0 := by omega
      rw [leaf?, if_neg small, if_neg list, if_pos text, take?_append length]
      rfl
  · rw [textHead, if_neg short]
    have read {count : Nat} (fits : bytes.length < Nat.pow 256 count) :
        ((takeString? count (Bytes.bigEndian count bytes.length ++ (bytes ++ rest))).map
          fun taken => (Packed.text taken.1, taken.2)) = some (.text bytes, rest) := by
      rw [takeString?_append fits]
      rfl
    rcases longLength_cases 0xD9 fits with ⟨head, fits⟩ | ⟨head, fits⟩ | ⟨head, fits⟩
    · rw [head, List.cons_append]
      have content := read fits
      exact .of_code rfl content
    · rw [head, List.cons_append]
      have content := read fits
      exact .of_code rfl content
    · rw [head, List.cons_append]
      have content := read fits
      exact .of_code rfl content

theorem readsLeaf_binary {bytes : Bytes} (fits : bytes.length < 0x100000000) (rest : Bytes) :
    ReadsLeaf (longLength 0xC4 bytes.length ++ (bytes ++ rest)) (.binary bytes) rest := by
  have read {count : Nat} (fits : bytes.length < Nat.pow 256 count) :
      ((takeString? count (Bytes.bigEndian count bytes.length ++ (bytes ++ rest))).map
        fun taken => (Packed.binary taken.1, taken.2)) = some (.binary bytes, rest) := by
    rw [takeString?_append fits]
    rfl
  rcases longLength_cases 0xC4 fits with ⟨head, fits⟩ | ⟨head, fits⟩ | ⟨head, fits⟩
  · rw [head, List.cons_append]
    have content := read fits
    exact .of_code rfl content
  · rw [head, List.cons_append]
    have content := read fits
    exact .of_code rfl content
  · rw [head, List.cons_append]
    have content := read fits
    exact .of_code rfl content

theorem takeExtension?_append {length : Nat} (type : UInt8) {bytes : Bytes}
    (count : bytes.length = length) (rest : Bytes) :
    takeExtension? length (type :: (bytes ++ rest)) = some (.extension type bytes, rest) := by
  simp [takeExtension?, take?_append count]

theorem readsLeaf_extension (type : UInt8) {bytes : Bytes} (fits : bytes.length < 0x100000000)
    (rest : Bytes) :
    ReadsLeaf (extensionHead bytes.length ++ (type :: (bytes ++ rest))) (.extension type bytes)
      rest := by
  have read {count : Nat} (fits : bytes.length < Nat.pow 256 count) :
      ((takeNumber? count (Bytes.bigEndian count bytes.length ++ (type :: (bytes ++ rest)))).bind
        fun taken => takeExtension? taken.1 taken.2) = some (.extension type bytes, rest) := by
    rw [takeNumber?_bigEndian fits]
    exact takeExtension?_append type rfl rest
  by_cases one : bytes.length = 1
  · rw [extensionHead, if_pos one]
    exact .of_code rfl (takeExtension?_append type one rest)
  by_cases two : bytes.length = 2
  · rw [extensionHead, if_neg one, if_pos two]
    exact .of_code rfl (takeExtension?_append type two rest)
  by_cases four : bytes.length = 4
  · rw [extensionHead, if_neg one, if_neg two, if_pos four]
    exact .of_code rfl (takeExtension?_append type four rest)
  by_cases eight : bytes.length = 8
  · rw [extensionHead, if_neg one, if_neg two, if_neg four, if_pos eight]
    exact .of_code rfl (takeExtension?_append type eight rest)
  by_cases sixteen : bytes.length = 16
  · rw [extensionHead, if_neg one, if_neg two, if_neg four, if_neg eight, if_pos sixteen]
    exact .of_code rfl (takeExtension?_append type sixteen rest)
  rw [extensionHead, if_neg one, if_neg two, if_neg four, if_neg eight, if_neg sixteen]
  rcases longLength_cases 0xC7 fits with ⟨head, fits⟩ | ⟨head, fits⟩ | ⟨head, fits⟩
  · rw [head, List.cons_append]
    have content := read fits
    exact .of_code rfl content
  · rw [head, List.cons_append]
    have content := read fits
    exact .of_code rfl content
  · rw [head, List.cons_append]
    have content := read fits
    exact .of_code rfl content

theorem readsLeaf_unsigned {size value : Nat} (small : size < 4)
    (fits : value < Nat.pow 256 (Nat.pow 2 size)) (rest : Bytes) :
    ReadsLeaf ((0xCC + UInt8.ofNat size) :: (Bytes.bigEndian (Nat.pow 2 size) value ++ rest))
      (.unsigned size value) rest := by
  have read : ((takeNumber? (Nat.pow 2 size) (Bytes.bigEndian (Nat.pow 2 size) value ++ rest)).map
      fun taken => (Packed.unsigned size taken.1, taken.2)) =
        some (.unsigned size value, rest) := by
    rw [takeNumber?_bigEndian fits]
    rfl
  apply ReadsLeaf.of_code
  · interval_cases size <;> rfl
  · interval_cases size <;> exact read

theorem readsLeaf_signed {size : Nat} {value : Int} (small : size < 4)
    (least : -(Nat.pow 256 (Nat.pow 2 size) : Nat) ≤ 2 * value)
    (most : 2 * value < (Nat.pow 256 (Nat.pow 2 size) : Nat)) (rest : Bytes) :
    ReadsLeaf ((0xD0 + UInt8.ofNat size) :: (Bytes.bigEndian (Nat.pow 2 size)
      (value % (Nat.pow 256 (Nat.pow 2 size) : Nat)).toNat ++ rest)) (.signed size value) rest := by
  have read : ((take? (Nat.pow 2 size) (Bytes.bigEndian (Nat.pow 2 size)
      (value % (Nat.pow 256 (Nat.pow 2 size) : Nat)).toNat ++ rest)).map
      fun taken => (Packed.signed size (integer taken.1), taken.2)) =
        some (.signed size value, rest) := by
    rw [take?_append (length_bigEndian _ _)]
    simp only [Option.map_some, integer_bigEndian rfl least most]
  apply ReadsLeaf.of_code
  · interval_cases size <;> rfl
  · interval_cases size <;> exact read

theorem readsLeaf_float {size bits : Nat} (form : size = 2 ∨ size = 3)
    (fits : bits < Nat.pow 256 (Nat.pow 2 size)) (rest : Bytes) :
    ReadsLeaf ((0xC8 + UInt8.ofNat size) :: (Bytes.bigEndian (Nat.pow 2 size) bits ++ rest))
      (.float size bits) rest := by
  have read : ((takeNumber? (Nat.pow 2 size) (Bytes.bigEndian (Nat.pow 2 size) bits ++ rest)).map
      fun taken => (Packed.float size taken.1, taken.2)) = some (.float size bits, rest) := by
    rw [takeNumber?_bigEndian fits]
    rfl
  rcases form with rfl | rfl
  · exact .of_code rfl read
  · exact .of_code rfl read

/-- The beginning of a list announces as many items as the list has. -/
theorem listOf?_array {length : Nat} (fits : length < 0x100000000) (rest : Bytes) :
    ∃ code tail, listHead 0x90 0xDC length ++ rest = code :: tail ∧
      listOf? code tail = some (.array, length, rest) := by
  by_cases short : length < 16
  · refine ⟨0x90 + UInt8.ofNat length, rest, by rw [listHead, if_pos short]; rfl, ?_⟩
    interval_cases length <;> rfl
  by_cases word : length < 0x10000
  · refine ⟨0xDC, Bytes.bigEndian 2 length ++ rest, ?_, ?_⟩
    · rw [listHead, if_neg short, if_pos word]
      rfl
    · have count := takeNumber?_bigEndian (show length < Nat.pow 256 2 from word) rest
      simp [listOf?, count]
  · refine ⟨0xDD, Bytes.bigEndian 4 length ++ rest, ?_, ?_⟩
    · rw [listHead, if_neg short, if_neg word]
      rfl
    · have count := takeNumber?_bigEndian (show length < Nat.pow 256 4 from fits) rest
      simp [listOf?, count]

/-- The beginning of a map announces two items for each entry. -/
theorem listOf?_map {length : Nat} (fits : length < 0x100000000) (rest : Bytes) :
    ∃ code tail, listHead 0x80 0xDE length ++ rest = code :: tail ∧
      listOf? code tail = some (.map, 2 * length, rest) := by
  by_cases short : length < 16
  · refine ⟨0x80 + UInt8.ofNat length, rest, by rw [listHead, if_pos short]; rfl, ?_⟩
    interval_cases length <;> rfl
  by_cases word : length < 0x10000
  · refine ⟨0xDE, Bytes.bigEndian 2 length ++ rest, ?_, ?_⟩
    · rw [listHead, if_neg short, if_pos word]
      rfl
    · have count := takeNumber?_bigEndian (show length < Nat.pow 256 2 from word) rest
      simp [listOf?, count]
  · refine ⟨0xDF, Bytes.bigEndian 4 length ++ rest, ?_, ?_⟩
    · rw [listHead, if_neg short, if_neg word]
      rfl
    · have count := takeNumber?_bigEndian (show length < Nat.pow 256 4 from fits) rest
      simp [listOf?, count]

theorem ReadsLeaf.takeValue? {written : Bytes} {value : Packed} {rest : Bytes}
    (reads : ReadsLeaf written value rest) {fuel : Nat} (some_fuel : 0 < fuel) :
    Packed.takeValue? fuel written = some (value, rest) := by
  obtain ⟨code, tail, rfl, single, read⟩ := reads
  obtain ⟨fuel, rfl⟩ := Nat.exists_eq_succ_of_ne_zero (Nat.ne_of_gt some_fuel)
  simp only [Packed.takeValue?, single, read]

theorem longLength_ne_nil (code : UInt8) (length : Nat) : longLength code length ≠ [] := by
  unfold longLength
  split
  · simp
  · split <;> simp

theorem listHead_ne_nil (short long : UInt8) (length : Nat) : listHead short long length ≠ [] := by
  unfold listHead
  split
  · simp
  · split <;> simp

/-- Every value takes at least one byte. -/
theorem length_encode_pos (value : Packed) : 0 < value.encode.length := by
  apply List.length_pos_iff.mpr
  cases value with
  | text bytes =>
    rw [encode, textHead]
    split
    · simp
    · simp [longLength_ne_nil]
  | binary bytes => simp [encode, longLength_ne_nil]
  | array items => simp [encode, listHead_ne_nil]
  | map items => simp [encode, listHead_ne_nil]
  | extension type bytes => simp [encode]
  | _ => simp [encode]

mutual

/-- What is written of a value is read back, with fuel for two values a byte. -/
theorem takeValue?_encode : ∀ value : Packed, value.Sized → ∀ (fuel : Nat) (rest : Bytes),
    2 * value.encode.length ≤ fuel → takeValue? fuel (value.encode ++ rest) = some (value, rest)
  | .nil, _, fuel, rest, enough => by
    have single : ReadsLeaf (0xC0 :: rest) .nil rest := .of_code rfl rfl
    exact single.takeValue? (by simp [encode] at enough; omega)
  | .bool flag, _, fuel, rest, enough => by
    have single : ReadsLeaf ((if flag then 0xC3 else 0xC2) :: rest) (.bool flag) rest := by
      cases flag <;> exact .of_code rfl rfl
    exact single.takeValue? (by simp [encode] at enough; omega)
  | .small byte, sized, fuel, rest, enough => by
    rw [Sized] at sized
    exact (readsLeaf_small sized rest).takeValue? (by simp [encode] at enough; omega)
  | .unsigned size value, sized, fuel, rest, enough => by
    rw [Sized] at sized
    exact (readsLeaf_unsigned sized.1 sized.2 rest).takeValue?
      (by simp [encode] at enough; omega)
  | .signed size value, sized, fuel, rest, enough => by
    rw [Sized] at sized
    exact (readsLeaf_signed sized.1 sized.2.1 sized.2.2 rest).takeValue?
      (by simp [encode] at enough; omega)
  | .float size bits, sized, fuel, rest, enough => by
    rw [Sized] at sized
    exact (readsLeaf_float sized.1 sized.2 rest).takeValue? (by simp [encode] at enough; omega)
  | .text bytes, sized, fuel, rest, enough => by
    have positive := length_encode_pos (.text bytes)
    rw [Sized] at sized
    rw [encode, List.append_assoc]
    exact (readsLeaf_text sized rest).takeValue? (by omega)
  | .binary bytes, sized, fuel, rest, enough => by
    have positive := length_encode_pos (.binary bytes)
    rw [Sized] at sized
    rw [encode, List.append_assoc]
    exact (readsLeaf_binary sized rest).takeValue? (by omega)
  | .extension type bytes, sized, fuel, rest, enough => by
    have positive := length_encode_pos (.extension type bytes)
    rw [Sized] at sized
    rw [encode, List.append_assoc]
    exact (readsLeaf_extension type sized rest).takeValue? (by omega)
  | .array items, sized, fuel, rest, enough => by
    rw [Sized] at sized
    obtain ⟨code, tail, head, announced⟩ := listOf?_array sized.1 (encodeAll items ++ rest)
    have written : 0 < (listHead 0x90 0xDC items.length).length :=
      List.length_pos_iff.mpr (listHead_ne_nil _ _ _)
    rw [encode, List.length_append] at enough
    obtain ⟨fuel, rfl⟩ := Nat.exists_eq_succ_of_ne_zero (show fuel ≠ 0 by omega)
    have content := takeValues?_encodeAll items sized.2 fuel rest (by omega)
    rw [encode, List.append_assoc, head]
    simp only [takeValue?, announced, content]
  | .map items, sized, fuel, rest, enough => by
    rw [Sized] at sized
    obtain ⟨code, tail, head, announced⟩ := listOf?_map sized.2.1 (encodeAll items ++ rest)
    have written : 0 < (listHead 0x80 0xDE (items.length / 2)).length :=
      List.length_pos_iff.mpr (listHead_ne_nil _ _ _)
    have count : 2 * (items.length / 2) = items.length := by omega
    rw [encode, List.length_append] at enough
    obtain ⟨fuel, rfl⟩ := Nat.exists_eq_succ_of_ne_zero (show fuel ≠ 0 by omega)
    have content := takeValues?_encodeAll items sized.2.2 fuel rest (by omega)
    rw [encode, List.append_assoc, head]
    simp only [takeValue?, announced, count, content]

/-- What is written of values one after the other is read back. -/
theorem takeValues?_encodeAll : ∀ items : List Packed, SizedAll items →
    ∀ (fuel : Nat) (rest : Bytes), 2 * (encodeAll items).length + 1 ≤ fuel →
      takeValues? fuel items.length (encodeAll items ++ rest) = some (items, rest)
  | [], _, fuel, rest, _ => by
    cases fuel <;> rfl
  | item :: others, sized, fuel, rest, enough => by
    rw [SizedAll] at sized
    have positive := item.length_encode_pos
    rw [encodeAll, List.length_append] at enough
    obtain ⟨fuel, rfl⟩ := Nat.exists_eq_succ_of_ne_zero (show fuel ≠ 0 by omega)
    have first := takeValue?_encode item sized.1 fuel (encodeAll others ++ rest) (by omega)
    have tail := takeValues?_encodeAll others sized.2 fuel rest (by omega)
    rw [encodeAll, List.append_assoc, List.length_cons]
    simp only [takeValues?, first, tail]

end

/-- A value that is written is read back, whatever follows it. -/
theorem decode?_encode {value : Packed} (sized : value.Sized) (rest : Bytes) :
    decode? (value.encode ++ rest) = some value := by
  rw [decode?, takeValue?_encode value sized _ rest (by rw [List.length_append]; omega)]
  rfl

/-! ## More behind a value -/

/-- Whether a reader takes the same from a byte string when more follows. -/
def Prolongs {α : Type} (read : Bytes → Option (α × Bytes)) : Prop :=
  ∀ bytes value rest, read bytes = some (value, rest) →
    ∀ more, read (bytes ++ more) = some (value, rest ++ more)

namespace Prolongs

variable {α β : Type}

theorem pure (value : α) : Prolongs fun bytes => some (value, bytes) := by
  rintro bytes _ _ ⟨⟩ more
  rfl

theorem fail : Prolongs fun _ : Bytes => (none : Option (α × Bytes)) :=
  fun _ _ _ read => nomatch read

theorem ite {condition : Prop} [Decidable condition] {left right : Bytes → Option (α × Bytes)}
    (first : Prolongs left) (second : Prolongs right) :
    Prolongs fun bytes => if condition then left bytes else right bytes := by
  by_cases holds : condition
  · simpa only [if_pos holds] using first
  · simpa only [if_neg holds] using second

theorem map {read : Bytes → Option (α × Bytes)} (prolongs : Prolongs read) (make : α → β) :
    Prolongs fun bytes => (read bytes).map fun (value, rest) => (make value, rest) := by
  intro bytes value rest taken more
  obtain ⟨⟨inner, left⟩, first, same⟩ := Option.map_eq_some_iff.mp taken
  cases same
  dsimp only
  rw [prolongs bytes inner _ first more]
  rfl

theorem bind {read : Bytes → Option (α × Bytes)} {next : α → Bytes → Option (β × Bytes)}
    (prolongs : Prolongs read) (prolongs' : ∀ value, Prolongs (next value)) :
    Prolongs fun bytes => (read bytes).bind fun (value, rest) => next value rest := by
  intro bytes value rest taken more
  obtain ⟨⟨inner, left⟩, first, second⟩ := Option.bind_eq_some_iff.mp taken
  dsimp only
  rw [prolongs bytes inner _ first more]
  exact prolongs' inner left value rest second more

theorem take? (count : Nat) : Prolongs (Packed.take? count) := by
  intro bytes value rest taken more
  unfold Packed.take? at taken ⊢
  split at taken
  · cases taken
  · rename_i enough
    cases taken
    have least := Nat.le_of_not_lt enough
    have longer : ¬ (bytes ++ more).length < count := by
      rw [List.length_append]
      omega
    rw [if_neg longer, List.take_append_of_le_length least, List.drop_append_of_le_length least]

theorem takeNumber? (count : Nat) : Prolongs (Packed.takeNumber? count) :=
  (take? count).map number

theorem takeString? (count : Nat) : Prolongs (Packed.takeString? count) :=
  (takeNumber? count).bind take?

theorem takeExtension? (length : Nat) : Prolongs (Packed.takeExtension? length) := by
  intro bytes value rest taken more
  cases bytes with
  | nil => cases taken
  | cons type content =>
    exact ((take? length).map (Packed.extension type)) content value rest taken more

theorem leaf? (code : UInt8) : Prolongs (Packed.leaf? code) := by
  unfold Packed.leaf?
  apply ite (pure _)
  apply ite fail
  apply ite ((take? _).map Packed.text)
  apply ite (pure _)
  apply ite fail
  apply ite (pure _)
  apply ite ((takeString? _).map Packed.binary)
  apply ite ((takeNumber? _).bind takeExtension?)
  apply ite ((takeNumber? _).map (Packed.float _))
  apply ite ((takeNumber? _).map (Packed.unsigned _))
  apply ite ((take? _).map fun bytes => Packed.signed _ (integer bytes))
  apply ite (takeExtension? _)
  exact ite ((takeString? _).map Packed.text) fail

theorem listOf? (code : UInt8) :
    Prolongs fun bytes => (Packed.listOf? code bytes).map fun (make, count, rest) =>
      ((make, count), rest) := by
  simp only [Packed.listOf?, apply_ite (Option.map _), Option.map_some, Option.map_none,
    Option.map_map, Function.comp_def]
  apply ite (pure _)
  apply ite (pure _)
  apply ite ((takeNumber? 2).map fun count => (Packed.array, count))
  apply ite ((takeNumber? 4).map fun count => (Packed.array, count))
  apply ite ((takeNumber? 2).map fun count => (Packed.map, 2 * count))
  exact ite ((takeNumber? 4).map fun count => (Packed.map, 2 * count)) fail

end Prolongs

/-- The beginning of a list or map is read alike when more follows. -/
theorem listOf?_append {code : UInt8} {bytes rest : Bytes} {make : List Packed → Packed}
    {count : Nat} (read : listOf? code bytes = some (make, count, rest)) (more : Bytes) :
    listOf? code (bytes ++ more) = some (make, count, rest ++ more) := by
  have again := Prolongs.listOf? code bytes (make, count) rest (by simp [read]) more
  obtain ⟨⟨_, _, _⟩, longer, same⟩ := Option.map_eq_some_iff.mp again
  cases same
  exact longer

/-- A code that announces a single value announces neither a list nor a map. -/
theorem outside_of_leaf? {code : UInt8} {bytes : Bytes} {result : Packed × Bytes}
    (read : leaf? code bytes = some result) :
    code.toNat < 0x80 ∨ 0xA0 ≤ code.toNat ∧ code.toNat < 0xDC ∨ 0xE0 ≤ code.toNat := by
  by_contra inside
  have small : ¬ (code < 0x80 ∨ 0xE0 ≤ code) := by
    rw [UInt8.lt_iff_toNat_lt, UInt8.le_iff_toNat_le]
    change ¬ (code.toNat < 128 ∨ 224 ≤ code.toNat)
    omega
  by_cases list : code < 0xA0
  · rw [leaf?, if_neg small, if_pos list] at read
    cases read
  · have high : 0xDC ≤ code.toNat := by
      rw [UInt8.lt_iff_toNat_lt] at list
      change ¬ code.toNat < 160 at list
      omega
    have above : ∀ bound : UInt8, bound.toNat ≤ 0xDC → ¬ code < bound := by
      intro bound least
      rw [UInt8.lt_iff_toNat_lt]
      omega
    have differs : ∀ other : UInt8, other.toNat < 0xDC → code ≠ other := by
      rintro other less rfl
      omega
    rw [leaf?, if_neg small, if_neg list, if_neg (above 0xC0 (by decide)),
      if_neg (differs 0xC0 (by decide)), if_neg (differs 0xC1 (by decide)),
      if_neg (above 0xC4 (by decide)), if_neg (above 0xC7 (by decide)),
      if_neg (above 0xCA (by decide)), if_neg (above 0xCC (by decide)),
      if_neg (above 0xD0 (by decide)), if_neg (above 0xD4 (by decide)),
      if_neg (above 0xD9 (by decide)), if_neg (above 0xDC (by decide))] at read
    cases read

/-- With more fuel and more behind them, values are taken alike. -/
theorem takeValue?_prolonged (fuel : Nat) :
    (∀ fuel' bytes value rest, fuel ≤ fuel' → takeValue? fuel bytes = some (value, rest) →
      ∀ more, takeValue? fuel' (bytes ++ more) = some (value, rest ++ more)) ∧
    ∀ fuel' count bytes values rest, fuel ≤ fuel' →
      takeValues? fuel count bytes = some (values, rest) →
        ∀ more, takeValues? fuel' count (bytes ++ more) = some (values, rest ++ more) := by
  induction fuel with
  | zero =>
    constructor
    · intro fuel' bytes value rest _ taken
      cases bytes <;> cases taken
    · intro fuel' count bytes values rest _ taken more
      cases count with
      | zero =>
        cases taken
        cases fuel' <;> rfl
      | succ count => cases taken
  | succ fuel ih =>
    obtain ⟨one, many⟩ := ih
    constructor
    · intro fuel' bytes value rest enough taken more
      obtain ⟨fuel', rfl⟩ := Nat.exists_eq_succ_of_ne_zero (show fuel' ≠ 0 by omega)
      have less : fuel ≤ fuel' := Nat.le_of_succ_le_succ enough
      cases bytes with
      | nil => cases taken
      | cons code tail =>
        rw [takeValue?] at taken
        rw [List.cons_append, takeValue?]
        split at taken
        · rename_i make count left announced
          rw [listOf?_append announced more]
          split at taken
          · rename_i items behind read
            cases taken
            dsimp only
            rw [many fuel' count left items _ less read more]
          · cases taken
        · rw [listOf?_eq_none (outside_of_leaf? taken)]
          exact Prolongs.leaf? code tail value rest taken more
    · intro fuel' count bytes values rest enough taken more
      obtain ⟨fuel', rfl⟩ := Nat.exists_eq_succ_of_ne_zero (show fuel' ≠ 0 by omega)
      have less : fuel ≤ fuel' := Nat.le_of_succ_le_succ enough
      cases count with
      | zero =>
        cases taken
        rfl
      | succ count =>
        rw [takeValues?] at taken ⊢
        split at taken
        · cases taken
        · rename_i item left first
          rw [one fuel' bytes item left less first more]
          split at taken
          · rename_i items behind others
            cases taken
            dsimp only
            rw [many fuel' count left items _ less others more]
          · cases taken

/-- What follows a value does not change what is read. -/
theorem decode?_append {bytes : Bytes} {value : Packed} (decoded : decode? bytes = some value)
    (more : Bytes) : decode? (bytes ++ more) = some value := by
  obtain ⟨⟨_, rest⟩, taken, rfl⟩ := Option.map_eq_some_iff.mp decoded
  rw [decode?, (takeValue?_prolonged _).1 _ bytes _ rest (by rw [List.length_append]; omega) taken]
  rfl

end Packed
end Blockwork
