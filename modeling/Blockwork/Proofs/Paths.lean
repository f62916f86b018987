import Blockwork.Cache
import Mathlib.Tactic.Common

/-!
# Paths of cache entries

The path of a cache entry, taken apart again. Whatever the directory of the cache is called, the
entries stand side by side in one directory, each under a name that tells its key, and no temporary
file has such a name.
-/

namespace Blockwork

/-! ## Elements -/

namespace Bytes

theorem splitOnByte_ne_nil (separator : UInt8) (text : Bytes) : splitOnByte separator text ≠ [] := by
  cases text with
  | nil => simp [splitOnByte]
  | cons byte rest =>
    rw [splitOnByte]
    split
    · simp
    · split <;> simp

theorem splitOnByte_append (separator : UInt8) (left right : Bytes) :
    splitOnByte separator (left ++ separator :: right) =
      splitOnByte separator left ++ splitOnByte separator right := by
  induction left with
  | nil => simp [splitOnByte]
  | cons byte rest ih =>
    obtain ⟨piece, pieces, pieced⟩ :=
      List.exists_cons_of_ne_nil (splitOnByte_ne_nil separator rest)
    rw [List.cons_append, splitOnByte, splitOnByte, ih, pieced]
    split <;> rfl

theorem splitOnByte_of_not_mem {separator : UInt8} {text : Bytes} (free : separator ∉ text) :
    splitOnByte separator text = [text] := by
  induction text with
  | nil => rfl
  | cons byte rest ih =>
    have other : byte ≠ separator := fun same => free (same ▸ List.mem_cons_self)
    rw [splitOnByte, if_neg other, ih fun inside => free (List.mem_cons_of_mem _ inside)]

theorem not_mem_of_mem_splitOnByte {separator : UInt8} {text piece : Bytes}
    (member : piece ∈ splitOnByte separator text) : separator ∉ piece := by
  induction text generalizing piece with
  | nil =>
    rw [splitOnByte, List.mem_singleton] at member
    simp [member]
  | cons byte rest ih =>
    obtain ⟨first, others, pieced⟩ :=
      List.exists_cons_of_ne_nil (splitOnByte_ne_nil separator rest)
    rw [pieced] at ih
    rw [splitOnByte, pieced] at member
    split at member
    · rcases List.mem_cons.mp member with rfl | inside
      · simp
      · exact ih inside
    · rename_i other
      rcases List.mem_cons.mp member with rfl | inside
      · intro separates
        rcases List.mem_cons.mp separates with same | later
        · exact other same.symm
        · exact ih List.mem_cons_self later
      · exact ih (List.mem_cons_of_mem _ inside)

end Bytes

namespace Path

/-- Whether a text can be one element of a path. -/
def IsElement (element : Bytes) : Prop := element ≠ [] ∧ slash ∉ element

theorem elements_append (left right : Bytes) :
    elements (left ++ slash :: right) = elements left ++ elements right := by
  rw [elements, Bytes.splitOnByte_append, List.filter_append]
  rfl

theorem elements_of_isElement {element : Bytes} (proper : IsElement element) :
    elements element = [element] := by
  simp [elements, Bytes.splitOnByte_of_not_mem proper.2, proper.1]

theorem isElement_of_mem_elements {path element : Bytes} (member : element ∈ elements path) :
    IsElement element := by
  obtain ⟨inside, nonempty⟩ := List.mem_filter.mp member
  exact ⟨of_decide_eq_true nonempty, Bytes.not_mem_of_mem_splitOnByte inside⟩

theorem isElement_above : IsElement above := by
  constructor <;> decide

/-- Elements that are joined are split again. -/
theorem elements_join {list : List Bytes} (proper : ∀ element ∈ list, IsElement element) :
    elements (Bytes.join [slash] list) = list := by
  induction list with
  | nil => rfl
  | cons first rest ih =>
    have alone := elements_of_isElement (proper first List.mem_cons_self)
    cases rest with
    | nil => exact alone
    | cons second others =>
      rw [Bytes.join, List.append_assoc, List.singleton_append, elements_append, alone,
        ih fun element member => proper element (List.mem_cons_of_mem _ member)]
      rfl

theorem mem_push {rooted : Bool} {before : List Bytes} {element other : Bytes}
    (member : other ∈ push rooted before element) :
    other = element ∨ other = above ∨ other ∈ before := by
  unfold push at member
  split at member
  · exact .inr (.inr member)
  · split at member
    · split at member
      · split at member
        · cases member
        · exact .inr (.inl (List.mem_singleton.mp member))
      · split at member
        · exact .inr (List.mem_cons.mp member)
        · exact .inr (.inr (List.mem_cons_of_mem _ member))
    · exact (List.mem_cons.mp member).imp_right .inr

/-- An element that leads nowhere is not kept. -/
theorem here_not_mem_push {rooted : Bool} {before : List Bytes} {element : Bytes}
    (plain : here ∉ before) : here ∉ push rooted before element := by
  intro member
  rcases mem_push member with rfl | up | inside
  · unfold push at member
    rw [if_pos rfl] at member
    exact plain member
  · exact absurd up (by decide)
  · exact plain inside

/-- Shortening brings in no element but the way up. -/
theorem mem_reduce {rooted : Bool} {list : List Bytes} {element : Bytes}
    (member : element ∈ reduce rooted list) : element = above ∨ element ∈ list := by
  suffices general : ∀ before, element ∈ list.foldl (push rooted) before →
      element = above ∨ element ∈ list ∨ element ∈ before by
    simpa using general [] (List.mem_reverse.mp member)
  clear member
  induction list with
  | nil => exact fun before member => .inr (.inr member)
  | cons first rest ih =>
    intro before member
    rcases ih _ member with up | inside | pushed
    · exact .inl up
    · exact .inr (.inl (List.mem_cons_of_mem _ inside))
    · rcases mem_push pushed with rfl | up | held
      · exact .inr (.inl List.mem_cons_self)
      · exact .inl up
      · exact .inr (.inr held)

theorem isElement_of_mem_reduce (rooted : Bool) {list : List Bytes}
    (proper : ∀ element ∈ list, IsElement element) :
    ∀ element ∈ reduce rooted list, IsElement element := by
  intro element member
  rcases mem_reduce member with rfl | inside
  · exact isElement_above
  · exact proper element inside

theorem reduce_append {rooted : Bool} {list : List Bytes} {name : Bytes} (notHere : name ≠ here)
    (notAbove : name ≠ above) : reduce rooted (list ++ [name]) = reduce rooted list ++ [name] := by
  have last : ∀ before, push rooted before name = name :: before := by
    intro before
    simp [push, notHere, notAbove]
  rw [reduce, List.foldl_append, List.foldl_cons, List.foldl_nil, last, List.reverse_cons]
  rfl

theorem join_ne_nil {list : List Bytes} (nonempty : list ≠ [])
    (proper : ∀ element ∈ list, IsElement element) : Bytes.join [slash] list ≠ [] := by
  intro empty
  have none := elements_join proper
  rw [empty] at none
  exact nonempty none.symm

theorem elements_render {rooted : Bool} {list : List Bytes} (nonempty : list ≠ [])
    (proper : ∀ element ∈ list, IsElement element) : elements (render rooted list) = list := by
  cases rooted with
  | true => exact (elements_append [] _).trans (elements_join proper)
  | false =>
    have text : render false list = Bytes.join [slash] list :=
      if_neg (join_ne_nil nonempty proper)
    rw [text, elements_join proper]

theorem isAbsolute_render {rooted : Bool} {list : List Bytes} (nonempty : list ≠ [])
    (proper : ∀ element ∈ list, IsElement element) : isAbsolute (render rooted list) = rooted := by
  cases rooted with
  | true => rfl
  | false =>
    have text : render false list = Bytes.join [slash] list :=
      if_neg (join_ne_nil nonempty proper)
    obtain ⟨first, rest, rfl⟩ := List.exists_cons_of_ne_nil nonempty
    obtain ⟨filled, free⟩ := proper first List.mem_cons_self
    obtain ⟨byte, bytes, rfl⟩ := List.exists_cons_of_ne_nil filled
    have other : byte ≠ slash := fun same => free (same ▸ List.mem_cons_self)
    have head : (Bytes.join [slash] ((byte :: bytes) :: rest)).head? = some byte := by
      cases rest <;> rfl
    rw [text, isAbsolute, head]
    simpa using other

/-- Paths that are joined are shortened together, unless an empty one is followed by one that starts
at the root. -/
theorem join_eq_render (front second : Bytes) (others : List Bytes) (filled : second ≠ [])
    (relative : front = [] → isAbsolute (Bytes.join [slash] (second :: others)) = false) :
    join (front :: second :: others) = render (isAbsolute front) (reduce (isAbsolute front)
      (elements front ++ elements (Bytes.join [slash] (second :: others)))) := by
  cases front with
  | nil =>
    have kept : ([] :: second :: others).dropWhile (· = []) = second :: others := by simp [filled]
    rw [join, kept]
    dsimp only
    rw [clean, relative rfl]
    rfl
  | cons byte bytes =>
    have kept : ((byte :: bytes) :: second :: others).dropWhile (· = []) =
        (byte :: bytes) :: second :: others := by
      simp
    have text : Bytes.join [slash] ((byte :: bytes) :: second :: others) =
        (byte :: bytes) ++ slash :: Bytes.join [slash] (second :: others) := by
      simp [Bytes.join]
    rw [join, kept]
    dsimp only
    rw [text, clean, elements_append]
    rfl

end Path

/-! ## Names of entries -/

namespace Bytes

theorem lowerHexDigit_injective : ∀ left right : Fin 16,
    lowerHexDigit left = lowerHexDigit right → left = right := by
  decide

theorem lowerHex_two (number : Nat) :
    lowerHex 2 number = [lowerHexDigit (number / 16 % 16), lowerHexDigit (number % 16)] := by
  simp [lowerHex, List.range_succ]

theorem hexText_cons (byte : UInt8) (rest : Bytes) :
    hexText (byte :: rest) = lowerHexDigit (byte.toNat / 16 % 16) ::
      lowerHexDigit (byte.toNat % 16) :: hexText rest := by
  rw [hexText, List.flatMap_cons, lowerHex_two]
  rfl

/-- Different byte strings have different hexadecimal digits. -/
theorem hexText_injective : Function.Injective hexText := by
  intro left
  induction left with
  | nil =>
    intro right same
    cases right with
    | nil => rfl
    | cons byte rest =>
      rw [hexText_cons] at same
      cases same
  | cons byte rest ih =>
    intro right same
    cases right with
    | nil =>
      rw [hexText_cons] at same
      cases same
    | cons other others =>
      rw [hexText_cons, hexText_cons] at same
      obtain ⟨high, tail⟩ := List.cons.inj same
      obtain ⟨low, tail⟩ := List.cons.inj tail
      have digit {left right : Nat} (same : lowerHexDigit (left % 16) = lowerHexDigit (right % 16)) :
          left % 16 = right % 16 :=
        congrArg Fin.val (lowerHexDigit_injective ⟨left % 16, Nat.mod_lt _ (by decide)⟩
          ⟨right % 16, Nat.mod_lt _ (by decide)⟩ same)
      have equal : byte = other := by
        apply UInt8.toNat_inj.mp
        have first := digit high
        have second := digit low
        have small := byte.toNat_lt
        have small' := other.toNat_lt
        omega
      rw [equal, ih tail]

theorem exists_of_mem_hexText {byte : UInt8} {text : Bytes} (member : byte ∈ hexText text) :
    ∃ digit : Fin 16, byte = lowerHexDigit digit := by
  obtain ⟨source, -, inside⟩ := List.mem_flatMap.mp member
  rw [lowerHex_two] at inside
  rcases List.mem_cons.mp inside with rfl | last
  · exact ⟨⟨_, Nat.mod_lt _ (by decide)⟩, rfl⟩
  · exact ⟨⟨_, Nat.mod_lt _ (by decide)⟩, List.mem_singleton.mp last⟩

end Bytes

namespace Cache

/-- The name of the file of an entry. -/
def entryName (key : Bytes) : Bytes := key.hexText ++ utf8 ".mp"

theorem entryName_injective : Function.Injective entryName := by
  intro left right same
  exact Bytes.hexText_injective (List.append_cancel_right same)

/-- The names of entries hold digits and the letters of their ending only. -/
theorem ne_of_mem_entryName {key : Bytes} {byte : UInt8} (member : byte ∈ entryName key) :
    byte ≠ Path.slash ∧ byte ≠ 116 ∧ byte ≠ 0 := by
  have digits : ∀ digit : Fin 16, Bytes.lowerHexDigit digit ≠ Path.slash ∧
      Bytes.lowerHexDigit digit ≠ 116 ∧ Bytes.lowerHexDigit digit ≠ 0 := by
    decide +kernel
  have letters : (utf8 ".mp").all
      (fun byte => byte ≠ Path.slash ∧ byte ≠ 116 ∧ byte ≠ 0) = true := by
    decide
  rcases List.mem_append.mp member with spelled | ending
  · obtain ⟨digit, rfl⟩ := Bytes.exists_of_mem_hexText spelled
    exact digits digit
  · exact of_decide_eq_true (List.all_eq_true.mp letters byte ending)

theorem three_le_length_entryName (key : Bytes) : 3 ≤ (entryName key).length := by
  rw [entryName, List.length_append]
  exact Nat.le_add_left 3 _

theorem isElement_entryName (key : Bytes) : Path.IsElement (entryName key) := by
  constructor
  · intro empty
    have long := three_le_length_entryName key
    rw [empty] at long
    exact absurd long (by decide)
  · exact fun member => (ne_of_mem_entryName member).1 rfl

theorem entryName_ne_of_length_lt {key text : Bytes} (short : text.length < 3) :
    entryName key ≠ text := by
  rintro rfl
  exact absurd (three_le_length_entryName key) (Nat.not_le_of_lt short)

theorem entryName_ne_temporaryName (key : Bytes) (taken : List Bytes) :
    entryName key ≠ temporaryName taken := by
  intro same
  have member : (116 : UInt8) ∈ entryName key := by
    rw [same, temporaryName]
    exact List.mem_append_left _ (by decide)
  exact (ne_of_mem_entryName member).2.1 rfl

/-- The elements on the way to the directory of the entries. -/
def trail (cache : Cache) : List Bytes :=
  Path.reduce (Path.isAbsolute cache.directory) (Path.elements cache.directory ++ [utf8 "ir"])

/-- The path of an entry leads to the directory of the entries and then to its name. -/
theorem path_eq_render (cache : Cache) (key : Bytes) :
    cache.path key = Path.render (Path.isAbsolute cache.directory)
      (cache.trail ++ [entryName key]) := by
  have folder : Path.elements (utf8 "ir") = [utf8 "ir"] :=
    Path.elements_of_isElement (by constructor <;> decide)
  have inner : Path.elements (utf8 "ir" ++ Path.slash :: entryName key) =
      [utf8 "ir", entryName key] := by
    rw [Path.elements_append, folder, Path.elements_of_isElement (isElement_entryName key)]
    rfl
  have notHere : entryName key ≠ Path.here := entryName_ne_of_length_lt (by decide)
  have notAbove : entryName key ≠ Path.above := entryName_ne_of_length_lt (by decide)
  have joined := Path.join_eq_render cache.directory (utf8 "ir") [entryName key]
    (by decide) fun _ => rfl
  rw [trail, ← Path.reduce_append notHere notAbove, List.append_assoc]
  exact joined.trans (congrArg (fun last => Path.render (Path.isAbsolute cache.directory)
    (Path.reduce _ (Path.elements cache.directory ++ last))) inner)

theorem trail_eq (cache : Cache) : cache.trail =
    Path.reduce (Path.isAbsolute cache.directory) (Path.elements cache.directory) ++
      [utf8 "ir"] :=
  Path.reduce_append (by decide) (by decide)

theorem isElement_of_mem_trail (cache : Cache) :
    ∀ element ∈ cache.trail, Path.IsElement element := by
  refine Path.isElement_of_mem_reduce _ fun element member => ?_
  rcases List.mem_append.mp member with inside | last
  · exact Path.isElement_of_mem_elements inside
  · rw [List.mem_singleton.mp last]
    constructor <;> decide

theorem elements_path (cache : Cache) (key : Bytes) :
    Path.elements (cache.path key) = cache.trail ++ [entryName key] ∧
      Path.isAbsolute (cache.path key) = Path.isAbsolute cache.directory := by
  have proper : ∀ element ∈ cache.trail ++ [entryName key], Path.IsElement element := by
    intro element member
    rcases List.mem_append.mp member with inside | last
    · exact cache.isElement_of_mem_trail element inside
    · rw [List.mem_singleton.mp last]
      exact isElement_entryName key
  rw [path_eq_render]
  exact ⟨Path.elements_render (by simp) proper, Path.isAbsolute_render (by simp) proper⟩

theorem entries_eq_render (cache : Cache) :
    cache.entries = Path.render (Path.isAbsolute cache.directory) cache.trail := by
  have folder : Path.elements (utf8 "ir") = [utf8 "ir"] :=
    Path.elements_of_isElement (by constructor <;> decide)
  have joined := Path.join_eq_render cache.directory (utf8 "ir") [] (by decide) fun _ => rfl
  exact joined.trans (congrArg (fun last => Path.render (Path.isAbsolute cache.directory)
    (Path.reduce _ (Path.elements cache.directory ++ last))) folder)

theorem elements_entries (cache : Cache) :
    Path.elements cache.entries = cache.trail ∧
      Path.isAbsolute cache.entries = Path.isAbsolute cache.directory := by
  have nonempty : cache.trail ≠ [] := by simp [trail_eq]
  rw [entries_eq_render]
  exact ⟨Path.elements_render nonempty cache.isElement_of_mem_trail,
    Path.isAbsolute_render nonempty cache.isElement_of_mem_trail⟩

end Cache
end Blockwork
