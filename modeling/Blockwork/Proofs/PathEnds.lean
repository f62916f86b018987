import Blockwork.Proofs.Paths
import Mathlib.Data.List.TakeWhile

/-!
# The ends of paths

The last name of a path, and what stands before it. A path whose text ends in a name has this name as
its last element, and so has every path that is joined from it.
-/

namespace Blockwork

namespace Bytes

theorem join_concat (separator : Bytes) (list : List Bytes) (last : Bytes) :
    join separator (list ++ [last]) = (list.flatMap fun piece => piece ++ separator) ++ last := by
  induction list with
  | nil => rfl
  | cons first rest ih =>
    rw [List.flatMap_cons, List.append_assoc, ← ih]
    cases rest <;> rfl

theorem mem_join {separator : Bytes} {list : List Bytes} {byte : UInt8}
    (member : byte ∈ join separator list) : byte ∈ separator ∨ ∃ piece ∈ list, byte ∈ piece := by
  obtain rfl | ⟨front, last, rfl⟩ := List.eq_nil_or_concat list
  · cases member
  · rw [List.concat_eq_append] at member ⊢
    rw [join_concat, List.mem_append, List.mem_flatMap] at member
    rcases member with ⟨piece, inside, member⟩ | member
    · rcases List.mem_append.mp member with spelled | between
      · exact .inr ⟨piece, List.mem_append_left _ inside, spelled⟩
      · exact .inl between
    · exact .inr ⟨last, List.mem_append_right _ List.mem_cons_self, member⟩

theorem mem_of_mem_splitOnByte {separator byte : UInt8} {text piece : Bytes}
    (member : piece ∈ splitOnByte separator text) (inside : byte ∈ piece) : byte ∈ text := by
  induction text generalizing piece with
  | nil =>
    rw [splitOnByte, List.mem_singleton] at member
    rwa [member] at inside
  | cons first rest ih =>
    obtain ⟨head, others, pieced⟩ :=
      List.exists_cons_of_ne_nil (splitOnByte_ne_nil separator rest)
    rw [pieced] at ih
    rw [splitOnByte, pieced] at member
    split at member
    · rcases List.mem_cons.mp member with rfl | member
      · cases inside
      · exact List.mem_cons_of_mem _ (ih member inside)
    · rcases List.mem_cons.mp member with rfl | member
      · rcases List.mem_cons.mp inside with rfl | inside
        · exact List.mem_cons_self
        · exact List.mem_cons_of_mem _ (ih List.mem_cons_self inside)
      · exact List.mem_cons_of_mem _ (ih (List.mem_cons_of_mem _ member) inside)

end Bytes

namespace Path

variable {path name : Bytes} {list : List Bytes} {rooted : Bool}

/-! ## The last name -/

theorem elements_append_of_all_slash {slashes : Bytes} (all : ∀ byte ∈ slashes, byte = slash)
    (path : Bytes) : elements (path ++ slashes) = elements path := by
  induction slashes generalizing path with
  | nil => rw [List.append_nil]
  | cons first rest ih =>
    obtain rfl := all first List.mem_cons_self
    rw [elements_append]
    have none := ih (fun byte member => all byte (List.mem_cons_of_mem _ member)) []
    rw [List.nil_append] at none
    rw [none]
    exact List.append_nil _

/-- A text that ends in a name, alone or behind a slash, has that name as its last element. -/
theorem exists_elements_append {front : Bytes} (apart : front = [] ∨ front.getLast? = some slash)
    (proper : IsElement name) : ∃ list, elements (front ++ name) = list ++ [name] := by
  rcases apart with rfl | last
  · exact ⟨[], elements_of_isElement proper⟩
  · obtain ⟨before, rfl⟩ := List.getLast?_eq_some_iff.mp last
    rw [List.append_assoc, List.singleton_append, elements_append, elements_of_isElement proper]
    exact ⟨_, rfl⟩

theorem getLast?_reverse_dropWhile (text : Bytes) :
    (text.dropWhile (· ≠ slash)).reverse = [] ∨
      (text.dropWhile (· ≠ slash)).reverse.getLast? = some slash := by
  cases rest : text.dropWhile (· ≠ slash) with
  | nil => exact .inl rfl
  | cons byte bytes =>
    have first := List.head?_dropWhile_not (fun byte => decide (byte ≠ slash)) text
    rw [rest] at first
    have same : byte = slash := by simpa using first
    rw [same, List.getLast?_reverse]
    exact .inr rfl

/-- A text that does not end in a slash has what follows its last slash as its last element. The text
is given backwards. -/
theorem exists_elements_reverse {text : Bytes} (filled : text.takeWhile (· ≠ slash) ≠ []) :
    IsElement (text.takeWhile (· ≠ slash)).reverse ∧
      ∃ list, elements text.reverse = list ++ [(text.takeWhile (· ≠ slash)).reverse] := by
  have proper : IsElement (text.takeWhile (· ≠ slash)).reverse := by
    refine ⟨by simpa using filled, fun member => ?_⟩
    have other := List.mem_takeWhile_imp (List.mem_reverse.mp member)
    simp at other
  have whole : text.reverse =
      (text.dropWhile (· ≠ slash)).reverse ++ (text.takeWhile (· ≠ slash)).reverse := by
    rw [← List.reverse_append, List.takeWhile_append_dropWhile]
  rw [whole]
  exact ⟨proper, exists_elements_append (getLast?_reverse_dropWhile text) proper⟩

/-- The last name of a path is its last element, unless the path is nothing but slashes. -/
theorem base_cases (path : Bytes) : (elements path = [] ∧ ∀ byte ∈ path, byte = slash) ∨
    IsElement (base path) ∧ ∃ list, elements path = list ++ [base path] := by
  generalize trimmed : path.reverse.dropWhile (· = slash) = text
  obtain ⟨slashes, all, whole⟩ : ∃ slashes : Bytes, (∀ byte ∈ slashes, byte = slash) ∧
      path = text.reverse ++ slashes := by
    refine ⟨(path.reverse.takeWhile (· = slash)).reverse, fun byte member => ?_, ?_⟩
    · simpa using List.mem_takeWhile_imp (List.mem_reverse.mp member)
    · rw [← trimmed, ← List.reverse_append, List.takeWhile_append_dropWhile, List.reverse_reverse]
  have same : elements path = elements text.reverse := by
    rw [whole, elements_append_of_all_slash all]
  cases text with
  | nil =>
    rw [same]
    rw [List.reverse_nil, List.nil_append] at whole
    exact .inl ⟨rfl, whole ▸ all⟩
  | cons byte rest =>
    have other : byte ≠ slash := by
      have first := List.head?_dropWhile_not (fun byte => decide (byte = slash)) path.reverse
      rw [trimmed] at first
      simpa using first
    have filled : (byte :: rest).takeWhile (· ≠ slash) ≠ [] := by
      rw [List.takeWhile_cons_of_pos (by simpa using other)]
      exact List.cons_ne_nil _ _
    have named : base path = ((byte :: rest).takeWhile (· ≠ slash)).reverse := by
      have nonempty : path ≠ [] := by
        rintro rfl
        cases trimmed
      obtain ⟨first, others, taken⟩ := List.exists_cons_of_ne_nil filled
      rw [base, if_neg nonempty, trimmed, taken]
    rw [same, named]
    exact .inr (exists_elements_reverse filled)

/-- What a path ends in after its last slash is its last element, if there is anything. -/
theorem exists_elements_of_split (filled : (split path).2 ≠ []) :
    IsElement (split path).2 ∧ ∃ list, elements path = list ++ [(split path).2] := by
  have taken : path.reverse.takeWhile (· ≠ slash) ≠ [] := by
    intro none
    exact filled (congrArg List.reverse none)
  have found := exists_elements_reverse taken
  rwa [List.reverse_reverse] at found

theorem split_append {front : Bytes} (apart : front = [] ∨ front.getLast? = some slash)
    (free : slash ∉ name) : (split (front ++ name)).2 = name := by
  have all : ∀ byte ∈ name.reverse, decide (byte ≠ slash) = true := by
    intro byte member
    have other : byte ≠ slash := fun same => free (same ▸ List.mem_reverse.mp member)
    simpa using other
  have rest : front.reverse.takeWhile (· ≠ slash) = [] := by
    rcases apart with rfl | last
    · rfl
    · obtain ⟨before, rfl⟩ := List.getLast?_eq_some_iff.mp last
      simp
  rw [split, List.reverse_append, List.takeWhile_append_of_pos all, rest, List.append_nil,
    List.reverse_reverse]

/-! ## Paths that are put together -/

theorem getLast?_flatMap_slash (list : List Bytes) :
    (list.flatMap fun piece => piece ++ [slash]) = [] ∨
      (list.flatMap fun piece => piece ++ [slash]).getLast? = some slash := by
  obtain rfl | ⟨before, last, rfl⟩ := List.eq_nil_or_concat list
  · exact .inl rfl
  · exact .inr (by simp)

/-- The text of elements that end in a name ends in that name, alone or behind a slash. -/
theorem exists_render_concat (rooted : Bool) (list : List Bytes) (proper : IsElement name) :
    ∃ front, (front = [] ∨ front.getLast? = some slash) ∧
      render rooted (list ++ [name]) = front ++ name := by
  cases rooted with
  | true =>
    refine ⟨slash :: list.flatMap fun piece => piece ++ [slash], .inr ?_, ?_⟩
    · rcases getLast?_flatMap_slash list with none | last
      · rw [none]
        rfl
      · rw [List.getLast?_cons, last]
        rfl
    · rw [render, if_pos rfl, Bytes.join_concat]
      rfl
  | false =>
    refine ⟨list.flatMap fun piece => piece ++ [slash], getLast?_flatMap_slash list, ?_⟩
    have filled : Bytes.join [slash] (list ++ [name]) ≠ [] := by
      rw [Bytes.join_concat]
      simp [proper.1]
    rw [render, if_neg (by decide), if_neg filled, Bytes.join_concat]

theorem split_render (rooted : Bool) (list : List Bytes) (proper : IsElement name) :
    (split (render rooted (list ++ [name]))).2 = name := by
  obtain ⟨front, apart, whole⟩ := exists_render_concat rooted list proper
  rw [whole, split_append apart proper.2]

theorem mem_elements {element : Bytes} {byte : UInt8} (member : element ∈ elements path)
    (inside : byte ∈ element) : byte ∈ path :=
  Bytes.mem_of_mem_splitOnByte (List.mem_filter.mp member).1 inside

/-- The text of elements holds their bytes, slashes and dots. -/
theorem mem_render {byte : UInt8} (member : byte ∈ render rooted list) :
    byte = slash ∨ byte = 46 ∨ ∃ element ∈ list, byte ∈ element := by
  have joined (inside : byte ∈ Bytes.join [slash] list) :
      byte = slash ∨ byte = 46 ∨ ∃ element ∈ list, byte ∈ element :=
    (Bytes.mem_join inside).imp List.mem_singleton.mp .inr
  unfold render at member
  dsimp only at member
  split at member
  · rcases List.mem_cons.mp member with same | inside
    · exact .inl same
    · exact joined inside
  · split at member
    · have dot : ∀ byte ∈ here, byte = 46 := by decide +kernel
      exact .inr (.inl (dot byte member))
    · exact joined member

end Path
end Blockwork
