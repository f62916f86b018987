import Blockwork.Proofs.Unguarded

/-!
# How many places a failure names

A failure to read a text names the place where it was noticed, and says why. The reason may come
from construction, from the types or from a number, and then names no place of its own. A complaint
about an operand is passed on as it is, with one exception: whatever is wrong inside a call becomes
the reason for refusing the whole instruction, so such a failure names two places on one line.
-/

namespace Blockwork

namespace Failure

/-- The places in source texts that a failure names, from the outside in. -/
def spots : Failure → List Spot
  | .source spot _ => [spot]
  | .refused spot _ cause => spot :: cause.spots
  | .within _ inner => inner.spots
  | .both first _ second => first.spots ++ second.spots
  | .fault _ | .text _ | .build _ | .file _ => []

/-- A reason given by construction, by the types, or by a number. -/
inductive Plain : Failure → Prop
  /-- Construction refuses something. -/
  | build (error : BuildError) : Plain (.build error)
  /-- A descriptor describes no type. -/
  | fault (fault : Fault) : Plain (.fault fault)
  /-- A number is too large. -/
  | text (message : Bytes) : Plain (.text message)

theorem Plain.spots_eq {failure : Failure} (plain : failure.Plain) : failure.spots = [] := by
  cases plain <;> rfl

end Failure

theorem Numeral.exists_text_of_index {digits : Bytes} {cause : Failure}
    (large : index digits = .error cause) : ∃ message, cause = .text message := by
  unfold index at large
  split at large
  · cases large
    exact ⟨_, rfl⟩
  · split at large <;> cases large
    exact ⟨_, rfl⟩

theorem Token.Concerns.plain {line : List Token} {token : Token} {complaint : Complaint}
    (concerns : token.Concerns line complaint) : ∀ cause ∈ complaint.cause, cause.Plain := by
  cases concerns with
  | unexpected differs => nofun
  | unknown meaningless => nofun
  | early value is behind refers late => nofun
  | missing is => nofun
  | unsuited unsuited => nofun
  | largeLabel label written large =>
    obtain ⟨message, rfl⟩ := Numeral.exists_text_of_index large
    rintro _ ⟨⟩
    exact .text message
  | largeNumber is large =>
    obtain ⟨message, rfl⟩ := Numeral.exists_text_of_index large
    rintro _ ⟨⟩
    exact .text message
  | noType written numeral fits invalid =>
    rintro _ ⟨⟩
    exact .fault _
  | refused refused =>
    rintro _ ⟨⟩
    exact .build _

namespace ParseError

/-- A failure to read a text that names one place. -/
structure Single (source : Bytes) (error : ParseError) : Prop where
  /-- It names its own place only. -/
  spots : error.toFailure.spots = [error.spot]
  /-- The reason, if there is one, is given by construction, by the types, or by a number. -/
  cause : ∀ cause ∈ error.cause, cause.Plain
  /-- The place is that of the token that the failure is about, unless a body is not closed. -/
  place : (∃ token ∈ Token.lex error.spot.text, token.Concerns (Token.lex error.spot.text)
      ⟨error.spot.column, error.message, error.cause⟩) ∨
    error.spot.line = source.count 10 + 1 ∧ error.spot.column = 1 ∧ error.cause = none ∧ ∃ name,
      error.message = utf8 "function " ++ name ++ utf8 " is missing its closing '\x7d'"

/-- A failure to read a call, with another failure as its reason. -/
structure Doubled (error inner : ParseError) : Prop where
  /-- It names both places. -/
  spots : error.toFailure.spots = [error.spot, inner.spot]
  /-- The other failure is the reason. -/
  cause : error.cause = some inner.toFailure
  /-- The reason of the other failure, if there is one, names no place. -/
  plain : ∀ cause ∈ inner.cause, cause.Plain
  /-- The instruction is refused. -/
  message : error.message = utf8 "invalid instruction"
  /-- The instruction is a call, and begins at the place of the failure. -/
  head : ∃ head ∈ Token.lex error.spot.text, head.isWord "call" ∧ head.column = error.spot.column
  /-- Both places are on one line. -/
  line : inner.spot = { error.spot with column := inner.spot.column }
  /-- The other place comes later. -/
  later : error.spot.column < inner.spot.column
  /-- The other place is that of the token that the other failure is about. -/
  token : ∃ token ∈ Token.lex error.spot.text, token.Concerns (Token.lex error.spot.text)
      ⟨inner.spot.column, inner.message, inner.cause⟩

theorem spots_of_plain {error : ParseError} (plain : ∀ cause ∈ error.cause, cause.Plain) :
    error.toFailure.spots = [error.spot] := by
  unfold toFailure
  cases given : error.cause with
  | none => rfl
  | some cause => rw [Failure.spots, (plain cause given).spots_eq]

end ParseError

/-- A complaint that points at the token that it is about makes a failure that names one place. -/
theorem Complaint.PointsInto.single {line : Line} {complaint : Complaint}
    (points : complaint.PointsInto line.tokens line.tokens) (file source : Bytes) :
    (complaint.locate file line).Single source := by
  obtain ⟨token, member, concerns⟩ := points
  exact ⟨ParseError.spots_of_plain concerns.plain, concerns.plain, .inl ⟨token, member, concerns⟩⟩

namespace Context

/-- A failure to read a text names one place, that of the token it is about, and gives a reason that
names none; except that a call that cannot be read is refused at its first token for a reason that
names a second place behind it. -/
theorem parse_places (file source : Bytes) (optimize : Bool) (error : ParseError)
    (failed : parse file source optimize = .error error) :
    error.Single source ∨ ∃ inner, error.Doubled inner := by
  cases arises_of_parse failed with
  | unclosed name final =>
    exact .inl ⟨rfl, nofun, .inr ⟨Line.number_of_getLast?_split final, rfl, rfl, name, rfl⟩⟩
  | @line line complaint member stems =>
    cases stems with
    | direct points => exact .inl (points.single file source)
    | @call head rest inner is suffix points =>
      obtain ⟨token, behind, concerns⟩ := points
      have ordered := List.pairwise_cons.mp (line.arranged.rising.sublist suffix.sublist)
      have later : head.column < inner.column := by
        rw [concerns.column_eq]
        exact ordered.1 token behind
      have one : (inner.locate file line).toFailure.spots = [(inner.locate file line).spot] :=
        ParseError.spots_of_plain concerns.plain
      have inside := (List.suffix_cons head rest).trans suffix
      refine .inr ⟨inner.locate file line, ?_, rfl, concerns.plain, rfl,
        ⟨head, suffix.subset List.mem_cons_self, is, rfl⟩, rfl, later,
        ⟨token, inside.subset behind, concerns⟩⟩
      change _ :: (inner.locate file line).toFailure.spots = _
      rw [one]

theorem columns_cutOffSource :
    ∃ error, parse [] SourceLanguage.cutOffSource true = .error error ∧
      error.toFailure.spots.map Spot.column = [13, 20] := by
  have read : (match parse [] SourceLanguage.cutOffSource true with
      | .ok _ => []
      | .error error => error.toFailure.spots.map Spot.column) = [13, 20] := by
    decide +kernel
  cases failed : parse [] SourceLanguage.cutOffSource true with
  | ok context =>
    rw [failed] at read
    cases read
  | error error =>
    rw [failed] at read
    exact ⟨error, rfl, read⟩

/-- The reason for refusing the call that `cutOffSource` breaks off names a second place. -/
theorem parse_places_cutOffSource :
    ∃ error inner, parse [] SourceLanguage.cutOffSource true = .error error ∧
      error.Doubled inner ∧ error.spot.column = 13 ∧ inner.spot.column = 20 := by
  obtain ⟨error, failed, columns⟩ := columns_cutOffSource
  rcases parse_places [] SourceLanguage.cutOffSource true error failed with
    single | ⟨inner, doubled⟩
  · simp [single.spots] at columns
  · simp only [doubled.spots, List.map_cons, List.map_nil] at columns
    injection columns with first columns
    injection columns with second
    exact ⟨error, inner, failed, doubled, first, second⟩

/-- A failure may name more places than its own. -/
theorem cutOffSource_places_twice :
    ¬ ∀ (file source : Bytes) (optimize : Bool) (error : ParseError),
      parse file source optimize = .error error → error.toFailure.spots = [error.spot] := by
  intro one
  obtain ⟨error, failed, columns⟩ := columns_cutOffSource
  simp [one _ _ _ error failed] at columns

end Context
end Blockwork
