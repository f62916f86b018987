import Blockwork.Proofs.Reports
import Mathlib.Data.List.Perm.Basic

/-!
# Brackets

The beginnings and ends of spans among trace events, read as brackets. Events are well nested if
every end closes the span that was opened last and is not closed yet, and if everything else names
that span as the one around it. Whatever the tracer is, a span that the journal begins and ends
makes brackets around what is traced in between, or no events at all.
-/

namespace Blockwork
namespace Trace

/-! ## Counters -/

/-- What a counter of sixty-four bits shows after each of so many steps, if it showed the given
number before. -/
def ticks (shown : UInt64) (count : Nat) : List UInt64 := List.iterate (· + 1) (shown + 1) count

/-- Until it goes around, such a counter gives each number once, in order. -/
theorem map_toNat_ticks {last count : Nat} (room : last + count < Nat.pow 2 64) :
    (ticks (UInt64.ofNat last) count).map UInt64.toNat = List.range' (last + 1) count := by
  unfold ticks
  induction count generalizing last with
  | zero => rfl
  | succ count ih =>
    have next : UInt64.ofNat last + 1 = UInt64.ofNat (last + 1) := UInt64.ofNat_add last 1 |>.symm
    have value : (UInt64.ofNat (last + 1)).toNat = last + 1 := by
      rw [UInt64.toNat_ofNat']
      exact Nat.mod_eq_of_lt (Nat.lt_of_le_of_lt (Nat.add_le_add_left (Nat.succ_pos count) last) room)
    have rest := @ih (last + 1) (by omega)
    rw [next, List.iterate, List.map_cons, value, rest, List.range'_succ]

/-! ## Well nested events -/

/-- The span that was opened last, of those that are open; zero if none is. -/
def innermost (opened : List Event) : Nat := (opened.head?.map Event.span).getD 0

/-- The spans that are open after an event, if it fits: an end closes the span that was opened last,
and everything else names that span as the one around it. The span that was opened last stands
first. -/
def nest (opened : List Event) (event : Event) : Option (List Event) :=
  if event.kind = .opening then
    if event.span ≠ 0 ∧ event.parent = innermost opened then some (event :: opened) else none
  else if event.kind = .closing then
    match opened with
    | [] => none
    | first :: rest =>
      if event.span = first.span ∧ event.parent = first.parent ∧ event.name = first.name ∧
          event.scope = first.scope then some rest
      else none
  else if event.kind = .point ∨ event.kind = .error then
    if event.parent = innermost opened then some opened else none
  else none

/-- The spans that begin among events. -/
def begun (events : List Event) : List Nat :=
  (events.filter fun event => event.kind = .opening).map Event.span

/-- The spans that end among events. -/
def ended (events : List Event) : List Nat :=
  (events.filter fun event => event.kind = .closing).map Event.span

/-- Whether events that happen in a span are well nested and leave no span open. -/
def Balanced (parent : Nat) (events : List Event) : Prop :=
  ∀ opened, innermost opened = parent → events.foldlM nest opened = some opened

variable {parent low middle high : Nat} {events events' : List Event}

theorem begun_append (events events' : List Event) :
    begun (events ++ events') = begun events ++ begun events' := by
  rw [begun, List.filter_append, List.map_append]
  rfl

/-- The spans that begin, with those that were open before, are the spans that end, with those that
are open afterwards. -/
theorem perm_of_nest {opened opened' : List Event}
    (nested : events.foldlM nest opened = some opened') :
    (begun events ++ opened.map Event.span).Perm (ended events ++ opened'.map Event.span) := by
  induction events generalizing opened with
  | nil =>
    cases nested
    exact .refl _
  | cons event rest ih =>
    obtain ⟨middle, first, last⟩ := Option.bind_eq_some_iff.mp nested
    have rest := ih last
    unfold nest at first
    split at first
    · rename_i kind
      obtain ⟨-, same⟩ := Option.ite_none_right_eq_some.mp first
      cases same
      have other : event.kind ≠ .closing := by rw [kind]; decide
      rw [begun, ended, List.filter_cons_of_pos (by simpa using kind),
        List.filter_cons_of_neg (by simpa using other)]
      exact List.perm_middle.symm.trans rest
    · rename_i other
      rw [begun, List.filter_cons_of_neg (by simpa using other)]
      split at first
      · rename_i kind
        rw [ended, List.filter_cons_of_pos (by simpa using kind)]
        split at first
        · cases first
        · rename_i outer inner
          obtain ⟨⟨same, -⟩, kept⟩ := Option.ite_none_right_eq_some.mp first
          cases kept
          rw [List.map_cons, List.map_cons, ← same]
          exact List.perm_middle.trans (rest.cons _)
      · rename_i other'
        rw [ended, List.filter_cons_of_neg (by simpa using other')]
        split at first
        · obtain ⟨-, same⟩ := Option.ite_none_right_eq_some.mp first
          cases same
          exact rest
        · cases first

namespace Balanced

theorem nil (parent : Nat) : Balanced parent [] := fun _ _ => rfl

theorem append (early : Balanced parent events) (late : Balanced parent events') :
    Balanced parent (events ++ events') := by
  intro opened around
  rw [List.foldlM_append, early opened around]
  exact late opened around

/-- Something that happens or fails in a span. -/
theorem single {event : Event} (kind : event.kind = .point ∨ event.kind = .error)
    (inside : event.parent = parent) : Balanced parent [event] := by
  intro opened around
  have notOpening : event.kind ≠ .opening := by
    rcases kind with same | same <;> rw [same] <;> decide
  have notClosing : event.kind ≠ .closing := by
    rcases kind with same | same <;> rw [same] <;> decide
  have fits : nest opened event = some opened := by
    unfold nest
    rw [if_neg notOpening, if_neg notClosing, if_pos kind, if_pos (inside.trans around.symm)]
  rw [List.foldlM_cons, fits]
  rfl

/-- A span with everything that happens in it. -/
theorem bracket {opening closing : Event} (begins : opening.kind = .opening)
    (ends : closing.kind = .closing) (numbered : opening.span ≠ 0)
    (inside : opening.parent = parent) (same : closing.span = opening.span ∧
      closing.parent = opening.parent ∧ closing.name = opening.name ∧
      closing.scope = opening.scope)
    (balanced : Balanced opening.span events) :
    Balanced parent (opening :: events ++ [closing]) := by
  intro opened around
  have notOpening : closing.kind ≠ .opening := by rw [ends]; decide
  have first : nest opened opening = some (opening :: opened) := by
    unfold nest
    rw [if_pos begins, if_pos ⟨numbered, inside.trans around.symm⟩]
  have last : nest (opening :: opened) closing = some opened := by
    unfold nest
    rw [if_neg notOpening, if_pos ends]
    exact if_pos same
  rw [List.cons_append, List.foldlM_cons, first]
  change (events ++ [closing]).foldlM nest (opening :: opened) = some opened
  rw [List.foldlM_append, balanced _ rfl]
  change [closing].foldlM nest (opening :: opened) = some opened
  rw [List.foldlM_cons, last]
  rfl

end Balanced

/-- Whether the spans that begin among events take their numbers from a counter that moves on from
one number to another. -/
structure Counted (low high : Nat) (events : List Event) : Prop where
  /-- Each span that begins takes one number. -/
  spent : high = low + (begun events).length
  /-- They take them in order. -/
  begun_eq : begun events = List.range' (low + 1) (begun events).length

theorem Counted.append (early : Counted low middle events) (late : Counted middle high events') :
    Counted low high (events ++ events') where
  spent := by
    rw [late.spent, early.spent, begun_append, List.length_append, Nat.add_assoc]
  begun_eq := by
    rw [begun_append, List.length_append, ← List.range'_append_1, ← early.begun_eq,
      Nat.add_right_comm, ← early.spent, ← late.begun_eq]

theorem Counted.of_begun_eq_nil (none : begun events = []) : Counted low low events where
  spent := by rw [none]; rfl
  begun_eq := by rw [none]; rfl

/-- The span around others has the number before theirs. -/
theorem Counted.bracket {opening closing : Event} (begins : opening.kind = .opening)
    (ends : closing.kind = .closing) (numbered : opening.span = low + 1)
    (counted : Counted (low + 1) high events) : Counted low high (opening :: events ++ [closing]) := by
  have notOpening : closing.kind ≠ .opening := by rw [ends]; decide
  have first : begun [opening] = [low + 1] := by simp [begun, begins, numbered]
  have starts : Counted low (low + 1) [opening] := ⟨by rw [first]; rfl, by rw [first]; rfl⟩
  have stops : Counted high high [closing] := .of_begun_eq_nil (by simp [begun, notOpening])
  exact (starts.append counted).append stops

/-! ## What the journal hands out -/

theorem level_take (target : Target) (event : Event) : (target.take event).1.level = target.level := by
  cases target <;> rfl

theorem level_annotate (span : Nat) (key value : Bytes) (target : Target) :
    (target.annotate span key value).level = target.level := by
  cases target <;> rfl

theorem levels_distribute (event : Event) (targets : List Target) (sequence : Nat) :
    (Journal.distribute event targets sequence).1.map Target.level = targets.map Target.level := by
  induction targets generalizing sequence with
  | nil => rfl
  | cons target rest ih =>
    rw [Journal.distribute]
    split
    · simp only [List.map_cons, level_take, ih]
    · simp only [List.map_cons, ih]

theorem level_withTargets {tracer : Tracer} {targets : List Target}
    (same : targets.map Target.level = tracer.targets.map Target.level) :
    (tracer.withTargets targets).level = tracer.level := by
  unfold Tracer.withTargets
  split
  · exact List.singleton_inj.mp same
  · rfl
  · rfl

namespace Journal

/-- What a journal does in a span: its level stays, and the events that it hands out are well nested
in that span, number the spans that begin one by one, and are let through by the level. -/
structure Nests (parent : Nat) (journal journal' : Journal) : Prop where
  /-- The level stays. -/
  level : journal'.tracer.level = journal.tracer.level
  /-- The events are well nested, number the spans that begin, and are let through. -/
  handed : ∃ events, journal'.handed = journal.handed ++ events ∧ Balanced parent events ∧
    Counted journal.spans journal'.spans events ∧
    ∀ event ∈ events, journal.tracer.level.accepts event = true

namespace Nests

variable {first second third : Journal}

/-- The journal hands out nothing. -/
theorem quiet (parent : Nat) (level : second.tracer.level = first.tracer.level)
    (spans : second.spans = first.spans) (handed : second.handed = first.handed) :
    Nests parent first second where
  level := level
  handed := ⟨[], handed.trans (List.append_nil _).symm, .nil parent,
    spans ▸ .of_begun_eq_nil rfl, nofun⟩

theorem refl (parent : Nat) (journal : Journal) : Nests parent journal journal :=
  quiet parent rfl rfl rfl

theorem trans (early : Nests parent first second) (late : Nests parent second third) :
    Nests parent first third := by
  obtain ⟨events, handed, balanced, counted, accepted⟩ := early.handed
  obtain ⟨events', handed', balanced', counted', accepted'⟩ := late.handed
  rw [early.level] at accepted'
  refine ⟨late.level.trans early.level, events ++ events', ?_, balanced.append balanced',
    counted.append counted', ?_⟩
  · rw [handed', handed, List.append_assoc]
  · intro event member
    rcases List.mem_append.mp member with inside | inside
    · exact accepted event inside
    · exact accepted' event inside

end Nests

theorem run_emit (event : Event) (journal : Journal) :
    ((emit event).run journal).2.tracer.level = journal.tracer.level ∧
      ((emit event).run journal).2.spans = journal.spans ∧
      ((emit event).run journal).2.handed = journal.handed ++ [event] := by
  rw [state_emit]
  exact ⟨level_withTargets (levels_distribute ..), rfl, rfl⟩

/-- How a journal begins a span: it leaves it out, or hands out its beginning. -/
inductive Opens (scope : Scope) (parent : Nat) (journal : Journal) (span : Span)
    (journal' : Journal) : Prop
  /-- The span is left out. -/
  | leftOut (silent : journal.traces scope = false) (unnumbered : span.id = 0)
    (level : journal'.tracer.level = journal.tracer.level)
    (spans : journal'.spans = journal.spans) (handed : journal'.handed = journal.handed)
  /-- The beginning of the span is handed out. -/
  | opened (traced : journal.traces scope = true) (numbered : span.id = journal.spans + 1)
    (level : journal'.tracer.level = journal.tracer.level)
    (spans : journal'.spans = journal.spans + 1) {event : Event}
    (handed : journal'.handed = journal.handed ++ [event]) (kind : event.kind = .opening)
    (inside : event.parent = parent) (grain : event.scope = scope)
    (alike : span.id = event.span ∧ span.parent = event.parent ∧ span.name = event.name ∧
      span.scope = event.scope)

/-- Two spans that differ at most in when they began and in what is attached to them. -/
def Alike (span span' : Span) : Prop :=
  span'.id = span.id ∧ span'.parent = span.parent ∧ span'.name = span.name ∧
    span'.scope = span.scope

/-- How a journal ends a span: it hands out its end, unless the span was left out. -/
structure Closes (span : Span) (journal journal' : Journal) : Prop where
  /-- The level stays. -/
  level : journal'.tracer.level = journal.tracer.level
  /-- No span is numbered. -/
  spans : journal'.spans = journal.spans
  /-- Nothing is handed out for a span that was left out. -/
  leftOut : span.id = 0 → journal'.handed = journal.handed
  /-- The end of any other span is handed out. -/
  closed : span.id ≠ 0 → journal.tracer.enabled = true → ∃ event,
    journal'.handed = journal.handed ++ [event] ∧ event.kind = .closing ∧
    event.span = span.id ∧ event.parent = span.parent ∧ event.name = span.name ∧
    event.scope = span.scope

/-- The end of a span is that of any span like it. -/
theorem Closes.of_alike {span span' : Span} {journal journal' : Journal} (alike : Alike span span')
    (closes : Closes span' journal journal') : Closes span journal journal' := by
  obtain ⟨id, parent, name, scope⟩ := alike
  refine ⟨closes.level, closes.spans, fun none => closes.leftOut (id.trans none), ?_⟩
  intro numbered enabled
  obtain ⟨event, handed, kind, id', parent', name', scope'⟩ :=
    closes.closed (fun none => numbered (id.symm.trans none)) enabled
  exact ⟨event, handed, kind, id'.trans id, parent'.trans parent, name'.trans name,
    scope'.trans scope⟩

theorem opens_begin (scope : Scope) (name : Bytes) (parent : Nat) (now : Instant)
    (journal : Journal) : Opens scope parent journal ((begin scope name parent now).run journal).1
      ((begin scope name parent now).run journal).2 := by
  cases traced : journal.traces scope with
  | false =>
    have left : (begin scope name parent now).run journal = ({}, journal) := by
      simp [begin, traced]
      rfl
    rw [left]
    exact .leftOut traced rfl rfl rfl rfl
  | true =>
    let event : Event :=
      { time := now, kind := .opening, scope := scope, span := journal.spans + 1,
        parent := parent, name := name }
    have begins : (begin scope name parent now).run journal =
        ({ id := journal.spans + 1, parent := parent, scope := scope, name := name, started := now },
          ((emit event).run { journal with spans := journal.spans + 1 }).2) := by
      simp [begin, traced]
      rfl
    obtain ⟨level, spans, handed⟩ := run_emit event { journal with spans := journal.spans + 1 }
    rw [begins]
    exact .opened traced rfl level spans handed rfl rfl rfl ⟨rfl, rfl, rfl, rfl⟩

/-- Points, errors and ends of spans: an event is handed out if any is wanted. -/
theorem run_report (wanted : Journal → Bool) (event : Event) (journal : Journal) :
    ((do if wanted (← get) then let _ ← emit event : StateM Journal Unit).run journal).2 =
      if wanted journal then ((emit event).run journal).2 else journal := by
  cases held : wanted journal with
  | false =>
    simp [held]
    rfl
  | true =>
    simp [held]
    rfl

/-- The end of a span, as it is handed out. -/
def ending (span : Span) (detail : Bytes) (now : Instant) : Event where
  time := now
  kind := .closing
  scope := span.scope
  span := span.id
  parent := span.parent
  name := span.name
  detail := detail
  elapsed := now.since span.started
  extra := match span.extra with
    | none => .absent
    | some pairs => .ofSpan pairs

theorem closes_finish (span : Span) (detail : Bytes) (now : Instant) (journal : Journal) :
    Closes span journal ((finish span detail now).run journal).2 := by
  refine Eq.substr (run_report (fun journal => span.id ≠ 0 && journal.tracer.enabled)
    (ending span detail now) journal) ?_
  split
  case isTrue wanted =>
    obtain ⟨level, spans, handed⟩ := run_emit _ journal
    have numbered : span.id ≠ 0 := by simpa using (Bool.and_eq_true_iff.mp wanted).1
    exact ⟨level, spans, fun none => absurd none numbered,
      fun _ _ => ⟨_, handed, rfl, rfl, rfl, rfl, rfl⟩⟩
  case isFalse unwanted =>
    refine ⟨rfl, rfl, fun _ => rfl, fun numbered enabled => absurd ?_ unwanted⟩
    simpa using ⟨numbered, enabled⟩

theorem nests_report {parent : Nat} {event : Event} (wanted : Journal → Bool)
    {journal : Journal} (kind : event.kind = .point ∨ event.kind = .error)
    (inside : event.parent = parent)
    (accepted : wanted journal = true → journal.tracer.level.accepts event = true) :
    Nests parent journal
      ((do if wanted (← get) then let _ ← emit event : StateM Journal Unit).run journal).2 := by
  rw [run_report]
  split
  case isFalse => exact .refl parent journal
  case isTrue held =>
    obtain ⟨level, spans, handed⟩ := run_emit event journal
    have notOpening : event.kind ≠ .opening := by
      rcases kind with same | same <;> rw [same] <;> decide
    have none : begun [event] = [] := by
      rw [begun, List.filter_cons_of_neg (by simpa using notOpening)]
      rfl
    refine ⟨level, [event], handed, .single kind inside, spans ▸ .of_begun_eq_nil none,
      fun other member => ?_⟩
    rw [List.mem_singleton.mp member]
    exact accepted held

theorem nests_point {parent : Nat} (scope : Scope) (name detail : Bytes) (now : Instant)
    (journal : Journal) :
    Nests parent journal ((point scope name detail parent now).run journal).2 := by
  refine nests_report (·.traces scope) (.inl rfl) rfl fun traced => ?_
  have passes := (Bool.and_eq_true_iff.mp traced).2
  simp [Level.accepts, passes]

theorem nests_error {parent : Nat} (name : Bytes) (failure : Failure) (now : Instant)
    (journal : Journal) :
    Nests parent journal ((error name failure parent now).run journal).2 :=
  nests_report (·.tracer.enabled) (.inr rfl) rfl fun _ => rfl

/-- Attaching a value changes neither what tells a span from others nor what is handed out. -/
theorem annotate_keeps (span : Span) (key value : Bytes) (journal : Journal) (parent : Nat) :
    Alike span ((annotate span key value).run journal).1 ∧
      Nests parent journal ((annotate span key value).run journal).2 := by
  cases wanted : (span.id ≠ 0 && journal.tracer.enabled : Bool) with
  | false =>
    have kept : (annotate span key value).run journal = (span, journal) := by
      simp only [annotate, wanted, StateT.run_bind, StateT.run_get, pure_bind, Bool.false_eq_true,
        if_false]
      rfl
    rw [kept]
    exact ⟨⟨rfl, rfl, rfl, rfl⟩, .refl parent journal⟩
  | true =>
    have changed : (annotate span key value).run journal =
        ({ span with extra := some (assign key value (span.extra.getD [])) },
          { journal with tracer := journal.tracer.annotate span.id key value }) := by
      simp only [annotate, wanted, StateT.run_bind, StateT.run_get, pure_bind, if_true]
      rfl
    have level : (journal.tracer.annotate span.id key value).level = journal.tracer.level :=
      level_withTargets (by simp [level_annotate])
    rw [changed]
    exact ⟨⟨rfl, rfl, rfl, rfl⟩, .quiet parent level rfl rfl⟩

/-- A span with what happens in it is well nested in the span around it. -/
theorem Opens.nests {scope : Scope} {parent : Nat} {span : Span}
    {first second third fourth : Journal} (opens : Opens scope parent first span second)
    (inner : Nests (if span.id = 0 then parent else span.id) second third)
    (closes : Closes span third fourth) : Nests parent first fourth := by
  cases opens with
  | leftOut silent unnumbered level spans handed =>
    rw [if_pos unnumbered] at inner
    have last : Nests parent third fourth :=
      .quiet parent closes.level closes.spans (closes.leftOut unnumbered)
    exact (Nests.quiet parent level spans handed).trans (inner.trans last)
  | @opened traced numbered level spans event handed kind inside grain same =>
    have nonzero : span.id ≠ 0 := by omega
    rw [if_neg nonzero] at inner
    obtain ⟨enabled, passes⟩ := Bool.and_eq_true_iff.mp traced
    obtain ⟨events, handed', balanced, counted, accepted⟩ := inner.handed
    have enabled' : third.tracer.enabled = true := by
      rw [Tracer.enabled, inner.level, level]
      exact enabled
    obtain ⟨closing, handed'', kind', ends⟩ :=
      closes.closed nonzero enabled'
    have pair : closing.span = event.span ∧ closing.parent = event.parent ∧
        closing.name = event.name ∧ closing.scope = event.scope := by
      obtain ⟨id, around, name, grain⟩ := ends
      exact ⟨id.trans same.1, around.trans same.2.1, name.trans same.2.2.1,
        grain.trans same.2.2.2⟩
    rw [spans] at counted
    refine ⟨closes.level.trans (inner.level.trans level), event :: events ++ [closing], ?_, ?_, ?_,
      ?_⟩
    · rw [handed'', handed', handed]
      simp
    · refine .bracket kind kind' (same.1 ▸ nonzero) inside pair ?_
      rwa [← same.1]
    · rw [closes.spans]
      exact counted.bracket kind kind' (same.1.symm.trans numbered)
    · intro other member
      have lets {other : Event} (grain' : other.scope = scope) :
          first.tracer.level.accepts other = true := by
        simp [Level.accepts, grain', passes]
      rcases List.mem_append.mp member with inner' | last
      · rcases List.mem_cons.mp inner' with rfl | inside
        · exact lets grain
        · rw [← level]
          exact accepted other inside
      · rw [List.mem_singleton.mp last]
        exact lets (pair.2.2.2.trans grain)

end Journal
end Trace
end Blockwork
