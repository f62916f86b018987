import Blockwork.Proofs.Brackets
import Blockwork.Proofs.Recency

/-!
# The numbers of events

Tracers count together: whatever takes an event gives it the next number. So whatever is emitted
through whichever tracer, no number is given twice, and each target takes, in order, exactly the
events that its level lets through. A ring then keeps the last of these.
-/

namespace Blockwork
namespace Trace

/-! ## Takings -/

/-- An event that is handed to a tracer. -/
structure Emission where
  /-- The number of the tracer. -/
  tracer : Nat
  /-- The event. -/
  event : Event
deriving DecidableEq, Repr

/-- An event that a target takes. -/
structure Taking where
  /-- The number of the tracer. -/
  tracer : Nat
  /-- The number of the target among those of the tracer. -/
  target : Nat
  /-- The event, with the number that it is given. -/
  event : Event
deriving DecidableEq, Repr

/-- An event with another number. -/
def Event.withNumber (event : Event) (number : Nat) : Event := { event with sequence := number }

/-- An event without its number. -/
def Event.unnumbered (event : Event) : Event := event.withNumber 0

namespace Taking

/-- What becomes of an emission to targets of the given levels, of which the first has the given
place: those whose level lets the event through take it. -/
def offered (emission : Emission) (levels : List Level) (place : Nat) : List Taking :=
  (levels.zipIdx place).filterMap fun (level, target) =>
    if level.accepts emission.event then some ⟨emission.tracer, target, emission.event⟩ else none

/-- Takings with numbers from a first one on. -/
def numbered (first : Nat) (takings : List Taking) : List Taking :=
  (takings.zipIdx first).map fun (taking, number) =>
    ⟨taking.tracer, taking.target, taking.event.withNumber number⟩

/-- The events that a target takes. -/
def eventsAt (tracer target : Nat) (takings : List Taking) : List Event :=
  (takings.filter fun taking => taking.tracer = tracer ∧ taking.target = target).map Taking.event

variable (emission : Emission) (levels : List Level) (place first : Nat)

theorem offered_cons (level : Level) :
    offered emission (level :: levels) place =
      if level.accepts emission.event then
        ⟨emission.tracer, place, emission.event⟩ :: offered emission levels (place + 1)
      else offered emission levels (place + 1) := by
  rw [offered, List.zipIdx_cons, List.filterMap_cons]
  split <;> rename_i taken <;> split at taken <;> simp_all [offered]

theorem numbered_cons (taking : Taking) (rest : List Taking) :
    numbered first (taking :: rest) =
      ⟨taking.tracer, taking.target, taking.event.withNumber first⟩ ::
        numbered (first + 1) rest := by
  rw [numbered, List.zipIdx_cons, List.map_cons, ← numbered]

theorem numbered_append (takings rest : List Taking) :
    numbered first (takings ++ rest) =
      numbered first takings ++ numbered (first + takings.length) rest := by
  rw [numbered, List.zipIdx_append, List.map_append, ← numbered, ← numbered]

theorem length_numbered (takings : List Taking) :
    (numbered first takings).length = takings.length := by
  rw [numbered, List.length_map, List.length_zipIdx]

theorem map_sequence_numbered (takings : List Taking) :
    ((numbered first takings).map fun taking => taking.event.sequence) =
      List.range' first takings.length := by
  rw [numbered, List.map_map]
  exact List.zipIdx_map_snd first takings

theorem eventsAt_append (tracer target : Nat) (takings rest : List Taking) :
    eventsAt tracer target (takings ++ rest) =
      eventsAt tracer target takings ++ eventsAt tracer target rest := by
  rw [eventsAt, List.filter_append, List.map_append, ← eventsAt, ← eventsAt]

theorem eventsAt_cons (tracer target : Nat) (taking : Taking) (rest : List Taking) :
    eventsAt tracer target (taking :: rest) =
      if taking.tracer = tracer ∧ taking.target = target then
        taking.event :: eventsAt tracer target rest
      else eventsAt tracer target rest := by
  rw [eventsAt, List.filter_cons]
  split <;> simp_all [eventsAt]

/-- Numbers aside, each target takes the same as before. -/
theorem map_unnumbered_eventsAt (tracer target : Nat) (takings : List Taking) :
    (eventsAt tracer target (numbered first takings)).map Event.unnumbered =
      (eventsAt tracer target takings).map Event.unnumbered := by
  induction takings generalizing first with
  | nil => rfl
  | cons taking rest ih =>
    rw [numbered_cons, eventsAt_cons, eventsAt_cons]
    split
    · rw [List.map_cons, ih, List.map_cons]
      rfl
    · exact ih _

/-- Only targets of the tracer take anything, and none in front of the first. -/
theorem mem_offered {taking : Taking} (member : taking ∈ offered emission levels place) :
    taking.tracer = emission.tracer ∧ place ≤ taking.target := by
  induction levels generalizing place with
  | nil => cases member
  | cons level rest ih =>
    rw [offered_cons] at member
    have later (inside : taking ∈ offered emission rest (place + 1)) :
        taking.tracer = emission.tracer ∧ place ≤ taking.target :=
      ⟨(ih _ inside).1, Nat.le_of_succ_le (ih _ inside).2⟩
    split at member
    · rcases List.mem_cons.mp member with rfl | inside
      · exact ⟨rfl, Nat.le_refl _⟩
      · exact later inside
    · exact later member

theorem eventsAt_offered_of_not {tracer target : Nat}
    (elsewhere : tracer ≠ emission.tracer ∨ target < place) :
    eventsAt tracer target (offered emission levels place) = [] := by
  rw [eventsAt, List.map_eq_nil_iff, List.filter_eq_nil_iff]
  intro taking member
  obtain ⟨tracer', behind⟩ := mem_offered emission levels place member
  simp only [decide_eq_true_eq, not_and]
  omega

theorem eventsAt_numbered_eq_nil {tracer target : Nat} {takings : List Taking}
    (nothing : eventsAt tracer target takings = []) :
    eventsAt tracer target (numbered first takings) = [] := by
  rw [← List.map_eq_nil_iff (f := Event.unnumbered), map_unnumbered_eventsAt, nothing]
  rfl

/-- A target takes an event exactly if its level lets it through. -/
theorem eventsAt_offered {index : Nat} {level : Level} (found : levels[index]? = some level) :
    eventsAt emission.tracer (place + index) (offered emission levels place) =
      if level.accepts emission.event then [emission.event] else [] := by
  induction levels generalizing place index with
  | nil => cases found
  | cons first rest ih =>
    rw [offered_cons]
    cases index with
    | zero =>
      cases found
      have clear : eventsAt emission.tracer place (offered emission rest (place + 1)) = [] :=
        eventsAt_offered_of_not _ _ _ (.inr (Nat.lt_succ_self place))
      split
      · rw [eventsAt_cons, if_pos ⟨rfl, rfl⟩, Nat.add_zero, clear]
      · exact clear
    | succ index =>
      have later := ih (place + 1) found
      rw [Nat.succ_add_eq_add_succ] at later
      split
      · rw [eventsAt_cons, if_neg (by simp)]
        exact later
      · exact later

end Taking

open Taking

/-! ## One emission -/

/-- A target after it has taken events in turn. -/
def Target.takeAll (target : Target) (events : List Event) : Target :=
  events.foldl (fun target event => (target.take event).1) target

theorem Target.takeAll_stream (written : Stream) (events : List Event) :
    (Target.stream written).takeAll events = .stream written := by
  induction events with
  | nil => rfl
  | cons event rest ih => exact ih

theorem Target.takeAll_ring (kept : Ring) (events : List Event) :
    (Target.ring kept).takeAll events = .ring (events.foldl Ring.push kept) := by
  induction events generalizing kept with
  | nil => rfl
  | cons event rest ih => exact ih (kept.push event)

theorem Target.level_takeAll (target : Target) (events : List Event) :
    (target.takeAll events).level = target.level := by
  cases target with
  | stream written => rw [takeAll_stream]
  | ring kept =>
    rw [takeAll_ring]
    induction events generalizing kept with
    | nil => rfl
    | cons event rest ih => exact ih (kept.push event)

/-- What a target asks of its sink when it takes an event does not depend on what it took before. -/
theorem Target.take_takeAll (target : Target) (events : List Event) (event : Event) :
    ((target.takeAll events).take event).2 = (target.take event).2 := by
  cases target with
  | stream written => rw [takeAll_stream]
  | ring kept => rw [takeAll_ring]; rfl

namespace Journal

variable (emission : Emission) (targets : List Target) (place sequence : Nat)

/-- Each target that takes the event gives it one number. -/
theorem sequence_distribute :
    (distribute emission.event targets sequence).2.1 =
      sequence + (offered emission (targets.map Target.level) place).length := by
  induction targets generalizing place sequence with
  | nil => rfl
  | cons target rest ih =>
    rw [distribute, List.map_cons, offered_cons]
    split
    · rw [List.length_cons, ih (place + 1) (sequence + 1)]
      omega
    · exact ih (place + 1) sequence

/-- Each target that takes the event takes it with its number, and the others take nothing. -/
theorem getElem?_distribute (index : Nat) :
    (distribute emission.event targets sequence).1[index]? =
      targets[index]?.map fun target => target.takeAll (eventsAt emission.tracer (place + index)
        (numbered (sequence + 1) (offered emission (targets.map Target.level) place))) := by
  induction targets generalizing place sequence index with
  | nil => rfl
  | cons target rest ih =>
    have clear (first : Nat) : eventsAt emission.tracer place (numbered first
        (offered emission (rest.map Target.level) (place + 1))) = [] :=
      eventsAt_numbered_eq_nil first
        (eventsAt_offered_of_not _ _ _ (.inr (Nat.lt_succ_self place)))
    rw [distribute, List.map_cons, offered_cons]
    split
    · rw [numbered_cons, eventsAt_cons]
      cases index with
      | zero => simp [Target.takeAll, Event.withNumber, clear]
      | succ index =>
        rw [if_neg (by simp), List.getElem?_cons_succ, List.getElem?_cons_succ,
          ih (place + 1) (sequence + 1) index, Nat.succ_add_eq_add_succ]
    · cases index with
      | zero => simp [Target.takeAll, clear]
      | succ index =>
        rw [List.getElem?_cons_succ, List.getElem?_cons_succ, ih (place + 1) sequence index,
          Nat.succ_add_eq_add_succ]

/-- What is asked of sinks: each target that takes the event asks for what it asks for. -/
theorem requests_distribute (ask : Taking → List (Sink × Request))
    (asks : ∀ index event, ask ⟨emission.tracer, place + index, event⟩ =
      (targets[index]?.map fun target => (target.take event).2).getD []) :
    (distribute emission.event targets sequence).2.2.1 =
      (numbered (sequence + 1)
        (offered emission (targets.map Target.level) place)).flatMap ask := by
  induction targets generalizing place sequence with
  | nil => rfl
  | cons target rest ih =>
    have later : ∀ index event, ask ⟨emission.tracer, place + 1 + index, event⟩ =
        (rest[index]?.map fun target => (target.take event).2).getD [] := fun index event => by
      rw [Nat.succ_add_eq_add_succ, asks, List.getElem?_cons_succ]
    rw [distribute, List.map_cons, offered_cons]
    split
    · rw [numbered_cons, List.flatMap_cons, ← ih (place + 1) (sequence + 1) later]
      exact congrArg (· ++ _) (asks 0 _).symm
    · exact ih (place + 1) sequence later

end Journal

/-! ## Several tracers -/

theorem Tracer.targets_withTargets (tracer : Tracer) {targets : List Target}
    (same : targets.length = tracer.targets.length) :
    (tracer.withTargets targets).targets = targets := by
  cases tracer with
  | off => exact (List.length_eq_zero_iff.mp same).symm
  | fan level old => rfl
  | single old =>
    obtain ⟨target, rfl⟩ := List.length_eq_one_iff.mp same
    rfl

/-- Tracers that number events from one count. -/
structure Desk where
  /-- The tracers. -/
  tracers : List Tracer
  /-- The last number given to an event. -/
  sequence : Nat := 0
  /-- What is asked of sinks and not yet done. -/
  outbox : List (Sink × Request) := []

namespace Desk

/-- Hands an event to a tracer, if it is there. -/
def emit (desk : Desk) (emission : Emission) : Desk :=
  match desk.tracers[emission.tracer]? with
  | none => desk
  | some tracer =>
    let journal := ((Journal.emit emission.event).run
      { tracer, sequence := desk.sequence, outbox := desk.outbox }).2
    { tracers := desk.tracers.set emission.tracer journal.tracer
      sequence := journal.sequence
      outbox := journal.outbox }

/-- Hands out events in turn. -/
def run (desk : Desk) (emissions : List Emission) : Desk := emissions.foldl emit desk

/-- The targets of a tracer. -/
def targets (desk : Desk) (tracer : Nat) : List Target :=
  (desk.tracers[tracer]?.map Tracer.targets).getD []

/-- The takings of one emission, without numbers. -/
def takings (desk : Desk) (emission : Emission) : List Taking :=
  offered emission ((desk.targets emission.tracer).map Target.level) 0

/-- What targets take of events that are handed out in turn, with the numbers from the next one
on. -/
def log (desk : Desk) (emissions : List Emission) : List Taking :=
  numbered (desk.sequence + 1) (emissions.flatMap desk.takings)

/-- What a target asks of its sink when it takes an event. -/
def asked (desk : Desk) (taking : Taking) : List (Sink × Request) :=
  ((desk.targets taking.tracer)[taking.target]?.map fun target =>
    (target.take taking.event).2).getD []

variable (desk : Desk) (emission : Emission)

theorem log_singleton :
    desk.log [emission] = numbered (desk.sequence + 1) (desk.takings emission) := by
  rw [log, List.flatMap_singleton]

theorem emit_of_none (missing : desk.tracers[emission.tracer]? = none) :
    desk.emit emission = desk := by
  rw [emit, missing]

theorem takings_of_none (missing : desk.tracers[emission.tracer]? = none) :
    desk.takings emission = [] := by
  rw [takings, targets, missing]
  rfl

variable {desk emission}

theorem targets_of_some {number : Nat} {tracer : Tracer}
    (held : desk.tracers[number]? = some tracer) : desk.targets number = tracer.targets := by
  rw [targets, held]
  rfl

theorem emit_of_some {tracer : Tracer} (held : desk.tracers[emission.tracer]? = some tracer) :
    desk.emit emission =
      { tracers := desk.tracers.set emission.tracer (tracer.withTargets
          (Journal.distribute emission.event tracer.targets desk.sequence).1)
        sequence := (Journal.distribute emission.event tracer.targets desk.sequence).2.1
        outbox := desk.outbox ++
          (Journal.distribute emission.event tracer.targets desk.sequence).2.2.1 } := by
  rw [emit, held]
  simp only [Journal.state_emit]

variable (desk emission)

theorem sequence_emit :
    (desk.emit emission).sequence = desk.sequence + (desk.takings emission).length := by
  cases held : desk.tracers[emission.tracer]? with
  | none =>
    rw [emit_of_none desk emission held, takings_of_none desk emission held]
    rfl
  | some tracer =>
    rw [emit_of_some held, takings, targets_of_some held]
    exact Journal.sequence_distribute emission tracer.targets 0 desk.sequence

theorem outbox_emit :
    (desk.emit emission).outbox = desk.outbox ++ (desk.log [emission]).flatMap desk.asked := by
  rw [log_singleton]
  cases held : desk.tracers[emission.tracer]? with
  | none =>
    rw [emit_of_none desk emission held, takings_of_none desk emission held]
    exact (List.append_nil _).symm
  | some tracer =>
    rw [emit_of_some held, takings, targets_of_some held]
    refine congrArg _ (Journal.requests_distribute emission tracer.targets 0 desk.sequence _ ?_)
    intro index event
    rw [asked, targets_of_some held, Nat.zero_add]

theorem targets_emit_of_ne {number : Nat} (other : number ≠ emission.tracer) :
    (desk.emit emission).targets number = desk.targets number := by
  cases held : desk.tracers[emission.tracer]? with
  | none => rw [emit_of_none desk emission held]
  | some tracer => rw [emit_of_some held, targets, List.getElem?_set_ne other.symm, ← targets]

theorem targets_emit_self {tracer : Tracer}
    (held : desk.tracers[emission.tracer]? = some tracer) :
    (desk.emit emission).targets emission.tracer =
      (Journal.distribute emission.event tracer.targets desk.sequence).1 := by
  have inside : emission.tracer < desk.tracers.length :=
    (List.getElem?_eq_some_iff.mp held).choose
  have same := congrArg List.length
    (levels_distribute emission.event tracer.targets desk.sequence)
  rw [List.length_map, List.length_map] at same
  rw [emit_of_some held, targets, List.getElem?_set_self inside]
  exact tracer.targets_withTargets same

/-- Each target takes what the log says, and nothing else. -/
theorem getElem?_targets_emit (number index : Nat) :
    ((desk.emit emission).targets number)[index]? =
      (desk.targets number)[index]?.map fun target =>
        target.takeAll (eventsAt number index (desk.log [emission])) := by
  rw [log_singleton]
  by_cases same : number = emission.tracer
  · subst same
    cases held : desk.tracers[emission.tracer]? with
    | none =>
      have nothing : desk.targets emission.tracer = [] := by rw [targets, held]; rfl
      rw [emit_of_none desk emission held, nothing]
      rfl
    | some tracer =>
      rw [targets_emit_self desk emission held, takings, targets_of_some held,
        Journal.getElem?_distribute emission tracer.targets 0 desk.sequence index, Nat.zero_add]
  · rw [targets_emit_of_ne desk emission same, takings,
      eventsAt_numbered_eq_nil _ (eventsAt_offered_of_not _ _ _ (.inl same))]
    exact Option.map_id'.symm

end Desk

/-! ## A whole run -/

/-- What lies between two desks: the takings of a log have happened, in order, and nothing else. -/
structure Desk.Takes (desk : Desk) (log : List Taking) (desk' : Desk) : Prop where
  /-- Each taking uses up a number. -/
  sequence : desk'.sequence = desk.sequence + log.length
  /-- Each target has taken the events that the log says. -/
  targets : ∀ number index, (desk'.targets number)[index]? =
    (desk.targets number)[index]?.map (Target.takeAll · (eventsAt number index log))
  /-- For each taking, the target asks its sink for what it asks for. -/
  outbox : desk'.outbox = desk.outbox ++ log.flatMap desk.asked

namespace Desk.Takes

variable {first second third : Desk} {log log' : List Taking}

theorem refl (desk : Desk) : desk.Takes [] desk where
  sequence := rfl
  targets _ _ := Option.map_id'.symm
  outbox := (List.append_nil _).symm

theorem levels (takes : first.Takes log second) (number : Nat) :
    (second.targets number).map Target.level = (first.targets number).map Target.level := by
  refine List.ext_getElem? fun index => ?_
  rw [List.getElem?_map, List.getElem?_map, takes.targets, Option.map_map]
  exact congrArg (Option.map · _) (funext fun target => target.level_takeAll _)

theorem takings (takes : first.Takes log second) : second.takings = first.takings := by
  funext emission
  rw [Desk.takings, takes.levels, ← Desk.takings]

theorem asked (takes : first.Takes log second) : second.asked = first.asked := by
  funext taking
  rw [Desk.asked, takes.targets, Option.map_map, Desk.asked]
  exact congrArg (Option.getD · []) (congrArg (Option.map · _)
    (funext fun target => target.take_takeAll _ _))

theorem trans (early : first.Takes log second) (late : second.Takes log' third) :
    first.Takes (log ++ log') third where
  sequence := by rw [late.sequence, early.sequence, List.length_append, Nat.add_assoc]
  targets number index := by
    rw [late.targets, early.targets, Option.map_map, eventsAt_append]
    refine congrArg (Option.map · _) (funext fun target => ?_)
    exact List.foldl_append.symm
  outbox := by
    rw [late.outbox, early.outbox, early.asked, List.flatMap_append, List.append_assoc]

end Desk.Takes

namespace Desk

theorem takes_emit (desk : Desk) (emission : Emission) :
    desk.Takes (desk.log [emission]) (desk.emit emission) where
  sequence := by rw [sequence_emit, log_singleton, length_numbered]
  targets := getElem?_targets_emit desk emission
  outbox := outbox_emit desk emission

theorem log_cons (desk : Desk) (emission : Emission) (rest : List Emission) :
    desk.log (emission :: rest) = desk.log [emission] ++ (desk.emit emission).log rest := by
  rw [log_singleton, log, log, List.flatMap_cons, numbered_append, sequence_emit,
    (takes_emit desk emission).takings, Nat.add_right_comm]

/-- Whatever is emitted, the targets take what the log says. -/
theorem takes_run (desk : Desk) (emissions : List Emission) :
    desk.Takes (desk.log emissions) (desk.run emissions) := by
  induction emissions generalizing desk with
  | nil => exact .refl desk
  | cons emission rest ih =>
    rw [log_cons]
    exact (takes_emit desk emission).trans (ih (desk.emit emission))

theorem map_sequence_log (desk : Desk) (emissions : List Emission) :
    ((desk.log emissions).map fun taking => taking.event.sequence) =
      List.range' (desk.sequence + 1) (desk.log emissions).length := by
  rw [log, map_sequence_numbered, length_numbered]

/-- Numbers aside, a target takes exactly the events for its tracer that its level lets through. -/
theorem map_unnumbered_eventsAt_log (desk : Desk) (emissions : List Emission) {number index : Nat}
    {target : Target} (found : (desk.targets number)[index]? = some target) :
    (eventsAt number index (desk.log emissions)).map Event.unnumbered =
      (emissions.filter fun emission =>
        emission.tracer = number ∧ target.level.accepts emission.event = true).map
          fun emission => emission.event.unnumbered := by
  rw [log, map_unnumbered_eventsAt]
  induction emissions with
  | nil => rfl
  | cons emission rest ih =>
    rw [List.flatMap_cons, eventsAt_append, List.map_append, ih, List.filter_cons]
    by_cases here : emission.tracer = number
    · subst here
      have level :
          ((desk.targets emission.tracer).map Target.level)[index]? = some target.level := by
        rw [List.getElem?_map, found]
        rfl
      have taken := eventsAt_offered emission _ 0 level
      rw [Nat.zero_add] at taken
      rw [takings, taken]
      split <;> simp_all
    · rw [takings, eventsAt_offered_of_not _ _ _ (.inl (Ne.symm here)), if_neg (by simp [here])]
      rfl

theorem pairwise_sequence_log (desk : Desk) (emissions : List Emission) :
    ((desk.log emissions).map fun taking => taking.event.sequence).Pairwise (· < ·) := by
  rw [map_sequence_log]
  exact List.pairwise_lt_range'

theorem pairwise_sequence_eventsAt (desk : Desk) (emissions : List Emission)
    (number index : Nat) :
    ((eventsAt number index (desk.log emissions)).map Event.sequence).Pairwise (· < ·) := by
  have all := pairwise_sequence_log desk emissions
  rw [List.pairwise_map] at all
  rw [eventsAt, List.map_map, List.pairwise_map]
  exact all.sublist List.filter_sublist

/-- Whatever is emitted through tracers that count together: every taking has a number of its own,
the next one each time, as a counter of sixty-four bits gives them until it goes around, and what is
asked of sinks is what the takings ask for. A ring that was new
has taken, numbers aside, exactly the failures and the events that its level lets through, in
order. It keeps the last of them, as many as were requested, or 4096 if the request is not
positive, and their numbers rise. -/
theorem run_newest (desk : Desk) (emissions : List Emission) :
    ((desk.log emissions).map fun taking => taking.event.sequence) =
        List.range' (desk.sequence + 1) (desk.log emissions).length ∧
      ((desk.log emissions).map fun taking => taking.event.sequence).Nodup ∧
      (desk.sequence + (desk.log emissions).length < Nat.pow 2 64 →
        ((desk.log emissions).map fun taking => taking.event.sequence) =
          (ticks (UInt64.ofNat desk.sequence) (desk.log emissions).length).map UInt64.toNat) ∧
      (desk.run emissions).outbox = desk.outbox ++ (desk.log emissions).flatMap desk.asked ∧
      ∀ number index requested level,
        (desk.targets number)[index]? = some (.ring (.empty requested level)) →
        ∃ ring, ((desk.run emissions).targets number)[index]? = some (.ring ring) ∧
          (eventsAt number index (desk.log emissions)).map Event.unnumbered =
            (emissions.filter fun emission => emission.tracer = number ∧
              (emission.event.kind = .error ∨ level.passes emission.event.scope = true)).map
                (fun emission => emission.event.unnumbered) ∧
          ring.toList <:+ eventsAt number index (desk.log emissions) ∧
          ring.toList.length = min (if requested ≤ 0 then 4096 else requested.toNat)
            (eventsAt number index (desk.log emissions)).length ∧
          (ring.toList.map Event.sequence).Pairwise (· < ·) := by
  have takes := takes_run desk emissions
  refine ⟨map_sequence_log desk emissions,
    (pairwise_sequence_log desk emissions).imp Nat.ne_of_lt,
    fun room => (map_sequence_log desk emissions).trans (map_toNat_ticks room).symm,
    takes.outbox, ?_⟩
  intro number index requested level found
  let taken := eventsAt number index (desk.log emissions)
  let ring := taken.foldl Ring.push (.empty requested level)
  have held : ((desk.run emissions).targets number)[index]? = some (.ring ring) := by
    rw [takes.targets, found, Option.map_some, Target.takeAll_ring]
  have size : ring.slots.size = Ring.capacity requested := by
    rw [Ring.size_foldl_push]
    exact Array.size_replicate
  have kept : ring.toList = taken.drop (taken.length - Ring.capacity requested) := by
    rw [← size]
    exact ((Ring.holds_empty requested level).foldl_push taken).toList_eq
  have accepted := map_unnumbered_eventsAt_log desk emissions found
  have suffix : ring.toList <:+ taken := kept ▸ List.drop_suffix _ taken
  refine ⟨ring, held, ?_, suffix, ?_, ?_⟩
  · simpa [Target.level, Ring.empty, Level.accepts] using accepted
  · rw [← Ring.capacity, kept, List.length_drop]
    change taken.length - (taken.length - Ring.capacity requested) =
      min (Ring.capacity requested) taken.length
    omega
  · have numbers := pairwise_sequence_eventsAt desk emissions number index
    exact numbers.sublist (suffix.sublist.map Event.sequence)

/-- A tracer that writes and keeps two events, and one that keeps one failure. -/
def sharedDesk : Desk where
  tracers := [
    .fan .phase [
      .stream { level := .phase, format := .text, start := .unset, sink := .errorOutput },
      .ring (.empty 2 .detail)],
    .single (.ring (.empty 1 .error))]

/-- Five events: one only the ring of the first tracer takes, and one only that of the second. -/
def mixedEmissions : List Emission := [
  ⟨0, { kind := .opening, scope := .driver, name := utf8 "a" }⟩,
  ⟨0, { kind := .point, scope := .function, name := utf8 "b" }⟩,
  ⟨1, { kind := .error, scope := .value, name := utf8 "c" }⟩,
  ⟨1, { kind := .closing, scope := .driver, name := utf8 "d" }⟩,
  ⟨0, { kind := .error, scope := .driver, name := utf8 "e", sequence := 9 }⟩]

theorem run_newest_sharedDesk :
    (sharedDesk.targets 0)[1]? = some (.ring (.empty 2 .detail)) ∧
      ∃ ring, ((sharedDesk.run mixedEmissions).targets 0)[1]? = some (.ring ring) ∧
        ring.toList.map (fun event => (event.name, event.sequence)) =
          [(utf8 "b", 3), (utf8 "e", 6)] := by
  have found : (sharedDesk.targets 0)[1]? = some (.ring (.empty 2 .detail)) := rfl
  obtain ⟨-, -, -, -, rings⟩ := run_newest sharedDesk mixedEmissions
  obtain ⟨ring, held, -, suffix, length, -⟩ := rings 0 1 2 .detail found
  have taken : (eventsAt 0 1 (sharedDesk.log mixedEmissions)).map
      (fun event => (event.name, event.sequence)) =
        [(utf8 "a", 2), (utf8 "b", 3), (utf8 "e", 6)] := by
    decide
  have three := congrArg List.length taken
  rw [List.length_map] at three
  rw [three] at length
  refine ⟨found, ring, held, ?_⟩
  rw [List.suffix_iff_eq_drop.mp suffix, three, length, List.map_drop, taken]
  rfl

end Desk
end Trace
end Blockwork
