import Blockwork.Proofs.Order

/-!
# Append-only growth

Nothing that is in a context is ever changed or removed. Functions, values and types are only added,
a block that has no end is only extended, and a block that has one is left alone. Every step in the
life of a context grows it in this sense, growth is transitive, and so each context of a store is
grown by whatever run comes next.
-/

namespace Blockwork

/-- A block has grown, in a function that had the given number of values before. -/
structure Block.Grows (count : Nat) (before after : Block) : Prop where
  /-- New values are listed behind the old ones and have numbers that were not in use. -/
  listed : ∃ added, after.values.toList = before.values.toList ++ added ∧
    ∀ number ∈ added, count ≤ number
  /-- A block that was ended is the same as before, its values and its end. -/
  settled : before.terminator.isSome → after = before

namespace Block.Grows

theorem refl (count : Nat) (block : Block) : block.Grows count block where
  listed := ⟨[], by simp⟩
  settled _ := rfl

theorem trans {early late : Nat} {first second third : Block} (ordered : early ≤ late)
    (before : first.Grows early second) (after : second.Grows late third) :
    first.Grows early third where
  listed := by
    obtain ⟨added, same, fresh⟩ := before.listed
    obtain ⟨further, same', fresh'⟩ := after.listed
    refine ⟨added ++ further, by rw [same', same, List.append_assoc], ?_⟩
    intro number member
    rcases List.mem_append.mp member with old | new
    · exact fresh number old
    · exact Nat.le_trans ordered (fresh' number new)
  settled ended := by
    have same := before.settled ended
    rw [after.settled (same ▸ ended), same]

end Block.Grows

/-- A function has grown. -/
structure Function.Grows (before after : Function) : Prop where
  /-- The name is the same. -/
  name : after.name = before.name
  /-- The types of arguments and result are the same. -/
  signature : after.signature = before.signature
  /-- Every value has its number still, with its type and all that it is computed from. -/
  values : ∀ number value, before.values.get? number = some value →
    after.values.get? number = some value
  /-- Every block has its number still and has grown. -/
  blocks : ∀ id block, before.blocks.get? id = some block →
    ∃ block', after.blocks.get? id = some block' ∧ block.Grows before.values.size block'

namespace Function.Grows

theorem refl (function : Function) : function.Grows function where
  name := rfl
  signature := rfl
  values _ _ found := found
  blocks _ block found := ⟨block, found, .refl _ block⟩

theorem size_le {before after : Function} (grown : before.Grows after) :
    before.values.size ≤ after.values.size := by
  by_contra! shrunk
  obtain ⟨value, found⟩ := Arena.exists_get?_of_lt shrunk
  exact Nat.lt_irrefl _ (Arena.get?_eq_some_lt (grown.values _ _ found))

theorem trans {first second third : Function} (before : first.Grows second)
    (after : second.Grows third) : first.Grows third where
  name := after.name.trans before.name
  signature := after.signature.trans before.signature
  values number value found := after.values number value (before.values number value found)
  blocks id block found := by
    obtain ⟨block', found', grown⟩ := before.blocks id block found
    obtain ⟨block'', found'', grown'⟩ := after.blocks id block' found'
    exact ⟨block'', found'', grown.trans before.size_le grown'⟩

/-- A function grows if one of its blocks does and the others stay. -/
theorem modify {function : Function} {place : BlockId} {change : Block → Block}
    {values : Arena Value} (kept : ∀ number value, function.values.get? number = some value →
      values.get? number = some value)
    (grown : ∀ block, function.blocks.get? place = some block →
      block.Grows function.values.size (change block)) :
    function.Grows { function with values, blocks := function.blocks.modify place change } where
  name := rfl
  signature := rfl
  values := kept
  blocks id block found := by
    rw [Arena.get?_modify]
    by_cases here : place = id
    · subst here
      exact ⟨change block, by simp [found], grown block found⟩
    · exact ⟨block, by simp [here, found], .refl _ block⟩

theorem pushBlock (function : Function) : function.Grows function.pushBlock where
  name := rfl
  signature := rfl
  values _ _ found := found
  blocks id block found := by
    have inside := Arena.get?_eq_some_lt found
    refine ⟨block, ?_, .refl _ block⟩
    rw [Function.pushBlock, Arena.get?_push, if_neg (Nat.ne_of_lt inside), found]

/-- A value may be appended to a block that has no end. -/
theorem pushValue {function : Function} {place : BlockId} {block : Block}
    (found : function.blocks.get? place = some block) (unended : block.terminator = none)
    (type : TypeId) (instruction : Instruction) :
    function.Grows (function.pushValue place type instruction) := by
  refine .modify (fun number value held => get?_pushValue_of_some held) ?_
  rintro other held
  cases found.symm.trans held
  exact ⟨⟨[function.values.size], by simp⟩, by simp [unended]⟩

/-- A block that has no end may be given one. -/
theorem terminate {function : Function} {place : BlockId} {block : Block}
    (found : function.blocks.get? place = some block) (unended : block.terminator = none)
    (terminator : Terminator) : function.Grows (function.terminate place terminator) := by
  refine .modify (fun _ _ held => held) ?_
  rintro other held
  cases found.symm.trans held
  exact ⟨⟨[], by simp⟩, by simp [unended]⟩

end Function.Grows

namespace Context

/-- A context has grown. -/
structure Grows (before after : Context) : Prop where
  /-- What was destroyed stays so. -/
  gone : before.phase = .destroyed → after.phase = .destroyed
  /-- The number of a type keeps its meaning. -/
  types : before.types.Extends after.types
  /-- A name leads to the same function. -/
  names : ∀ name id, before.names.lookup name = some id → after.names.lookup name = some id
  /-- Every function has its number still and has grown. -/
  functions : ∀ id function, before.functions.get? id = some function →
    ∃ function', after.functions.get? id = some function' ∧ function.Grows function'

namespace Grows

theorem withPhase (context : Context) {phase : Phase}
    (gone : context.phase = .destroyed → phase = .destroyed) :
    context.Grows { context with phase } where
  gone := gone
  types := .refl _
  names _ _ found := found
  functions _ function found := ⟨function, found, .refl function⟩

theorem refl (context : Context) : context.Grows context := withPhase context id

theorem trans {first second third : Context} (before : first.Grows second)
    (after : second.Grows third) : first.Grows third where
  gone destroyed := after.gone (before.gone destroyed)
  types := before.types.trans after.types
  names name id found := after.names name id (before.names name id found)
  functions id function found := by
    obtain ⟨function', found', grown⟩ := before.functions id function found
    obtain ⟨function'', found'', grown'⟩ := after.functions id function' found'
    exact ⟨function'', found'', grown.trans grown'⟩

/-- A context grows if one of its functions does. -/
theorem replace {context : Context} {id : FunctionId} {function changed : Function}
    (found : context.functions.get? id = some function) (grown : function.Grows changed) :
    context.Grows (context.replace id changed) where
  gone destroyed := destroyed
  types := .refl _
  names _ _ known := known
  functions other held heldFound := by
    rw [get?_replace]
    by_cases here : id = other
    · subst here
      cases found.symm.trans heldFound
      exact ⟨changed, by simp [found], grown⟩
    · exact ⟨held, by simp [here, heldFound], .refl held⟩

/-- A context grows by a function under a name that is new. -/
theorem declare {context : Context} {name : Bytes} (fresh : context.names.lookup name = none)
    (signature : Signature) :
    context.Grows { context with
      functions := context.functions.push (.declare name signature)
      names := (name, context.functions.size) :: context.names } where
  gone destroyed := destroyed
  types := .refl _
  names other id known := by
    have differs : (other == name) = false := by
      rw [beq_eq_false_iff_ne]
      rintro rfl
      rw [fresh] at known
      cases known
    rw [List.lookup_cons, differs]
    exact known
  functions id function found := by
    have inside := Arena.get?_eq_some_lt found
    refine ⟨function, ?_, .refl function⟩
    rw [Arena.get?_push, if_neg (Nat.ne_of_lt inside), found]

end Grows

/-- Every step of construction grows the context. -/
theorem Build.grows {context context' : Context} (built : context.Build context') :
    context.Grows context' := by
  cases built with
  | intern type building valid =>
    exact { Grows.refl context with types := context.types.extends_insert type }
  | declare raw signature building checked fresh known => exact .declare fresh signature
  | addBlock id function building found =>
    rw [Arena.modify_eq_set found]
    exact .replace found (.pushBlock function)
  | append type instruction opened fits =>
    exact .replace opened.function_eq
      (.pushValue opened.block_eq opened.unended type instruction)
  | finish terminator opened fits =>
    exact .replace opened.function_eq (.terminate opened.block_eq opened.unended terminator)

/-- Every step in the life of a context grows it. -/
theorem Step.grows {context context' : Context} (stepped : context.Step context') :
    context.Grows context' := by
  cases stepped with
  | build built => exact built.grows
  | consume building => exact .withPhase context (by simp [building])
  | destroy => exact .withPhase context fun _ => rfl

theorem Reaches.grows {context context' : Context} (reached : context.Reaches context') :
    context.Grows context' := by
  induction reached with
  | refl => exact .refl context
  | tail _ stepped ih => exact ih.trans stepped.grows

/-- What the history of a context keeps, as far as it can be looked up: everything that was found
under a number or a name is found under it later. -/
structure Remembers (before after : Context) : Prop where
  /-- A function has its number still, with its name, its signature and its parameters. -/
  functions : ∀ id function, before.function? id = some function →
    ∃ function', after.function? id = some function' ∧ function'.name = function.name ∧
      function'.signature = function.signature ∧ function'.parameters = function.parameters
  /-- A name, in whatever spelling, leads to the same function. -/
  named : ∀ name id, before.functionNamed? name = some id → after.functionNamed? name = some id
  /-- The number of a type keeps its meaning. -/
  types : ∀ id type, before.types.lookup? id = some type → after.types.lookup? id = some type
  /-- A value has its number still, with its type and all that it is computed from. -/
  values : ∀ id function number value, before.function? id = some function →
    function.values.get? number = some value →
    ∃ function', after.function? id = some function' ∧
      function'.values.get? number = some value
  /-- A value that was not there has a number above that of every value that was. -/
  newer : ∀ id function function' number, before.function? id = some function →
    after.function? id = some function' → (function'.values.get? number).isSome →
    function.values.get? number = none →
    ∀ old, (function.values.get? old).isSome → old < number
  /-- A block has its number still and lists what it listed, followed by values that were not
  there. If it was ended then nothing follows, and its end is the same. -/
  blocks : ∀ id function place block, before.function? id = some function →
    function.blocks.get? place = some block →
    ∃ function' block', after.function? id = some function' ∧
      function'.blocks.get? place = some block' ∧
      (∃ added, block'.values.toList = block.values.toList ++ added ∧
        ∀ number ∈ added, ∀ old, (function.values.get? old).isSome → old < number) ∧
      (block.terminator ≠ none →
        block'.terminator = block.terminator ∧ block'.values = block.values)

theorem function?_eq_some_iff {context : Context} {id : FunctionId} {function : Function} :
    context.function? id = some function ↔
      context.phase ≠ .destroyed ∧ context.functions.get? id = some function := by
  simp [function?]

/-- Growth is remembered as long as the context is not destroyed. -/
theorem Grows.remembers {before after : Context} (grown : before.Grows after)
    (alive : after.phase ≠ .destroyed) : before.Remembers after := by
  have kept (id : FunctionId) (function : Function) (found : before.function? id = some function) :
      ∃ function', after.function? id = some function' ∧ function.Grows function' := by
    obtain ⟨function', found', larger⟩ :=
      grown.functions id function (function?_eq_some_iff.mp found).2
    exact ⟨function', function?_eq_some_iff.mpr ⟨alive, found'⟩, larger⟩
  constructor
  case functions =>
    intro id function found
    obtain ⟨function', found', larger⟩ := kept id function found
    exact ⟨function', found', larger.name, larger.signature,
      by simp [Function.parameters, larger.signature]⟩
  case named =>
    intro name id found
    have alive' : before.phase ≠ .destroyed := fun gone => alive (grown.gone gone)
    simp only [functionNamed?, alive, alive', if_false] at found ⊢
    exact grown.names _ id found
  case types => exact grown.types
  case values =>
    intro id function number value found held
    obtain ⟨function', found', larger⟩ := kept id function found
    exact ⟨function', found', larger.values number value held⟩
  case newer =>
    intro id function function' number _ _ _ absent old held
    have outside : ¬ number < function.values.size := by
      rw [← function.values.get?_isSome_iff, absent]
      simp
    rw [function.values.get?_isSome_iff] at held
    omega
  case blocks =>
    intro id function place block found held
    obtain ⟨function', found', larger⟩ := kept id function found
    obtain ⟨block', held', extended⟩ := larger.blocks place block held
    refine ⟨function', block', found', held', ?_, ?_⟩
    · obtain ⟨added, same, fresh⟩ := extended.listed
      refine ⟨added, same, fun number member old known => ?_⟩
      rw [function.values.get?_isSome_iff] at known
      exact Nat.lt_of_lt_of_le known (fresh number member)
    · intro ended
      rw [extended.settled (Option.isSome_iff_ne_none.mpr ended)]
      exact ⟨rfl, rfl⟩

end Context

namespace Store

variable {World : Type}

/-- Each context of the store is found later under its number, and has grown. -/
def Grows (before after : Store) : Prop :=
  ∀ (id : ContextId) (context : Context), before.contexts[id]? = some context →
    ∃ context', after.contexts[id]? = some context' ∧ context.Grows context'

/-- Whatever an operation does to a store, the store grows. -/
theorem Moves.grows {store store' : Store} (moved : store.Moves store') : store.Grows store' := by
  intro id context found
  obtain ⟨context', found', reached⟩ := moved.exists_reaches found
  exact ⟨context', found', reached.grows⟩

theorem grows_run (store : Store) (world : World) (operations : List (Operation World)) :
    store.Grows (store.run world operations) := by
  intro id context found
  obtain ⟨context', found', reached⟩ := exists_reaches_run world operations found
  exact ⟨context', found', reached.grows⟩

/-- From any state that a run has led to, whatever operations follow, on whatever handles: each
context is still there, and unless it has been destroyed it remembers all that was in it. -/
theorem run_remembers (world next : World) (operations later : List (Operation World))
    (id : ContextId) (context : Context)
    (found : (run {} world operations).contexts[id]? = some context) :
    ∃ context', ((run {} world operations).run next later).contexts[id]? = some context' ∧
      (context'.phase ≠ .destroyed → context.Remembers context') := by
  obtain ⟨context', found', grown⟩ :=
    grows_run (run {} world operations) next later id context found
  exact ⟨context', found', grown.remembers⟩

/-- What a run may try on the only block of `sumRun` after its end, and what it may still add. -/
def laterRun : List (Operation Unit) := [
  .const (some ⟨0, 0, 0⟩) 5 7,
  .result (some ⟨0, 0, 0⟩) (some ⟨0, 0, 0⟩),
  .branch (some ⟨0, 0, 0⟩) (some ⟨0, 0, 0⟩),
  .addBlock (some ⟨0, 0⟩),
  .const (some ⟨0, 0, 1⟩) 5 7,
  .addFunction (some 0) (utf8 "sum") ⟨[], 1⟩]

theorem run_remembers_laterRun :
    ∃ context context', (run {} () sumRun).contexts[0]? = some context ∧
      ((run {} () sumRun).run () laterRun).contexts[0]? = some context' ∧
      (context'.functions.get? 0).map (·.values.size) = some 4 ∧ context.Remembers context' := by
  have before : ((run {} () sumRun).contexts[0]?).isSome := by decide
  obtain ⟨context, found⟩ := Option.isSome_iff_exists.mp before
  obtain ⟨context', found', remembers⟩ := run_remembers () () sumRun laterRun 0 context found
  have summary : (((run {} () sumRun).run () laterRun).contexts[0]?.map fun context =>
      (context.phase, (context.functions.get? 0).map (·.values.size))) =
        some (.building, some 4) := by
    decide
  rw [found', Option.map_some, Option.some.injEq, Prod.mk.injEq] at summary
  refine ⟨context, context', found, found', summary.2, remembers ?_⟩
  rw [summary.1]
  decide

end Store
end Blockwork
