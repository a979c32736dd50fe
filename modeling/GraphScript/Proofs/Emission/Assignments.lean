import GraphScript.Proofs.Emission.Calculations

/-!
# Straight-line code in a graph

While straight-line code is built, a store and a memory go side by side: the memory has the port of
every variable, and the value of the variable in the store is the one that reaches the port.  A
result waits until it is assigned.  Then exactly one wire leads to its port, from a port that its
value reaches.  Every assignment keeps this up, so all of them together do.
-/

namespace GraphScript.Emission

open Act (Yields yields_bind yields_lift yields_get yields_modify)
open GraphScript.Graph Program

variable {target : Target}

section Running

variable (reading : Reading V)

/-- The results of a compound have ports of their own, at a node that gets wires at any time. -/
structure Outlet (compound : NodePath) (results : List String) : Prop where
  plain : compound.isPort = false
  gate : compound.output ∈ reading.gates
  words : ∀ name ∈ results, Word name
  unsupplied : ∀ name ∈ results, ∀ value, ¬reading.supplied (compound.output.port name) value

/-- Only one wire leads to a port, and a value reaches the other end of it. -/
def Fed (construction : Construction) (port : NodePath) (value : V) : Prop :=
  ∃ source, (∀ other, (other, port) ∈ construction.diagram.wires ↔ other = source) ∧
    Reached reading construction source value

/-- The code of a compound is being built.  The variables and results have the values of a store. -/
structure Running (compound : NodePath) (results : List String) (memory : Memory) (store : Store V)
    (construction : Construction) : Prop
    extends Working reading compound memory store construction where
  apart : ∀ name ∈ results, memory.bindings.get? name = none
  waiting : ∀ name cell, memory.results.get? name = some cell →
    name ∈ results ∧ cell.value = .path (compound.output.port name) ∧ store name = none ∧
      ¬construction.diagram.Wired (compound.output.port name)
  settled : ∀ name ∈ results, memory.results.get? name = none →
    ∃ value, store name = some value ∧ Fed reading construction (compound.output.port name) value

end Running

variable {reading : Reading V} {compound path : NodePath} {results : List String}
variable {memory : Memory} {store : Store V} {numbers : List Nat} {value : V}
variable {before after : Construction} {name : String} {finished : PUnit}

/-! ## Ports of results -/

namespace Outlet

variable (outlet : Outlet reading compound results)

include outlet

theorem isPort_output : compound.output.isPort = false := isPort_child outlet.plain (by decide)

theorem parent (member : name ∈ results) : (compound.output.port name).parent = compound.output :=
  parent_portOf outlet.isPort_output (outlet.words name member)

theorem gated (member : name ∈ results) : (compound.output.port name).parent ∈ reading.gates := by
  rw [outlet.parent member]
  exact outlet.gate

theorem inj (member : name ∈ results) (memberToo : other ∈ results)
    (same : compound.output.port name = compound.output.port other) : name = other :=
  port_inj outlet.isPort_output (outlet.words name member) (outlet.words other memberToo) same

end Outlet

/-! ## Going on -/

/-- What is known of the code stays while a calculation is built. -/
theorem Running.onward (outlet : Outlet reading compound results)
    (running : Running reading compound results memory store before)
    (advances : Advances reading numbers before after) :
    Running reading compound results memory store after where
  toWorking := running.toWorking.onward advances
  apart := running.apart
  waiting := by
    intro name cell found
    obtain ⟨member, port, unknown, unwired⟩ := running.waiting name cell found
    refine ⟨member, port, unknown, ?_⟩
    rintro ⟨source, wired⟩
    exact unwired ⟨source, (advances.gates source _ (outlet.gated member)).mp wired⟩
  settled := by
    intro name member gone
    obtain ⟨value, stored, source, only, reached⟩ := running.settled name member gone
    refine ⟨value, stored, source, fun other => ?_, advances.reached running.tidy reached⟩
    rw [advances.gates other _ (outlet.gated member)]
    exact only other

/-! ## Variables -/

theorem yields_currentMemory (remembers : before.memories.head? = some memory)
    (run : Yields currentMemory before found after) : memory = found ∧ before = after := by
  unfold currentMemory at run
  simp only [yields_bind, yields_get, yields_lift] at run
  obtain ⟨_, _, ⟨rfl, rfl⟩, same, rfl⟩ := run
  rw [remembers] at same
  cases same
  exact ⟨rfl, rfl⟩

/-- A name that is defined is a new variable. -/
theorem yields_defining {value : Datum}
    (run : Yields (defining memory name type value) before grown after) :
    grown = { memory with bindings := memory.bindings.insert name ⟨type, value⟩ } ∧
      before = after := by
  unfold defining Memory.define? at run
  by_cases defined : memory.isDefined name
  · rw [if_pos defined] at run
    obtain ⟨_, _, -, refuses⟩ := run.bind
    exact refuses.throw
  · rw [if_neg defined] at run
    obtain ⟨rfl, rfl⟩ := run.pure
    exact ⟨rfl, rfl⟩

/-- The construction with other variables in the innermost compound. -/
def remembering (construction : Construction) (memory : Memory) : Construction :=
  { construction with memories := memory :: construction.memories.drop 1 }

theorem yields_setMemory (run : Yields (setMemory memory) before finished after) :
    after = remembering before memory :=
  (yields_modify.mp run).symm

theorem touches_remembering : Touches numbers before (remembering before memory) :=
  fun _ _ => ⟨rfl, rfl⟩

theorem yields_takeResult (remembers : before.memories.head? = some memory)
    (run : Yields (takeResult name) before cell after) :
    memory.results.get? name = some cell ∧
      after = remembering before { memory with results := memory.results.erase name } := by
  obtain ⟨_, _, look, run⟩ := run.bind
  obtain ⟨rfl, rfl⟩ := yields_currentMemory remembers look
  obtain ⟨⟨_, _⟩, _, takes, run⟩ := run.bind
  obtain ⟨found, rfl⟩ := takes.lift
  obtain ⟨_, setting, rfl⟩ := run.mapped
  unfold Memory.takeResult at found
  split at found
  · cases found
  · rename_i known
    cases found
    exact ⟨known, yields_setMemory setting⟩

theorem Store.set_of_ne (different : other ≠ name) : store.set name value other = store other :=
  if_neg different

theorem mem_join {diagram : Diagram} {target other : NodePath} :
    (other, port) ∈ (diagram.join source target).wires ↔
      (other, port) ∈ diagram.wires ∨ other = source ∧ port = target := by
  simp [Diagram.join]

/-- A variable or a result has got a value, and nothing else was built. -/
def Assigned (reading : Reading V) (compound : NodePath) (results : List String) (store : Store V)
    (before after : Construction) : Prop :=
  ∃ memory, Running reading compound results memory store after ∧ Touches [] before after

section Assigning

variable (running : Running reading compound results memory store before)
  (reached : Reached reading before path value)

include running reached

/-- A variable that is no result gets a value. -/
theorem Running.bind (other : name ∉ results) :
    Running reading compound results
      { memory with bindings := memory.bindings.insert name ⟨type, .path path⟩ }
      (store.set name value) (remembering before
        { memory with bindings := memory.bindings.insert name ⟨type, .path path⟩ }) := by
  have unlike : ∀ result ∈ results, result ≠ name := fun result member same => other (same ▸ member)
  refine ⟨⟨running.tidy, running.counted, running.registry, running.plain, running.inside, rfl, ?_⟩,
    ?_, ?_, ?_⟩
  · intro known cell found
    rw [Table.get?_insert] at found
    by_cases same : known = name
    · rw [if_pos same] at found
      cases found
      exact ⟨path, value, rfl, if_pos same, reached.past, reached.holds⟩
    · rw [if_neg same] at found
      obtain ⟨port, held, isPort, stored, reachedToo⟩ := running.cells known cell found
      exact ⟨port, held, isPort, (Store.set_of_ne same).trans stored, reachedToo.past,
        reachedToo.holds⟩
  · intro result member
    rw [Table.get?_insert, if_neg (unlike result member)]
    exact running.apart result member
  · intro result cell found
    obtain ⟨member, isPort, unknown, unwired⟩ := running.waiting result cell found
    exact ⟨member, isPort, (Store.set_of_ne (unlike result member)).trans unknown, unwired⟩
  · intro result member gone
    obtain ⟨held, stored, source, only, reachedToo⟩ := running.settled result member gone
    exact ⟨held, (Store.set_of_ne (unlike result member)).trans stored, source, only,
      reachedToo.past, reachedToo.holds⟩

theorem running_define (other : name ∉ results)
    (run : Yields (define name type (.path path)) before finished after) :
    Assigned reading compound results (store.set name value) before after := by
  obtain ⟨_, _, look, run⟩ := run.bind
  obtain ⟨rfl, rfl⟩ := yields_currentMemory running.remembers look
  obtain ⟨_, _, defines, run⟩ := run.bind
  obtain ⟨rfl, rfl⟩ := yields_defining defines
  rw [yields_setMemory run]
  exact ⟨_, running.bind reached other, touches_remembering⟩

theorem running_assign (run : Yields (assign name (.path path)) before finished after) :
    Assigned reading compound results (store.set name value) before after := by
  obtain ⟨_, _, look, run⟩ := run.bind
  obtain ⟨rfl, rfl⟩ := yields_currentMemory running.remembers look
  obtain ⟨_, _, changes, run⟩ := run.bind
  obtain ⟨assigned, rfl⟩ := changes.lift
  unfold Memory.assign at assigned
  split at assigned
  · cases assigned
  · split at assigned
    · cases assigned
    · rename_i cell bound
      cases assigned
      have other : name ∉ results := by
        intro member
        rw [running.apart name member] at bound
        cases bound
      rw [yields_setMemory run]
      exact ⟨_, running.bind reached other, touches_remembering⟩

/-- A result that waits gets its value. -/
theorem Running.feed {cell : Cell} (outlet : Outlet reading compound results)
    (known : memory.results.get? name = some cell)
    (drawn : Drawn (remembering before { memory with results := memory.results.erase name }) after
      (before.diagram.join path (compound.output.port name))) :
    Running reading compound results { memory with results := memory.results.erase name }
      (store.set name value) after := by
  obtain ⟨member, -, -, unwired⟩ := running.waiting name cell known
  have gate := outlet.gated member
  have later : Diagram.Later reading.gates before.diagram after.diagram := by
    rw [drawn.drawn]
    exact Diagram.later_join gate
  have kept {port : NodePath} {held : V} (reached : Reached reading before port held) :
      Reached reading after port held :=
    ⟨later.past reached.past, later.holds running.tidy reached.past reached.holds⟩
  have wires {other : NodePath} {result : String} (memberToo : result ∈ results)
      (different : result ≠ name) :
      (other, compound.output.port result) ∈ after.diagram.wires ↔
        (other, compound.output.port result) ∈ before.diagram.wires := by
    rw [drawn.drawn, mem_join, or_iff_left]
    rintro ⟨-, same⟩
    exact different (outlet.inj memberToo member same)
  refine ⟨⟨?_, drawn.counted, drawn.registry.trans running.registry, running.plain, ?_, ?_, ?_⟩,
    running.apart, ?_, ?_⟩
  · rw [drawn.drawn]
    exact Diagram.tidy_join running.tidy reached.past gate
  · rw [drawn.contexts]
    exact running.inside
  · rw [drawn.memories]
    rfl
  · intro bound cell found
    obtain ⟨port, held, isPort, stored, reachedToo⟩ := running.cells bound cell found
    have different : bound ≠ name := by
      rintro rfl
      rw [running.apart bound member] at found
      cases found
    exact ⟨port, held, isPort, (Store.set_of_ne different).trans stored, kept reachedToo⟩
  · intro result cell found
    rw [Table.get?_erase] at found
    split at found
    · cases found
    · rename_i different
      obtain ⟨memberToo, isPort, unknown, unwiredToo⟩ := running.waiting result cell found
      refine ⟨memberToo, isPort, (Store.set_of_ne different).trans unknown, ?_⟩
      rintro ⟨source, wired⟩
      exact unwiredToo ⟨source, (wires memberToo different).mp wired⟩
  · intro result memberToo gone
    rw [Table.get?_erase] at gone
    by_cases same : result = name
    · subst same
      refine ⟨value, if_pos rfl, path, fun other => ?_, kept reached⟩
      rw [drawn.drawn, mem_join, or_iff_right fun wired => unwired ⟨other, wired⟩]
      exact and_iff_left rfl
    · rw [if_neg same] at gone
      obtain ⟨held, stored, source, only, reachedToo⟩ := running.settled result memberToo gone
      refine ⟨held, (Store.set_of_ne same).trans stored, source, fun other => ?_, kept reachedToo⟩
      rw [wires memberToo same]
      exact only other

theorem running_assignTo (outlet : Outlet reading compound results)
    (run : Yields (assignTo name path) before finished after) :
    Assigned reading compound results (store.set name value) before after := by
  obtain ⟨_, _, look, run⟩ := run.bind
  obtain ⟨rfl, rfl⟩ := yields_currentMemory running.remembers look
  split at run
  · obtain ⟨cell, _, takes, run⟩ := run.bind
    obtain ⟨known, rfl⟩ := yields_takeResult running.remembers takes
    obtain ⟨-, port, -⟩ := running.waiting name cell known
    rw [port] at run
    have counted :
        (remembering before { memory with results := memory.results.erase name }).Counted :=
      running.counted
    have drawn := drawn_connect counted run
    exact ⟨_, running.feed reached outlet known drawn, touches_remembering.trans (.of_drawn drawn)⟩
  · exact running_assign running reached run

theorem running_target (outlet : Outlet reading compound results)
    (named : target.name? = some name) (apart : ∀ declared ∈ target.declared?, declared ∉ results)
    (run : Yields (emitTarget path target) before finished after) :
    Assigned reading compound results (store.set name value) before after := by
  cases target with
  | declared =>
    cases named
    exact running_define running reached (apart _ rfl) run
  | reference =>
    cases named
    exact running_assignTo running reached outlet run
  | ignored => cases named
  | part => cases named

end Assigning

/-! ## Statements -/

theorem yields_onceOnly {id : Nat} (fresh : before.done.contains id = false)
    (run : Yields (onceOnly id action) before finished after) :
    ∃ middle, Yields action before () middle ∧
      after = { middle with done := middle.done.insert id () } := by
  replace run := run.afterGet
  rw [fresh] at run
  obtain ⟨_, middle, acts, run⟩ := run.bind
  exact ⟨middle, acts, (yields_modify.mp run).symm⟩

theorem valuesFor_calculation (calculation : term.isCalculation = true) :
    valuesFor 1 "=" term path = .ok [path] := by
  obtain ⟨_, known, notNode⟩ := type_of_term calculation
  simp only [valuesFor, known, bind, Except.bind, notNode]
  rfl

theorem contents_named (named : target.name? = some name) : target.contents = .none := by
  cases target with
  | declared => rfl
  | reference => rfl
  | ignored => cases named
  | part => cases named

theorem numbers_assignment {id : Nat} (whole : target.contents = .none) :
    (Statement.contents (.assignment id [target] operator term)).numbers = term.contents.numbers ++
    [id] := by
  simp [Statement.contents, targetsContents, whole, Item.number?]

/-- A statement is marked as carried out. -/
theorem Working.carriedOut (working : Working reading compound memory store before) (id : Nat) :
    Advances reading [id] before { before with done := before.done.insert id () } := by
  refine { working.refl with done := fun number outside => ?_ }
  have different : id ≠ number := fun same => outside (by simp [same])
  rw [Std.HashMap.contains_insert, beq_eq_false_iff_ne.mpr different, Bool.false_or]

/-- An assignment does to the ports what it does to the store. -/
theorem running_statement (outlet : Outlet reading compound results)
    (straight : statement.isStraight = true)
    (apart : ∀ declared ∈ statement.declares, declared ∉ results)
    (distinct : statement.contents.numbers.Nodup)
    (running : Running reading compound results memory store before)
    (fresh : Fresh statement.contents.numbers before)
    (run : Yields (emitStatement statement) before finished after) :
    ∃ changed next, statement.run reading.operators store = some next ∧
      Running reading compound results changed next after ∧
      Touches statement.contents.numbers before after := by
  cases statement with
  | empty => cases straight
  | make => cases straight
  | takeOver => cases straight
  | assignment id targets _ term =>
    match targets with
    | [] => cases straight
    | _ :: _ :: _ => cases straight
    | [_] =>
      simp only [Statement.isStraight, Bool.and_eq_true, beq_iff_eq] at straight
      obtain ⟨⟨hasName, rfl⟩, calculation⟩ := straight
      obtain ⟨name, named⟩ := Option.isSome_iff_exists.mp hasName
      rw [numbers_assignment (contents_named named)] at distinct fresh ⊢
      obtain ⟨_, acts, rfl⟩ := yields_onceOnly (fresh id (by simp)).2 run
      obtain ⟨_, _, builds, acts⟩ := acts.bind
      obtain ⟨value, found, advances, reached⟩ := computes_emit term calculation
        (List.nodup_append.mp distinct).1 running.toWorking fresh.sub builds
      have runningSecond := running.onward outlet advances
      rw [List.length_singleton, valuesFor_calculation calculation, Act.ok_bind] at acts
      obtain ⟨_, gives, -⟩ := acts.mapped
      obtain ⟨changed, runningFirst, touches⟩ := running_target runningSecond reached outlet named
        (fun declared member => apart declared (by simpa [Statement.declares] using member)) gives
      have marks := runningFirst.carriedOut id
      refine ⟨changed, store.set name value, ?_, runningFirst.onward outlet marks, ?_⟩
      · simp [Statement.run, named, found]
      · exact (advances.touches.mono.trans touches.mono).trans marks.touches.mono

/-- Straight-line code does to the ports what it does to the store. -/
theorem running_statements (outlet : Outlet reading compound results) :
    ∀ {code : List Statement} {memory : Memory} {store : Store V} {before : Construction},
      (∀ statement ∈ code, statement.isStraight = true) →
      (∀ statement ∈ code, ∀ declared ∈ statement.declares, declared ∉ results) →
      (statementsContents code).numbers.Nodup →
      Running reading compound results memory store before →
      Fresh (statementsContents code).numbers before →
      Yields (emitStatements code) before finished after →
      ∃ changed final, runAll reading.operators store code = some final ∧
        Running reading compound results changed final after
  | [], memory, store, _ => by
    intro _ _ _ running _ run
    obtain ⟨-, rfl⟩ := run.pure
    exact ⟨memory, store, rfl, running⟩
  | statement :: _, _, _, _ => by
    intro straight apart distinct running fresh run
    rw [statementsContents] at distinct fresh
    obtain ⟨distinctFirst, distinctRest, disjoint⟩ := nodup_split distinct
    obtain ⟨_, _, runFirst, runRest⟩ := run.bind
    obtain ⟨_, _, ran, runningNext, touches⟩ := running_statement outlet
      (straight statement (by simp)) (apart statement (by simp)) distinctFirst running
      fresh.sub runFirst
    obtain ⟨last, final, ranRest, runningLast⟩ := running_statements outlet
      (fun other member => straight other (by simp [member]))
      (fun other member => apart other (by simp [member])) distinctRest runningNext
      (touches.fresh fresh.sub disjoint) runRest
    refine ⟨last, final, ?_, runningLast⟩
    rw [runAll, ran]
    exact ranRest

end GraphScript.Emission
