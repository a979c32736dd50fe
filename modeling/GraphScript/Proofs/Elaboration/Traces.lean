import GraphScript.Proofs.Elaboration.Inside
import GraphScript.Proofs.Language.Parsing

/-!
# What a run leaves behind

Every run starts a session of its own from the registry alone, so the registry is all that one run
can hand on to the next.  A run changes it by the overloads that the script and its imports write
for operators, and by nothing else, whether the run succeeds or fails.  So a script that overloads
no operator leaves no trace: what is run after it goes as it would have gone without it.
-/

namespace GraphScript

namespace Overload

/-! ## Registries with more overloads -/

def Operator.withOverloads (operator : Operator) (added : List (String × List String)) : Operator :=
  { operator with overloads := operator.overloads.insertAll added }

theorem Operator.withOverloads_append (operator : Operator)
    (first second : List (String × List String)) :
    operator.withOverloads (first ++ second) =
      (operator.withOverloads first).withOverloads second := by
  simp only [withOverloads, Table.insertAll, List.foldl_append]

/-- An operator of a registry later on: it has its name and its ports, and further overloads only
where these were due. -/
structure Reopened (due : String → Prop) (before after : String × Operator) : Prop where
  name : after.1 = before.1
  operator : ∃ added, after.2 = before.2.withOverloads added ∧ (added ≠ [] → due before.1)

/-- A registry later on: its operators have further overloads where these were due, and all else is
as it was. -/
structure Extended (due : String → Prop) (before after : Registry) : Prop where
  operators : List.Forall₂ (Reopened due) before.operators.entries after.operators.entries
  rest : after = { before with operators := after.operators }

section Extended

theorem Reopened.refl (entry : String × Operator) : Reopened due entry entry :=
  ⟨rfl, [], rfl, fun some => absurd rfl some⟩

theorem Reopened.trans (left : Reopened due before middle) (right : Reopened due middle after) :
    Reopened due before after := by
  obtain ⟨sameLeft, addedLeft, grownLeft, dueLeft⟩ := left
  obtain ⟨sameRight, addedRight, grownRight, dueRight⟩ := right
  refine ⟨sameRight.trans sameLeft, addedLeft ++ addedRight, ?_, fun some => ?_⟩
  · rw [Operator.withOverloads_append, ← grownLeft, grownRight]
  · by_cases none : addedLeft = []
    · rw [← sameLeft]
      exact dueRight fun noneRight => some (by rw [none, noneRight]; rfl)
    · exact dueLeft none

/-- Lists of operators are reopened one entry after the other. -/
theorem reopened_trans (left : List.Forall₂ (Reopened due) before middle)
    (right : List.Forall₂ (Reopened due) middle after) :
    List.Forall₂ (Reopened due) before after := by
  induction left generalizing after with
  | nil => exact right
  | cons reopened _ ih =>
    cases right with
    | cons again others => exact .cons (reopened.trans again) (ih others)

theorem map_fst_of_reopened (entries : List.Forall₂ (Reopened due) before after) :
    after.map Prod.fst = before.map Prod.fst := by
  induction entries with
  | nil => rfl
  | cons reopened _ ih => rw [List.map_cons, List.map_cons, reopened.name, ih]

theorem Extended.refl (registry : Registry) : Extended due registry registry :=
  ⟨List.forall₂_same.mpr fun entry _ => .refl entry, rfl⟩

theorem Extended.trans (left : Extended due first second) (right : Extended due second third) :
    Extended due first third :=
  ⟨reopened_trans left.operators right.operators, by rw [right.rest, left.rest]⟩

theorem Extended.mono (more : ∀ name, due name → other name)
    (extended : Extended due first second) : Extended other first second := by
  refine ⟨extended.operators.imp fun _ _ reopened => ?_, extended.rest⟩
  obtain ⟨same, added, grown, isDue⟩ := reopened
  exact ⟨same, added, grown, fun some => more _ (isDue some)⟩

theorem Extended.keys_eq (extended : Extended due first second) :
    second.operators.keys = first.operators.keys :=
  map_fst_of_reopened extended.operators

theorem Extended.fullName?_eq (extended : Extended due first second) (name : String) :
    second.fullName? name = first.fullName? name :=
  Table.resolve?_congr extended.keys_eq name

/-- Where nothing is due the registry is the same. -/
theorem Extended.eq_of_none (extended : Extended due first second) (none : ∀ name, ¬ due name) :
    second = first := by
  have entries : first.operators.entries = second.operators.entries := by
    refine List.forall₂_eq_eq_eq ▸ extended.operators.imp fun _ _ reopened => ?_
    obtain ⟨same, added, grown, isDue⟩ := reopened
    obtain rfl : _ = [] := by
      by_contra some
      exact none _ (isDue some)
    exact Prod.ext same.symm grown.symm
  have operators : second.operators = first.operators := congrArg Table.mk entries.symm
  rw [extended.rest, operators]

/-- Storing an operator with more overloads reopens the entry of its name. -/
theorem reopened_insertEntry (found : entries.lookup name = some operator) (isDue : due name) :
    List.Forall₂ (Reopened due) entries
      (Table.insertEntry name (operator.withOverloads added) entries) := by
  induction entries with
  | nil => cases found
  | cons entry _ ih =>
    obtain ⟨key, _⟩ := entry
    by_cases same : key = name
    · subst same
      rw [List.lookup_cons_self, Option.some.injEq] at found
      subst found
      rw [Table.insertEntry, if_pos rfl]
      exact .cons ⟨rfl, added, rfl, fun _ => isDue⟩
        (List.forall₂_same.mpr fun entry _ => .refl entry)
    · rw [List.lookup_cons, beq_eq_false_iff_ne.mpr (Ne.symm same)] at found
      rw [Table.insertEntry, if_neg same]
      exact .cons (.refl _) (ih found)

theorem extended_setOperator (added : List (String × List String))
    (found : registry.operators.get? name = some operator) (isDue : due name) :
    Extended due registry (registry.setOperator name (operator.withOverloads added)) :=
  ⟨reopened_insertEntry found isDue, rfl⟩

end Extended

/-- A registry later on, when overloads were written for some possibly shortened names. -/
def Registry.Overloaded (names : String → Prop) (before after : Registry) : Prop :=
  Extended (fun full => ∃ name, names name ∧ before.fullName? name = some full) before after

namespace Registry.Overloaded

variable {first : Registry}

theorem refl (registry : Registry) : registry.Overloaded names registry := Extended.refl registry

theorem trans (left : first.Overloaded names second) (right : second.Overloaded names third) :
    first.Overloaded names third := by
  refine Extended.trans left (right.mono ?_)
  rintro _ ⟨name, written, found⟩
  exact ⟨name, written, left.fullName?_eq name ▸ found⟩

theorem mono (more : ∀ name, names name → others name)
    (overloaded : first.Overloaded names second) : first.Overloaded others second := by
  refine Extended.mono ?_ overloaded
  rintro _ ⟨name, written, found⟩
  exact ⟨name, more name written, found⟩

/-- Overloads for names that stand for no operator change nothing. -/
theorem eq_of_unknown (overloaded : first.Overloaded names second)
    (unknown : ∀ name, names name → first.fullName? name = none) : second = first := by
  refine Extended.eq_of_none overloaded ?_
  rintro _ ⟨name, written, found⟩
  rw [unknown name written] at found
  cases found

end Registry.Overloaded

end Overload

namespace Elaboration

open Act (Keeps Leads Yields yields_set yields_zoom)
open GraphScript.Language (Tree)
open Overload (Registry)
open Program (Term)
open Syntax (Exec OverloadPort)

variable {execs : List Exec}

/-- The operators that a session knows. -/
def Session.registry (session : Session) : Registry := session.desk.registry

/-! ## Overloads -/

theorem Inner.keepsRegistry (inner : Inner .body action) : Keeps Session.registry action :=
  fun session => congrArg Prod.fst (inner.keepsSetting session)

/-- The operators have overloads for the names, and the script is the same. -/
structure Moved (names : String → Prop) (before after : Registry × Source) : Prop where
  registry : before.1.Overloaded names after.1
  source : after.2 = before.2

/-- The action writes overloads for the names at most. -/
abbrev Overloading {α : Type} (names : String → Prop) (action : Elaborating α)
    (session : Session) : Prop :=
  Leads (Moved names) Session.setting action session

section Overloading

variable {names : String → Prop} {session : Session}

theorem Moved.refl (setting : Registry × Source) : Moved names setting setting := ⟨.refl _, rfl⟩

theorem Moved.trans (left : Moved names first second) (right : Moved names second third) :
    Moved names first third :=
  ⟨left.registry.trans right.registry, right.source.trans left.source⟩

variable {action : Elaborating α}

theorem Inner.overloading (inner : Inner .body action) : Overloading names action session :=
  .of_keeps inner.keepsSetting .refl

theorem Overloading.bind (first : Overloading names action session)
    (second : ∀ value middle, Yields action session value middle →
      Overloading names (next value) middle) : Overloading names (action >>= next) session :=
  Leads.bind Moved.trans first second

/-- An inner action before does not matter, but for what it finds. -/
theorem Overloading.after (inner : Inner .body action)
    (second : ∀ value middle, Yields action session value middle →
      middle.registry = session.registry → Overloading names (next value) middle) :
    Overloading names (action >>= next) session :=
  .bind inner.overloading fun value middle run =>
    second value middle run (inner.keepsRegistry.of_yields run)

theorem overloading_changeRegistry
    (extended : session.registry.Overloaded names (change session.registry)) :
    Overloading names (registering (Overload.changeRegistry change)) session :=
  ⟨extended, rfl⟩

end Overloading

/-- What an overload is for: a function, or the operator that the name stands for. -/
theorem found_overloadable (run : Yields (overloadable spot name) before overloaded after) :
    overloaded.isFunction = true ∨ before.registry.fullName? name = some overloaded.name := by
  replace run := run.afterGet
  dsimp only at run
  split at run
  · obtain ⟨rfl, _⟩ := run.pure
    exact .inl rfl
  · obtain ⟨_, _, asked, run⟩ := run.bind
    obtain ⟨rfl, rfl⟩ := yields_registry.mp asked
    split at run
    · exact (yields_report.mp run).elim
    next full found =>
      obtain ⟨_, _, _, run⟩ := run.bind
      obtain ⟨_, _, _, run⟩ := run.bind
      obtain ⟨rfl, _⟩ := run.pure
      exact .inr found

section Overloads

variable {names : String → Prop} {session : Session} {overloaded : Overloadable}

theorem overloading_storeOverload (written : names name)
    (found : overloaded.isFunction = true ∨ session.registry.fullName? name =
      some overloaded.name) :
    Overloading names (storeOverload overloaded typesIn typesOut) session := by
  unfold storeOverload
  split
  · refine .after .lift fun _ _ _ _ => ?_
    refine .of_keeps (.modify fun _ => ?_) .refl
    split <;> rfl
  next notFunction =>
    have found := found.resolve_left notFunction
    refine overloading_changeRegistry ?_
    split
    next operator known =>
      exact Overload.extended_setOperator [(Overload.keyOf typesIn, typesOut)] known
        ⟨name, written, found⟩
    next => exact Registry.Overloaded.refl _

theorem overloading_storeChoices (written : names name)
    (choices : List (List (OverloadPort × String))) :
    ∀ {session : Session} {typesIn : List String},
      (overloaded.isFunction = true ∨ session.registry.fullName? name = some overloaded.name) →
      Overloading names (storeChoices spot overloaded typesOut typesIn choices) session := by
  induction choices with
  | nil => exact fun _ => Inner.overloading .pure
  | cons _ _ ih =>
    intro _ _ found
    refine .after .quiet fun types middle _ same => ?_
    rw [← same] at found
    have stores : Overloading names (storeOverload overloaded types typesOut) middle :=
      overloading_storeOverload written found
    refine .bind stores fun _ later stored => ?_
    have extended : middle.registry.Overloaded names later.registry :=
      (stores.of_yields stored).registry
    exact ih (extended.fullName?_eq name ▸ found)

theorem overloading_overloadPorts (written : names name) :
    Overloading names (overloadPorts spot inputSpot resultSpot name inputs outputs) session := by
  refine .after .quiet fun overloaded middle run same => ?_
  have found := same ▸ found_overloadable run
  have stored : Overloading names (do
      let typesOut ← overloadOutputs spot overloaded.namesOut 0 false overloaded.typesOut outputs
      storeChoices spot overloaded typesOut overloaded.typesIn (choices inputs)) middle :=
    .after .quiet fun _ _ _ same =>
      overloading_storeChoices written _ (same ▸ found)
  have stops : ∀ {α β : Type} {kind : ReportKind} {place : Tree} {message : String}
      {next : α → Elaborating β},
      Overloading names ((report kind place message : Elaborating α) >>= next) middle :=
    Inner.quiet.overloading
  cases outputs with
  | nil => exact .ite stops (.ite stops stored)
  | cons => exact .ite stops (.ite stops (.ite stops stored))

end Overloads

/-! ## The top level -/

theorem overloading_function : Overloading names (function nameSpot name written) session := by
  refine .bind (.of_keeps .get .refl) fun _ _ _ => ?_
  refine Inner.overloading (.ite .quiet (.bind (inner_block written trivial) fun _ => ?_))
  exact .define fun functions => functions.insert name _

/-- The entries that a script is read as. -/
def Reads (source : Source) (execs : List Exec) : Prop :=
  ∃ log tree after, Yields (Language.parse Language.table source) log tree after ∧
    Syntax.ofTree? tree = some execs

theorem reads_of_parsed
    (parsed : Yields (registering (Overload.withLog (Language.parse Language.table source)))
      before tree after) (built : Syntax.ofTree? tree = some execs) : Reads source execs := by
  obtain ⟨_, logged, _⟩ := yields_zoom.mp parsed
  obtain ⟨_, parsed, _⟩ := yields_zoom.mp logged
  exact ⟨_, _, _, parsed, built⟩

/-- A name for which a script or one of its imports writes an overload. -/
inductive Overloads (around : Surroundings) : Source → String → Prop
  | written {source : Source} {execs : List Exec} {spot inputSpot resultSpot : Tree} {name : String}
      {inputs outputs : List OverloadPort} :
      Reads source execs → .overload spot inputSpot resultSpot name inputs outputs ∈ execs →
      Overloads around source name
  | imported {source other : Source} {execs : List Exec} {spot pathSpot : Tree} {raw name : String}
      {given : Option (Tree × String × Bool)} {found : Path} :
      Reads source execs → .importing spot pathSpot raw given ∈ execs →
      found ∈ importCandidates around source (Text.dropEnd 1 (Text.dropStart 1 raw)) →
      sourceAt around found found = .ok other → Overloads around other name →
      Overloads around source name

theorem Inner.source_eq (inner : Inner .body action) (ran : Yields action before value after) :
    after.source = before.source :=
  congrArg Prod.snd (inner.keepsSetting.of_yields ran)

/-- The action leads to a registry with overloads for the names. -/
abbrev Tracing {α : Type} (names : String → Prop) (action : Elaborating α)
    (session : Session) : Prop :=
  Leads (Registry.Overloaded names) Session.registry action session

section Tracing

variable {names others : String → Prop} {session : Session}

variable {action : Elaborating α}

theorem Overloading.tracing (overloading : Overloading names action session) :
    Tracing names action session :=
  Moved.registry overloading

theorem Tracing.bind (first : Tracing names action session)
    (second : ∀ value middle, Yields action session value middle →
      Tracing names (next value) middle) : Tracing names (action >>= next) session :=
  Leads.bind Registry.Overloaded.trans first second

theorem Tracing.after (inner : Inner .body action)
    (second : ∀ value middle, Yields action session value middle →
      middle.source = session.source → Tracing names (next value) middle) :
    Tracing names (action >>= next) session :=
  .bind inner.overloading.tracing fun value middle run =>
    second value middle run (inner.source_eq run)

theorem Tracing.mono (traces : Tracing names action session)
    (more : ∀ name, names name → others name) : Tracing others action session :=
  Registry.Overloaded.mono more traces

end Tracing

/-- Running the script at a path leaves its overloads behind, and returns to the script around
it. -/
structure Importing (around : Surroundings) (run : Path → Elaborating (Table Function)) : Prop where
  traces : ∀ path session, Tracing
    (fun name => ∃ other, sourceAt around path path = .ok other ∧ Overloads around other name)
    (run path) session
  returns : ∀ path before functions after, Yields (run path) before functions after →
    after.source = before.source

theorem eq_of_unquoted (run : Yields (unquoted spot raw) before text after) :
    text = Text.dropEnd 1 (Text.dropStart 1 raw) := by
  unfold unquoted at run
  split at run
  · split at run
    · exact (run.pure).1.symm
    · exact (yields_report.mp run).elim
  · exact run.throw

theorem inner_importNamespace : Inner .body (importNamespace spot path given) := by
  have last : ∀ name : String, Inner .body (do
      if isNamespace name then return name
      else report .name spot s!"Invalid namespace name '{name}'" : Elaborating String) :=
    fun _ => .ite .pure .quiet
  cases given with
  | none => exact .pure
  | some => exact .ite (.bind .quiet last) (.bind .pure last)

theorem inner_takeFunctions : Inner .body (takeFunctions space functions) :=
  .define fun own => own.insertAll
    (functions.entries.map fun entry : String × Function => (space ++ "::" ++ entry.1, entry.2))

section Scripts

variable {around : Surroundings} {run : Path → Elaborating (Table Function)}
  (importing : Importing around run)

include importing

theorem tracing_importScript (session : Session) (spot pathSpot : Tree) (raw : String)
    (given : Option (Tree × String × Bool)) :
    Tracing (fun name => ∃ found ∈ importCandidates around session.source
        (Text.dropEnd 1 (Text.dropStart 1 raw)), ∃ other, sourceAt around found found = .ok other ∧
          Overloads around other name)
      (importScript around run spot pathSpot raw given) session := by
  refine .after .quiet fun _ _ unquotes same => ?_
  obtain rfl := eq_of_unquoted unquotes
  refine .bind (.of_keeps .get Registry.Overloaded.refl) fun _ _ looks => ?_
  obtain ⟨rfl, rfl⟩ := looks.get
  dsimp only
  split
  · exact Inner.quiet.overloading.tracing
  next found searched =>
    refine .after inner_importNamespace fun _ inside _ _ => ?_
    refine .bind ((importing.traces found inside).mono ?_) fun _ _ _ => ?_
    · rintro _ ⟨other, read, overloads⟩
      exact ⟨found, same ▸ List.mem_of_find?_eq_some searched, other, read, overloads⟩
    · exact inner_takeFunctions.overloading.tracing

theorem returns_importScript
    (ran : Yields (importScript around run spot pathSpot raw given) before done after) :
    after.source = before.source := by
  obtain ⟨_, first, unquotes, ran⟩ := ran.bind
  replace ran := ran.afterGet
  rw [← Inner.quiet.source_eq unquotes]
  dsimp only at ran
  split at ran
  · exact (yields_report.mp ran).elim
  next found searched =>
    obtain ⟨_, third, named, ran⟩ := ran.bind
    obtain ⟨_, fourth, imported, ran⟩ := ran.bind
    calc after.source
      _ = fourth.source := inner_takeFunctions.source_eq ran
      _ = third.source := importing.returns _ _ _ _ imported
      _ = first.source := inner_importNamespace.source_eq named

/-- An entry of a script leaves the overloads of the script behind. -/
theorem tracing_exec (reads : Reads session.source execs) (member : written ∈ execs) :
    Tracing (Overloads around session.source) (exec around run written) session := by
  cases written with
  | block written =>
    exact Overloading.tracing
      (Inner.overloading (.bind (inner_block written trivial) fun _ => .pure))
  | function =>
    exact .bind overloading_function.tracing fun _ _ _ =>
      Inner.pure.overloading.tracing
  | overload =>
    refine Tracing.bind (Overloading.tracing ?_) fun _ _ _ => Inner.pure.overloading.tracing
    exact overloading_overloadPorts (.written reads member)
  | importing spot pathSpot raw given =>
    refine .bind ((tracing_importScript importing session spot pathSpot raw given).mono ?_)
      fun _ _ _ => Inner.pure.overloading.tracing
    rintro _ ⟨_, candidate, _, read, overloads⟩
    exact .imported reads member candidate read overloads

theorem returns_exec (ran : Yields (exec around run written) before entry after) :
    after.source = before.source := by
  cases written with
  | block written =>
    have inner : Inner .body (exec around run (.block written)) :=
      .bind (inner_block written trivial) fun _ => .pure
    exact inner.source_eq ran
  | function nameSpot name written =>
    obtain ⟨_, defined, _⟩ := ran.mapped
    have leads : Overloading (fun _ => True) (function nameSpot name written) before :=
      overloading_function
    exact (leads.of_yields defined).source
  | overload spot inputSpot resultSpot name inputs outputs =>
    obtain ⟨_, overloaded, _⟩ := ran.mapped
    have leads : Overloading (fun _ => True)
        (overloadPorts spot inputSpot resultSpot name inputs outputs) before :=
      overloading_overloadPorts trivial
    exact (leads.of_yields overloaded).source
  | importing =>
    obtain ⟨_, imported, _⟩ := ran.mapped
    exact returns_importScript importing imported

theorem tracing_execs (written : List Exec) :
    ∀ {session : Session}, Reads session.source execs → written ⊆ execs →
      Tracing (Overloads around session.source) (Elaboration.execs around run written) session := by
  induction written with
  | nil => exact fun _ _ => Inner.pure.overloading.tracing
  | cons _ _ ih =>
    intro _ reads included
    obtain ⟨member, includedRest⟩ := List.cons_subset.mp included
    refine .bind (tracing_exec importing reads member) fun _ _ ran => ?_
    have same := returns_exec importing ran
    refine Tracing.bind ?_ fun _ _ _ => Inner.pure.overloading.tracing
    rw [← same]
    exact ih (same ▸ reads) includedRest

theorem tracing_runSource (source : Source) (session : Session) :
    Tracing (Overloads around source) (runSource around run source) session := by
  refine .bind (Registry.Overloaded.refl _) fun _ _ started => ?_
  obtain rfl := Act.yields_modify.mp started
  refine Tracing.after .quiet fun tree middle parsed same => ?_
  cases built : Syntax.ofTree? tree with
  | none => exact Inner.throw.overloading.tracing
  | some execs =>
    have reads := reads_of_parsed parsed built
    have here : middle.source = source := same
    refine Tracing.bind ?_ fun _ _ _ => Inner.pure.overloading.tracing
    rw [← here] at reads ⊢
    exact tracing_execs importing execs reads (List.Subset.refl _)

end Scripts

theorem importing_runImport (around : Surroundings) (depth : Nat) :
    Importing around (runImport around depth) := by
  induction depth with
  | zero =>
    refine ⟨fun path session => Inner.throw.overloading.tracing, ?_⟩
    intro path before functions after ran
    exact ran.throw
  | succ _ importing =>
    refine ⟨fun path _ => ?_, ?_⟩
    · refine .bind (.of_keeps .get Registry.Overloaded.refl) fun before start looked => ?_
      obtain ⟨rfl, rfl⟩ := looked.get
      refine Tracing.bind Inner.lift.overloading.tracing fun source _ opened => ?_
      obtain ⟨read, rfl⟩ := opened.lift
      refine .bind ((tracing_runSource importing source _).mono ?_) fun _ _ _ => ?_
      · intro _ overloads
        exact ⟨source, read, overloads⟩
      · refine .bind (.of_keeps .get Registry.Overloaded.refl) fun after _ looked => ?_
        obtain ⟨rfl, rfl⟩ := looked.get
        refine .bind (Registry.Overloaded.refl _) fun _ _ _ => ?_
        exact Inner.pure.overloading.tracing
    · intro _ _ _ _ ran
      replace ran := ran.afterGet
      obtain ⟨_, _, _, ran⟩ := ran.bind
      obtain ⟨_, _, _, ran⟩ := ran.bind
      obtain ⟨_, _, _, ran⟩ := ran.bind
      obtain ⟨_, _, restored, ran⟩ := ran.bind
      obtain rfl := yields_set.mp restored
      obtain ⟨_, rfl⟩ := ran.pure
      rfl

/-- All that a run leaves behind, whether it succeeds or fails, are overloads for the operators that
overloads of the script and its imports name.  Where they name none, the next run in the session
that is left goes as it would have gone in a new one, but for the lines that are logged and the
numbers that are used already. -/
theorem runScript_after (around : Surroundings) (first : Source) (registry : Registry) :
    let left := ((runScript around first).runOn (.start registry)).2
    registry.Overloaded (Overloads around first) left.registry ∧
      ((∀ name, Overloads around first name → registry.fullName? name = none) →
        ∀ second : Source, (runScript around second).runOn left =
          (runScript around second).runOn
            { Session.start registry with desk := ⟨registry, left.desk.log⟩, nextId :=
              left.nextId }) := by
  intro left
  have traces : registry.Overloaded (Overloads around first) left.registry :=
    tracing_runSource (importing_runImport around around.depth) first (.start registry)
  refine ⟨traces, fun unknown second => ?_⟩
  have same : left.desk = ⟨registry, left.desk.log⟩ := by
    rw [← traces.eq_of_unknown unknown]
    rfl
  rw [← same]
  rfl

/-- A script with a function and an overload for it. -/
def overloading : Source where
  path := "<input>"
  text := "function f(FLOAT x => FLOAT r) \x7b r = x; \x7d\noverload f(INT => FLOAT);".toList
  asAddress := false

theorem runScript_after_overloading :
    let left := ((runScript default overloading).runOn (.start default)).2
    let second : Source := ⟨"<input>", "compound a() \x7b \x7d".toList, false⟩
    (runScript default second).runOn left = (runScript default second).runOn
      { Session.start default with desk := ⟨default, left.desk.log⟩, nextId := left.nextId } :=
  (runScript_after default overloading default).2 (fun _ _ => rfl) _

end Elaboration
end GraphScript
