import GraphScript.Proofs.Editor.Tabs

/-!
# No tab is lost in silence

Only closing takes tabs away, and for a modified text it asks first.  A question is answered, a page
gives its text and a path is chosen while other things happen in the editor.  So a move is not only
a whole step of the user, but also each of the parts that such a step is left with while it waits.

The main result is `modified_leaves_only_when_given_up`.
-/

namespace GraphScript.Editor

open Act (Yields yields_bind yields_pure yields_get yields_lift yields_modify yields_discard)

variable {place : Workplace}

section Closing

variable {id : String}

instance : Spares (· = id) (removeTab id) := by
  refine .next fun _ => .next fun _ => spares_changeStrip fun _ =>
    ⟨fun _ sound => sound.remove, fun _ member gone => ?_⟩
  by_contra different
  rw [TabStrip.tabs_remove] at gone
  obtain ⟨_, inside, rfl⟩ := List.mem_map.mp member
  exact gone (List.mem_map_of_mem (List.mem_filter.mpr ⟨inside, by simpa using different⟩))

/-- An answer takes the tab away only if it is to give the tab up. -/
theorem spares_answerClose (button : Int) :
    Spares (fun other => other = id ∧ button = 1) (answerClose id button) := by
  unfold answerClose
  split
  · infer_instance
  · split
    · rename_i given
      exact ⟨fun place => (Spares.run place).mono fun _ same => ⟨same, beq_iff_eq.mp given⟩⟩
    · exact .pure

/-- The tab with a number. -/
def Workplace.tab? (place : Workplace) (id : String) : Option Tab :=
  place.window.bind fun window => window.strip.tabs.get? id

/-- The tab may be closed without a question, or the first question is answered by giving it up. -/
def Workplace.MayClose (place : Workplace) (id : String) : Prop :=
  (∃ tab, place.tab? id = some tab ∧ tab.isModified = false) ∨ place.conduct.replies.head? = some 1

theorem yields_window : Yields window place found after ↔ place.window = some found ∧
    place = after := by
  simp only [window, yields_bind, yields_get, yields_lift, orFault_eq_ok]
  grind

theorem yields_tabOf : Yields (tabOf id) place tab after ↔ place.tab? id = some tab ∧
    place = after := by
  simp only [tabOf, yields_bind, yields_window, yields_lift, orFault_eq_ok, Workplace.tab?,
    Option.bind_eq_some_iff]
  grind

theorem reply_one (run : Yields reply place 1 after) : place.conduct.replies.head? = some 1 := by
  rw [reply, yields_bind] at run
  obtain ⟨_, _, got, run⟩ := run
  obtain ⟨rfl, rfl⟩ := got.get
  split at run
  · exact absurd (run.pure).1 (by decide)
  · rename_i replies
    obtain ⟨_, _, _, run⟩ := run.bind
    rw [replies, (run.pure).1]
    rfl

/-- Closing takes away the tab that is closed, if it may be closed. -/
theorem sparesAt_closeTab (place : Workplace) :
    SparesAt (fun other => other = id ∧ place.MayClose id) (closeTab id) place := by
  refine .bind .trans (Spares.run place) fun tab _ run => ?_
  obtain ⟨found, rfl⟩ := yields_tabOf.mp run
  split
  · rename_i unmodified
    refine (Spares.run place).mono fun _ same => ⟨same, .inl ⟨tab, found, ?_⟩⟩
    simpa using unmodified
  · refine .bind .trans (Spares.run _) fun _ noted run => ?_
    have asked : noted.conduct = place.conduct := yields_modify.mp run ▸ rfl
    refine .bind .trans (Spares.run noted) fun button replied run => ?_
    refine ((spares_answerClose button).run replied).mono ?_
    rintro _ ⟨same, rfl⟩
    exact ⟨same, .inr (asked ▸ reply_one run)⟩

/-- The number of the tab that an action closes. -/
def Action.closed? (strip : TabStrip) : Action → Option String
  | close position =>
    ((position? position).bind fun position => strip.pages[position]?).map Page.view
  | closeActive | press .close true => strip.active?.toOption.join.map Tab.id
  | _ => none

/-- The action closes the tab with a number. -/
def Action.Closes (action : Action) (place : Workplace) (id : String) : Prop :=
  ∃ window ∈ place.window, action.closed? window.strip = some id

theorem yields_active? :
    Yields active? place tab after ↔
      (∃ window ∈ place.window, window.strip.active? = .ok tab) ∧ place = after := by
  simp only [active?, yields_bind, yields_window, yields_lift, Option.mem_def]
  grind

theorem sparesAt_closeActive (place : Workplace) :
    SparesAt (fun id => Action.closeActive.Closes place id ∧ place.MayClose id)
      closeActive place := by
  refine .bind .trans (Spares.run place) fun tab middle run => ?_
  obtain ⟨⟨window, opened, found⟩, rfl⟩ := yields_active?.mp run
  cases tab with
  | none => exact Spares.pure.run _
  | some =>
    refine .bind .trans ?_ fun _ _ _ => Spares.run _
    refine (sparesAt_closeTab place).mono ?_
    rintro _ ⟨rfl, may⟩
    refine ⟨⟨window, opened, ?_⟩, may⟩
    rw [Action.closed?, found]
    rfl

theorem sparesAt_press (key : Key) (control : Bool) (place : Workplace) :
    SparesAt (fun id => (Action.press key control).Closes place id ∧ place.MayClose id)
      (press key control) place := by
  refine .bind .trans (Spares.run place) fun _ middle run => ?_
  obtain ⟨_, run⟩ := yields_discard.mp run
  obtain ⟨-, rfl⟩ := yields_window.mp run
  cases control with
  | false => cases key <;> exact sparesAt (note _)
  | true =>
    cases key with
    | close => exact .bind .trans (sparesAt_closeActive place) fun _ _ _ => Spares.pure.run _
    | create => exact sparesAt (addTab Tab.untitled)
    | openFile => exact sparesAt (openFile "")
    | save => exact sparesAt (later .save)
    | build => exact Spares.andThen.run _
    | other => exact sparesAt (note _)

instance : Spares lost newWindow := .andThen

/-- A new window has no tabs. -/
instance : Spares (fun _ => True) openWindow := by
  refine ⟨fun place => .bind .trans (Spares.run place) fun _ _ run => ?_⟩
  obtain ⟨_, _, _, _, _, _, rfl, _⟩ := run
  refine ⟨?_, fun _ _ _ => trivial⟩
  rintro _ _ ⟨⟩
  exact ⟨rfl, List.nodup_nil, List.forall_mem_nil _⟩

instance : Spares lost makeControl := by
  have : Spares lost (modifyThe Workplace fun place => { place with hasControl := true }) :=
    .modify fun _ => rfl
  exact .andThen

instance : Spares (fun _ => True) (startEditor how) := by fun_cases startEditor <;> infer_instance

theorem sparesAt_close (position : Int) (place : Workplace) :
    SparesAt (fun id => (Action.close position).Closes place id ∧ place.MayClose id)
      (Action.close position).run place := by
  refine .bind .trans (Spares.run place) fun window middle run => ?_
  obtain ⟨opened, rfl⟩ := yields_window.mp run
  refine .bind .trans (Spares.run place) fun _ middle run => ?_
  obtain ⟨found, rfl⟩ := run.lift
  refine .bind .trans ?_ fun _ middle _ => Spares.run middle
  refine (sparesAt_closeTab place).mono ?_
  rintro _ ⟨rfl, may⟩
  refine ⟨⟨window, opened, ?_⟩, may⟩
  rw [Action.closed?, orFault_eq_ok.mp found]
  rfl

/-- The action neither starts the editor nor closes a tab. -/
def Action.IsOrdinary : Action → Prop
  | start _ | close _ | closeActive | press _ _ => False
  | _ => True

theorem spares_run : ∀ action : Action, action.IsOrdinary → Spares lost action.run
  | .activate position, _ => by
    refine .next fun _ => ?_
    cases position? position with
    | none => exact .pure
    | some => exact .bind (spares_changeStrip fun _ => TabStrip.follows_activate) inferInstance
  | .selectTarget _, _ | .setMethod _, _ =>
    .next fun _ => .bind (spares_changeWindow fun _ => .of_keys rfl rfl) inferInstance
  | .looseTab path isModified, _ => inferInstanceAs (Spares lost (looseTab path isModified))
  | .writeFile _ _, _ =>
    .next fun _ => .next fun _ => .next fun _ => .bind (.modify fun _ => rfl) inferInstance
  | .create, _ | .openFile, _ | .help, _ | .save, _ | .build, _ | .reloadTargets, _
  | .setModified _, _ | .echo _, _ | .pageReady, _ | .reloadTab, _ | .saveTab _ _, _ => .andThen

/-- A tab leaves when the editor is started anew, or when an action closes it. -/
theorem sparesAt_run (action : Action) (place : Workplace) :
    SparesAt (fun id => (∃ how, action = .start how) ∨ action.Closes place id ∧ place.MayClose id)
      action.run place := by
  cases action with
  | start how =>
    exact (Spares.andThen.run place).mono fun _ (_ : True) => .inl ⟨how, rfl⟩
  | close position => exact (sparesAt_close position place).mono fun _ => .inr
  | closeActive => exact (sparesAt_closeActive place).mono fun _ => .inr
  | press key control =>
    refine .bind .trans ?_ fun _ middle _ => Spares.run middle
    exact (sparesAt_press key control place).mono fun _ => .inr
  | _ => exact (spares_run _ (by trivial)).run place

end Closing

/-! ## Moves -/

/-- A part of a step that waits for the user or for a page.  While it waits, other moves take
place. -/
inductive Part where
  /-- The user has chosen a file to open. -/
  | openPath (path : String)
  /-- A page tells whether its text is modified. -/
  | notice (id : String) (isModified : Bool)
  /-- The user presses a button when a tab is to be closed. -/
  | answer (id : String) (button : Int)
  | request
  | deliver (content : Option String)
  /-- The user has chosen a path for a tab without a file. -/
  | saveUnder (id path content : String)
  /-- The text is saved that a script is to be built from. -/
  | build (method : String) (target : Option Target)

def Part.run : Part → Editing Unit
  | openPath path => Editor.openPath path
  | notice id isModified => changeStrip (·.mark id isModified)
  | answer id button => answerClose id button
  | request => discard requestContent
  | deliver content => deliverContent content
  | saveUnder id path content => Editor.saveUnder id path content
  | build method target => buildActive method target

/-- What can happen in the editor: a whole step, or a part of one. -/
inductive Move where
  | step (action : Action)
  | part (part : Part)

def Workplace.after (place : Workplace) (conduct : Conduct) : Move → Workplace
  | .step action => (place.step action conduct).2
  | .part part => (part.run.runOn { place with conduct }).2

/-- In the move the tab with a number is closed, and the user answers that it is not to be saved. -/
def Move.GivesUp (place : Workplace) (conduct : Conduct) (id : String) : Move → Prop
  | .step action => action.Closes place id ∧ conduct.replies.head? = some 1
  | .part (.answer closed button) => closed = id ∧ button = 1
  | .part _ => False

/-- The workplaces that moves lead to, in any order, from one without a window. -/
inductive Reached : Workplace → Prop
  | closed {place : Workplace} (noWindow : place.window = none) : Reached place
  | move {place : Workplace} (reached : Reached place) (conduct : Conduct) (move : Move) :
      Reached (place.after conduct move)

theorem sparesAt_complete (action : Action) (place : Workplace) :
    SparesAt (fun id => (∃ how, action = .start how) ∨ action.Closes place id ∧ place.MayClose id)
      action.complete place := by
  refine .bind .trans (sparesAt_run action place) fun _ middle _ => (?_ : Spares _ _).run middle
  exact .next fun _ => .bind (.modify fun _ => rfl) inferInstance

theorem follows_step (place : Workplace) (conduct : Conduct) (action : Action) :
    Follows (fun id => (∃ how, action = .start how) ∨
      action.Closes place id ∧ { place with conduct }.MayClose id) place
        (place.step action conduct).2 := by
  have run := sparesAt_complete action
    { place with conduct := conduct, events := #[], commands := #[], log := #[] }
  exact ⟨fun sound => run.sound sound, fun id member gone => run.kept id member gone⟩

theorem follows_part (place : Workplace) (conduct : Conduct) (part : Part) :
    Follows ((Move.part part).GivesUp place conduct) place (place.after conduct (.part part)) := by
  let before : Workplace := { place with conduct }
  have same : Follows ((Move.part part).GivesUp place conduct) place before := .of_eq rfl rfl
  refine same.trans ?_
  cases part with
  | answer _ button =>
    exact ((spares_answerClose button).run _).mono fun _ given => ⟨given.1.symm, given.2⟩
  | openPath path => exact sparesAt (openPath path)
  | notice id isModified => exact sparesAt (changeStrip (·.mark id isModified))
  | request => exact sparesAt (discard requestContent)
  | deliver content => exact sparesAt (deliverContent content)
  | saveUnder id path content => exact sparesAt (saveUnder id path content)
  | build method target => exact sparesAt (buildActive method target)

theorem mem_ids_iff {id : String} : id ∈ place.ids ↔ (place.tab? id).isSome := by
  unfold Workplace.ids Workplace.tab?
  cases place.window with
  | none => simp
  | some => exact (Table.isSome_get? _ _).symm

theorem Reached.sound (reached : Reached place) : place.Sound := by
  induction reached with
  | closed noWindow =>
    intro _ member
    rw [noWindow] at member
    cases member
  | move _ conduct move ih =>
    cases move with
    | step action => exact (follows_step _ conduct action).sound ih
    | part part => exact (follows_part _ conduct part).sound ih

/-- Whatever happens in the editor, in whatever order, the tabs are at every moment those of the
pages of the strip.  While the editor is not started anew, a tab with a modified text goes away only
when it is closed and the user answers that it is not to be saved. -/
theorem modified_leaves_only_when_given_up (reached : Reached place) :
    (∀ window ∈ place.window, window.strip.tabs.keys = window.strip.pages.map Page.view ∧
      window.strip.tabs.keys.Nodup) ∧
    ∀ (move : Move) (conduct : Conduct) (id : String) (tab : Tab),
      (∀ how, move ≠ .step (.start how)) →
      place.tab? id = some tab → tab.isModified = true →
      (place.after conduct move).tab? id = none →
      move.GivesUp place conduct id := by
  refine ⟨fun window member => ?_, ?_⟩
  · have sound := reached.sound window member
    exact ⟨sound.keys, sound.distinct⟩
  · intro move conduct id tab stays found modified gone
    have left : id ∈ place.ids ∧ id ∉ (place.after conduct move).ids := by
      rw [mem_ids_iff, mem_ids_iff, found, gone]
      exact ⟨rfl, Bool.false_ne_true⟩
    cases move with
    | part part => exact (follows_part place conduct part).kept id left.1 left.2
    | step action =>
      rcases (follows_step place conduct action).kept id left.1 left.2 with ⟨how,
        rfl⟩ | ⟨closes, may⟩
      · exact absurd rfl (stays how)
      · refine ⟨closes, may.resolve_left ?_⟩
        rintro ⟨other, same, unmodified⟩
        cases found.symm.trans same
        rw [modified] at unmodified
        cases unmodified

/-- A new tab is modified, and closing it with the answer not to save takes it away. -/
theorem untitled_leaves_when_given_up :
    ∃ place move conduct, Reached place ∧ place.tab? "id1" = some (.untitled "id1") ∧
      (place.after conduct move).tab? "id1" = none ∧ move.GivesUp place conduct "id1" := by
  let start : Workplace := { files := ⟨"", []⟩, registry := ⟨∅, ∅, [], [], false⟩ }
  let place := (start.after {} (.step (.start .plain))).after {} (.step .create)
  have reached : Reached place := .move (.move (.closed rfl) _ _) _ _
  have found : place.tab? "id1" = some (.untitled "id1") := by decide +kernel
  have gone : (place.after { replies := [1] } (.step (.close 0))).tab? "id1" = none := by
    decide +kernel
  exact ⟨place, _, _, reached, found, gone,
    (modified_leaves_only_when_given_up reached).2 _ _ _ _ (fun _ same => by cases same)
      found rfl gone⟩

end GraphScript.Editor
