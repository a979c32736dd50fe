import GraphScript.Editor.Action
import GraphScript.Proofs.Actions
import Mathlib.Data.List.Nodup

/-!
# The tabs of the editor

A strip is sound when its tabs and its pages go by the same numbers, in the same order, and every
number was given out once.  `Follows` says what a change may do to the tabs: the strip stays sound,
and a tab leaves only where it may.  `Spares` says this of an action, wherever it is run.  The
actions that close no tab spare all of them.
-/

namespace GraphScript.Editor

open Act (Leads)

variable {id path : String} {lost : String → Prop}

/-! ## Strips -/

theorem numberText_injective {first : Nat} (same : s!"id{first}" = s!"id{second}") :
    first = second := by
  have letters := congrArg String.toList same
  simp only [toString, String.toList_append, List.append_cancel_left_eq, Nat.repr,
    String.toList_ofList] at letters
  have numbers := congrArg (Nat.ofDigitChars 10 · 0) letters
  simpa using numbers

namespace TabStrip

/-- The tabs and the pages go by the same numbers, each of which was given out once. -/
structure Sound (opened : Nat) (strip : TabStrip) : Prop where
  keys : strip.tabs.keys = strip.pages.map Page.view
  distinct : strip.tabs.keys.Nodup
  given : ∀ id ∈ strip.tabs.keys, ∃ number ≤ opened, id = s!"id{number}"

variable {opened : Nat} {strip : TabStrip} {tab : Tab}

theorem Sound.add (sound : strip.Sound opened) (named : tab.id = s!"id{opened + 1}") :
    (strip.add tab).Sound (opened + 1) := by
  have fresh : tab.id ∉ strip.tabs.keys := by
    intro member
    obtain ⟨number, given, same⟩ := sound.given _ member
    have := numberText_injective (named.symm.trans same)
    omega
  have keys : (strip.add tab).tabs.keys = strip.tabs.keys ++ [tab.id] := by
    rw [TabStrip.add, Table.keys_insert, if_neg fresh]
  refine ⟨?_, ?_, ?_⟩
  · rw [keys, sound.keys, TabStrip.add, List.map_append]
    rfl
  · rw [keys, List.nodup_append_comm]
    exact List.nodup_cons.mpr ⟨fresh, sound.distinct⟩
  · intro other member
    rw [keys, List.mem_append, List.mem_singleton] at member
    rcases member with old | rfl
    · obtain ⟨number, given, same⟩ := sound.given other old
      exact ⟨number, by omega, same⟩
    · exact ⟨opened + 1, Nat.le_refl _, named⟩

theorem tabs_remove : (strip.remove id).tabs = strip.tabs.erase id := by
  rw [TabStrip.remove, TabStrip.removePage]
  split <;> rfl

theorem Sound.remove (sound : strip.Sound opened) : (strip.remove id).Sound opened := by
  have pages : (strip.remove id).pages = strip.pages.eraseP fun page => page.view == id := by
    rw [List.eraseP_eq_eraseIdx, TabStrip.remove, TabStrip.removePage]
    cases strip.pages.findIdx? fun page => page.view == id <;> rfl
  have keys : (strip.remove id).tabs.keys = strip.tabs.keys.erase id := by
    rw [tabs_remove, sound.distinct.erase_eq_filter, Table.keys, Table.keys, List.filter_map]
    rfl
  refine ⟨?_, ?_, ?_⟩
  · rw [keys, pages, sound.keys, List.erase_eq_eraseP', List.eraseP_map]
    rfl
  · rw [keys]
    exact sound.distinct.erase id
  · rw [keys]
    exact fun other member => sound.given other (List.mem_of_mem_erase member)

theorem keys_update (change : Tab → Tab) : (strip.update id change).tabs.keys =
    strip.tabs.keys := by
  rw [TabStrip.update]
  split
  · rfl
  · rename_i found
    have known : id ∈ strip.tabs.keys := List.mem_map_of_mem (Table.mem_of_get? found)
    exact (Table.keys_insert ..).trans (if_pos known)

theorem pages_update (change : Tab → Tab) : (strip.update id change).pages = strip.pages := by
  rw [TabStrip.update]
  split <;> rfl

/-- The strip after a change is sound where it was, and a tab has left only where it may. -/
structure Follows (lost : String → Prop) (before after : TabStrip) : Prop where
  sound : ∀ opened, before.Sound opened → after.Sound opened
  kept : ∀ id ∈ before.tabs.keys, id ∉ after.tabs.keys → lost id

/-- A change that leaves the numbers alone. -/
theorem Follows.of_keys (keys : after.tabs.keys = before.tabs.keys)
    (views : after.pages.map Page.view = before.pages.map Page.view) :
    Follows lost before after where
  sound opened sound := by
    refine ⟨?_, ?_, ?_⟩
    · rw [keys, views, sound.keys]
    · rw [keys]
      exact sound.distinct
    · rw [keys]
      exact sound.given
  kept id member gone := absurd (keys ▸ member) gone

theorem follows_activate : Follows lost strip (strip.activate position) := by
  rw [TabStrip.activate]
  split <;> exact .of_keys rfl rfl

theorem follows_activateTab : Follows lost strip (strip.activateTab id) := by
  rw [TabStrip.activateTab]
  split
  · exact follows_activate
  · exact .of_keys rfl rfl

theorem follows_update : Follows lost strip (strip.update id change) :=
  .of_keys (keys_update change) (congrArg _ (pages_update change))

theorem follows_mark : Follows lost strip (strip.mark id isModified) := by
  rw [TabStrip.mark]
  split
  · exact follows_update
  · refine .of_keys (keys_update _) ?_
    -- a renewed page still belongs to the same tab
    rw [pages_update, List.map_map]
    refine List.map_congr_left fun _ _ => ?_
    simp only [Function.comp]
    split <;> rfl

end TabStrip

/-! ## Actions -/

/-- The numbers of the open tabs. -/
def Workplace.ids (place : Workplace) : List String :=
  (place.window.map fun window => window.strip.tabs.keys).getD []

def Workplace.Sound (place : Workplace) : Prop :=
  ∀ window ∈ place.window, window.strip.Sound place.opened

/-- The strip is sound afterwards where it was before, and a tab has left only where it may. -/
structure Follows (lost : String → Prop) (before after : Workplace) : Prop where
  sound : before.Sound → after.Sound
  kept : ∀ id ∈ before.ids, id ∉ after.ids → lost id

namespace Follows

theorem trans (first : Follows lost before middle) (second : Follows lost middle after) :
    Follows lost before after where
  sound sound := second.sound (first.sound sound)
  kept id member gone := by
    by_cases between : id ∈ middle.ids
    · exact second.kept id between gone
    · exact first.kept id member between

theorem mono (follows : Follows lost before after) (wider : ∀ id, lost id → other id) :
    Follows other before after :=
  ⟨follows.sound, fun id member gone => wider id (follows.kept id member gone)⟩

/-- A change of the window that keeps the strip sound and all tabs but those that may leave. -/
theorem of_map (window : after.window = before.window.map change)
    (sound : ∀ window, window.strip.Sound before.opened → (change window).strip.Sound after.opened)
    (kept : ∀ window, ∀ id ∈ window.strip.tabs.keys, id ∉ (change window).strip.tabs.keys →
      lost id) : Follows lost before after where
  sound old changed member := by
    rw [window] at member
    obtain ⟨first, opened, rfl⟩ := Option.map_eq_some_iff.mp member
    exact sound first (old first opened)
  kept id member gone := by
    rw [Workplace.ids, window] at gone
    unfold Workplace.ids at member
    cases found : before.window with
    | none =>
      rw [found] at member
      exact absurd member (List.not_mem_nil)
    | some first =>
      rw [found] at member gone
      exact kept first id member gone

theorem of_eq (window : after.window = before.window) (opened : after.opened = before.opened) :
    Follows lost before after :=
  of_map (window.trans (Option.map_id' ..).symm) (fun _ sound => opened ▸ sound)
    fun _ _ member gone => absurd member gone

theorem refl (place : Workplace) : Follows lost place place := of_eq rfl rfl

end Follows

/-- Run on a workplace, and also where it stops, the action lets tabs leave only where they may. -/
abbrev SparesAt (lost : String → Prop) (action : Editing α) (place : Workplace) : Prop :=
  Leads (Follows lost) (fun place => place) action place

/-- It does so on every workplace. -/
class Spares (lost : String → Prop) (action : Editing α) : Prop where
  run : ∀ place, SparesAt lost action place

theorem sparesAt (action : Editing α) [spares : Spares lost action] : SparesAt lost action place :=
  spares.run place

namespace Spares

instance pure : Spares lost (pure value : Editing α) := ⟨Follows.refl⟩

instance : Spares lost (throw fault : Editing α) := ⟨Follows.refl⟩

instance : Spares lost (getThe Workplace : Editing Workplace) := ⟨Follows.refl⟩

instance lift {outcome : Except Fault α} : Spares lost (liftM outcome : Editing α) :=
  ⟨fun _ => .of_keeps (.lift outcome) .refl⟩

theorem modify
    (kept : ∀ place, ((change place).window, (change place).opened) =
      (place.window, place.opened)) : Spares lost (modifyThe Workplace change : Editing PUnit) :=
  ⟨fun place => .of_eq (congrArg Prod.fst (kept place)) (congrArg Prod.snd (kept place))⟩

theorem bind (first : Spares lost action) (second : ∀ value, Spares lost (then' value)) :
    Spares lost (action >>= then') :=
  ⟨fun place => .bind .trans (first.run place) fun value middle _ => (second value).run middle⟩

theorem next [first : Spares lost action] (second : ∀ value, Spares lost (then' value)) :
    Spares lost (action >>= then') :=
  first.bind second

instance andThen [Spares lost action] [second : ∀ value, Spares lost (then' value)] :
    Spares lost (action >>= then') :=
  next second

instance discard [spares : Spares lost action] : Spares lost (discard action) :=
  spares.bind fun _ => .pure

instance ite [Decidable condition] [first : Spares lost whenTrue] [second : Spares lost whenFalse] :
    Spares lost (if condition then whenTrue else whenFalse) :=
  ⟨fun place => .ite (first.run place) (second.run place)⟩

end Spares

/-! ## Parts of the editor -/

instance : Spares lost (note event) := .modify fun _ => rfl

instance : Spares lost (print line) := .modify fun _ => rfl

instance : Spares lost window := .andThen

theorem spares_changeWindow
    (follows : ∀ window, TabStrip.Follows lost window.strip (change window).strip) :
    Spares lost (changeWindow change) :=
  ⟨fun _ => .of_map rfl (fun window => (follows window).sound _) fun window =>
    (follows window).kept⟩

theorem spares_changeStrip (follows : ∀ strip, TabStrip.Follows lost strip (change strip)) :
    Spares lost (changeStrip change) :=
  spares_changeWindow fun window => follows window.strip

instance : Spares lost (changeStrip (·.activateTab id)) :=
  spares_changeStrip fun _ => TabStrip.follows_activateTab

instance : Spares lost (changeStrip (·.mark id isModified)) :=
  spares_changeStrip fun _ => TabStrip.follows_mark

instance : Spares lost active? := .andThen

instance : Spares lost active := .andThen

instance : Spares lost (tabOf id) := .andThen

instance : Spares lost chosenPath := .andThen

instance : Spares lost reply := by
  refine .next fun _ => ?_
  split
  · exact .pure
  · exact .bind (.modify fun _ => rfl) inferInstance

instance : Spares lost reloadTargets :=
  have (targets : Targets) : Spares lost (changeWindow fun window => { window with targets }) :=
    spares_changeWindow fun _ => .of_keys rfl rfl
  .andThen

theorem spares_addTab (named : ∀ id, (make id).id = id) : Spares lost (addTab make) := by
  refine ⟨fun _ => .of_map rfl (fun window sound => sound.add (named _)) fun _ _ member gone => ?_⟩
  refine absurd ?_ gone
  refine (Table.keys_insert ..) ▸ ?_
  split
  · exact member
  · exact List.mem_append_left _ member

instance : Spares lost (addTab Tab.untitled) := spares_addTab fun _ => rfl

instance : Spares lost (showFile path content) := by
  refine .next fun _ => ?_
  dsimp only
  split
  · infer_instance
  · exact spares_addTab fun _ => rfl

instance : Spares lost (openPath path) := .next fun _ => by split <;> infer_instance

instance : Spares lost (openFile folder) :=
  .next fun _ => .next fun _ => .next fun _ => by split <;> infer_instance

instance {path : Path} {content : String} : Spares lost (saveTab id path content) :=
  .bind (spares_changeStrip fun _ => TabStrip.follows_update) fun _ => .next fun _ =>
    .next fun _ => .bind (.modify fun _ => rfl) inferInstance

instance : Spares lost requestContent := .next fun _ => by split <;> infer_instance

instance : Spares lost (saveUnder id path content) := .andThen

instance : Spares lost (deliverContent content) := by
  cases content with
  | none => exact inferInstanceAs (Spares lost (note _))
  | some =>
    refine .next fun _ => ?_
    split
    · infer_instance
    · exact .next fun _ => .next fun _ => by split <;> infer_instance

instance : Spares lost save := by
  refine .next fun _ => ?_
  split
  · exact .pure
  · exact .next fun _ => by split <;> infer_instance

instance : Spares lost (targetName target) := by
  unfold targetName
  split
  · exact .pure
  · exact .pure
  all_goals exact .next fun _ => .bind (.modify fun _ => rfl) inferInstance

instance {tab : Tab} : Spares lost (buildTab tab) :=
  .next fun _ => .bind (.modify fun _ => rfl) fun _ => .next fun _ =>
    .bind (.modify fun _ => rfl) fun _ => .lift

instance : Spares lost (buildActive method target) := by
  refine .next fun tab => ?_
  cases tab with
  | none => exact .pure
  | some tab =>
    refine @Spares.ite _ _ _ _ _ _ (.next fun _ => ?_) ?_
    all_goals
      refine .next fun name => ?_
      cases name with
      | none => exact inferInstanceAs (Spares lost (buildTab tab))
      | some => exact .bind (spares_changeWindow fun _ => .of_keys rfl rfl) inferInstance

instance : Spares lost build := .andThen

instance : Spares lost (later task) := .modify fun _ => rfl

instance {tasks : List Task} : Spares lost (runTasks tasks) := by
  induction tasks with
  | nil => exact .pure
  | cons task _ ih =>
    cases task with
    | save => exact .bind (inferInstanceAs (Spares lost save)) fun _ => ih
    | build => exact .bind (inferInstanceAs (Spares lost build)) fun _ => ih

instance : Spares lost (belowRoot path) := .andThen

instance {path content : Option String} : Spares lost (saveActive path content) := by
  refine .next fun _ => ?_
  cases path
  case' none => refine .bind .pure fun target => ?_
  case' some => refine .next fun _ => .bind .pure fun target => ?_
  all_goals cases target <;> infer_instance

instance {path : Option String} {isModified : Bool} : Spares lost (looseTab path isModified) := by
  cases path <;> exact .andThen

instance : Spares lost reloadActive := .andThen

end GraphScript.Editor
