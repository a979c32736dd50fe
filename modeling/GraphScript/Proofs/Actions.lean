import GraphScript.Act
import Mathlib.Data.List.Forall2

/-!
# Laws of actions

An action on a state either yields a value or stops.  `Act.Yields` says that it yields a value and
leaves a state, and its laws take a composed action apart into the steps that it consists of.

`Act.Settles` describes an action in both directions: where it yields a value, some condition was
met and a statement about the value and the state afterwards holds; and where the surroundings are
willing and the condition is met, it does yield a value.

`Act.Keeps` says that an action leaves a part of the state as it is.
-/

namespace GraphScript
namespace Act

variable {action : Act σ α} {next : α → Act σ β}
variable {outcome : Except Fault α}

/-! ## Running single steps -/

@[simp] theorem runOn_pure : (pure value : Act σ α).runOn state = (.ok value, state) := rfl

@[simp] theorem runOn_throw : (throw fault : Act σ α).runOn state = (.error fault, state) := rfl

@[simp] theorem runOn_get (state : σ) : (getThe σ : Act σ σ).runOn state = (.ok state, state) := rfl

@[simp] theorem runOn_set : (set new : Act σ PUnit).runOn state = (.ok ⟨⟩, new) := rfl

@[simp] theorem runOn_modify :
    (modifyThe σ change : Act σ PUnit).runOn state = (.ok ⟨⟩, change state) := rfl

@[simp] theorem runOn_lift (outcome : Except Fault α) (state : σ) :
    (liftM outcome : Act σ α).runOn state = (outcome, state) := by
  cases outcome <;> rfl

@[simp] theorem runOn_ofExcept (outcome : Except Fault α) (state : σ) :
    (ofExcept outcome : Act σ α).runOn state = (outcome, state) := by
  cases outcome <;> rfl

@[simp] theorem runOn_attempt (action : Act σ α) (state : σ) :
    (attempt action).runOn state = (.ok (action.runOn state).1, (action.runOn state).2) := rfl

theorem runOn_bind (action : Act σ α) (next : α → Act σ β) (state : σ) :
    (action >>= next).runOn state =
      match action.runOn state with
      | (.ok value, after) => (next value).runOn after
      | (.error fault, after) => (.error fault, after) := by
  simp only [runOn, ExceptT.run, bind, ExceptT.bind, ExceptT.mk, StateT.bind, StateT.run]
  rcases action state with ⟨_ | _, _⟩ <;> rfl

@[simp] theorem ok_bind (value : α) (next : α → Act σ β) :
    ((liftM (Except.ok value : Except Fault α) : Act σ α) >>= next) = next value := rfl

theorem runOn_zoom (get : τ → σ) (put : σ → τ → τ) (action : Act σ α) (state : τ) :
    (zoom get put action).runOn state =
      ((action.runOn (get state)).1, put (action.runOn (get state)).2 state) := by
  rcases outcome : action.runOn (get state) with ⟨_ | _, _⟩
  all_goals
    simp only [zoom, runOn_bind, runOn_get, outcome]
    rfl

/-! ## Actions that yield a value -/

/-- Run on a state, the action yields a value and leaves a state. -/
def Yields (action : Act σ α) (state : σ) (value : α) (after : σ) : Prop :=
  action.runOn state = (.ok value, after)

section Yields

@[simp] theorem yields_pure :
    Yields (pure value : Act σ α) state result after ↔ value = result ∧ state = after := by
  simp [Yields]

@[simp] theorem yields_throw : Yields (throw fault : Act σ α) state result after ↔ False := by
  simp [Yields]

@[simp] theorem yields_get :
    Yields (getThe σ : Act σ σ) state result after ↔ state = result ∧ state = after := by
  rw [Yields, runOn_get, Prod.mk.injEq, Except.ok.injEq]

@[simp] theorem yields_set : Yields (set new : Act σ PUnit) state result after ↔ new = after := by
  simp [Yields]

@[simp] theorem yields_modify :
    Yields (modifyThe σ change : Act σ PUnit) state result after ↔ change state = after := by
  rw [Yields, runOn_modify, Prod.mk.injEq, Except.ok.injEq, and_iff_right rfl]

@[simp] theorem yields_lift :
    Yields (liftM outcome : Act σ α) state result after ↔ outcome = .ok result ∧ state = after := by
  simp [Yields]

@[simp] theorem yields_ofExcept :
    Yields (ofExcept outcome : Act σ α) state result after ↔
      outcome = .ok result ∧ state = after := by
  simp [Yields]

@[simp] theorem yields_attempt :
    Yields (attempt action) state result after ↔ action.runOn state = (result, after) := by
  simp [Yields, Prod.ext_iff]

/-- A composed action yields a value when its first part yields one that the second part goes on
from. -/
@[simp] theorem yields_bind :
    Yields (action >>= next) state result after ↔
      ∃ value middle, Yields action state value middle ∧
        Yields (next value) middle result after := by
  unfold Yields
  rw [runOn_bind]
  rcases action.runOn state with ⟨_ | value, middle⟩
  · simp
  · constructor
    · intro run
      exact ⟨value, middle, rfl, run⟩
    · rintro ⟨_, _, same, run⟩
      cases same
      exact run

@[simp] theorem yields_map :
    Yields (change <$> action) state result after ↔
      ∃ value, Yields action state value after ∧ change value = result := by
  rw [← bind_pure_comp, yields_bind]
  constructor
  · rintro ⟨value, _, run, finish⟩
    obtain ⟨same, rfl⟩ := yields_pure.mp finish
    exact ⟨value, run, same⟩
  · rintro ⟨value, run, same⟩
    exact ⟨value, after, run, yields_pure.mpr ⟨same, rfl⟩⟩

@[simp] theorem yields_discard :
    Yields (discard action) state result after ↔ ∃ value, Yields action state value after := by
  have same : (discard action : Act σ PUnit) = Function.const α PUnit.unit <$> action := rfl
  rw [same, yields_map]
  simp

theorem yields_zoom {get : τ → σ} :
    Yields (zoom get put action) state result after ↔
      ∃ part, Yields action (get state) result part ∧ put part state = after := by
  unfold Yields
  rw [runOn_zoom]
  rcases action.runOn (get state) with ⟨_, part⟩
  simp only [Prod.mk.injEq]
  constructor
  · rintro ⟨same, rfl⟩
    exact ⟨part, ⟨same, rfl⟩, rfl⟩
  · rintro ⟨_, ⟨same, rfl⟩, rfl⟩
    exact ⟨same, rfl⟩

theorem yields_ite [Decidable condition] :
    Yields (if condition then whenTrue else whenFalse) state result after ↔
      if condition then Yields whenTrue state result after
      else Yields whenFalse state result after := by
  split <;> rfl

/-! What an action did can be read off what it yields. -/

theorem Yields.bind (run : Yields (action >>= next) state result after) :
    ∃ value middle, Yields action state value middle ∧ Yields (next value) middle result after :=
  yields_bind.mp run

theorem Yields.pure (run : Yields (pure value : Act σ α) state result after) :
    value = result ∧ state = after :=
  yields_pure.mp run

theorem Yields.lift (run : Yields (liftM outcome : Act σ α) state result after) :
    outcome = .ok result ∧ state = after :=
  yields_lift.mp run

theorem Yields.get (run : Yields (getThe σ : Act σ σ) state result after) : state = result ∧
    state = after :=
  yields_get.mp run

theorem Yields.afterGet {next : σ → Act σ β} (run : Yields (getThe σ >>= next) state result after) :
    Yields (next state) state result after := by
  obtain ⟨_, _, got, run⟩ := run.bind
  obtain ⟨rfl, rfl⟩ := got.get
  exact run

theorem Yields.mapped {change : α → β}
    (run : Yields (action >>= fun value => Pure.pure (change value)) state result after) :
    ∃ value, Yields action state value after ∧ change value = result := by
  obtain ⟨value, _, ran, finish⟩ := run.bind
  obtain ⟨rfl, rfl⟩ := finish.pure
  exact ⟨value, ran, rfl⟩

theorem Yields.throw {motive : Prop}
    (run : Yields (throw fault : Act σ α) state result after) : motive :=
  (yields_throw.mp run).elim

end Yields

/-- Whatever the action yields from a state, the value and the state that it leaves are as
required. -/
def Ensures (action : Act σ α) (state : σ) (required : α → σ → Prop) : Prop :=
  ∀ value after, Yields action state value after → required value after

theorem ensures_bind (first : Ensures action state middle)
    (second : ∀ value after, middle value after → Ensures (next value) after required) :
    Ensures (action >>= next) state required := by
  intro value after run
  obtain ⟨between, state, runFirst, runSecond⟩ := yields_bind.mp run
  exact second between state (first between state runFirst) value after runSecond

/-! ## Actions that leave a part of the state alone -/

/-- The view of the state is the same after the action as before it, also where it stops. -/
def Keeps (view : σ → τ) (action : Act σ α) : Prop :=
  ∀ state, view (action.runOn state).2 = view state

namespace Keeps

theorem of_yields (kept : Keeps view action) (run : Yields action state value after) :
    view after = view state := by
  have same := kept state
  rw [run] at same
  exact same

theorem pure (value : α) : Keeps view (pure value : Act σ α) := fun _ => rfl

theorem throw (fault : Fault) : Keeps view (throw fault : Act σ α) := fun _ => rfl

theorem get : Keeps view (getThe σ : Act σ σ) := fun _ => rfl

theorem lift (outcome : Except Fault α) : Keeps view (liftM outcome : Act σ α) := by
  intro _
  rw [runOn_lift]

theorem bind (first : Keeps view action) (second : ∀ value, Keeps view (next value)) :
    Keeps view (action >>= next) := by
  intro state
  have same := first state
  rw [runOn_bind]
  rcases outcome : action.runOn state with ⟨_ | value, middle⟩
  · rw [outcome] at same
    exact same
  · rw [outcome] at same
    exact (second value middle).trans same

theorem attempt (kept : Keeps view action) : Keeps view (attempt action) := kept

theorem ite [Decidable condition] (first : Keeps view whenTrue) (second : Keeps view whenFalse) :
    Keeps view (if condition then whenTrue else whenFalse) := by
  split
  · exact first
  · exact second

theorem modify (kept : ∀ state, view (change state) = view state) :
    Keeps view (modifyThe σ change : Act σ PUnit) :=
  kept

theorem zoom {get : σ → ρ} {action : Act ρ α}
    (kept : ∀ part state, view (put part state) = view state) :
    Keeps view (zoom get put action) := by
  intro state
  rw [runOn_zoom]
  exact kept _ state

theorem forM {action : α → Act σ PUnit} (kept : ∀ item, Keeps view (action item)) :
    ∀ items : List α, Keeps view (items.forM action)
  | [] => Keeps.pure _
  | item :: rest => Keeps.bind (kept item) fun _ => Keeps.forM kept rest

end Keeps

/-! ## Actions that change a part of the state in a given way -/

/-- Where the action leads from a state, the view is related to what it was, also where it stops. -/
def Leads (relation : τ → τ → Prop) (view : σ → τ) (action : Act σ α) (state : σ) : Prop :=
  relation (view state) (view (action.runOn state).2)

namespace Leads

theorem of_yields (leads : Leads relation view action state)
    (run : Yields action state value after) : relation (view state) (view after) := by
  unfold Leads at leads
  rw [run] at leads
  exact leads

theorem of_keeps (kept : Keeps view action) (reflexive : ∀ part, relation part part) :
    Leads relation view action state := by
  unfold Leads
  rw [kept state]
  exact reflexive _

theorem bind
    (transitive : ∀ {first second third}, relation first second → relation second third →
      relation first third) (first : Leads relation view action state)
    (second : ∀ value middle, Yields action state value middle →
      Leads relation view (next value) middle) : Leads relation view (action >>= next) state := by
  unfold Leads at first ⊢
  rw [runOn_bind]
  rcases outcome : action.runOn state with ⟨_ | value, middle⟩
  · rw [outcome] at first
    exact first
  · rw [outcome] at first
    exact transitive first (second value middle outcome)

theorem ite [Decidable condition] (first : Leads relation view whenTrue state)
    (second : Leads relation view whenFalse state) :
    Leads relation view (if condition then whenTrue else whenFalse) state := by
  split
  · exact first
  · exact second

end Leads

/-! ## Checks -/

/-- A check comes to a result. -/
def Passes (check : Except Fault α) : Prop := ∃ value, check = .ok value

section Passes

instance : Decidable (Passes check) :=
  match check with
  | .ok value => .isTrue ⟨value, rfl⟩
  | .error _ => .isFalse fun ⟨_, same⟩ => nomatch same

@[simp] theorem passes_ok (value : α) : Passes (.ok value : Except Fault α) := ⟨value, rfl⟩

@[simp] theorem passes_pure (value : α) : Passes (pure value : Except Fault α) := ⟨value, rfl⟩

@[simp] theorem passes_error (fault : Fault) : Passes (.error fault : Except Fault α) ↔ False := by
  simp [Passes]

@[simp] theorem passes_throw (fault : Fault) : Passes (throw fault : Except Fault α) ↔ False :=
  passes_error fault

@[simp] theorem passes_bind {next : α → Except Fault β} :
    Passes (check >>= next) ↔ ∃ value, check = .ok value ∧ Passes (next value) := by
  cases check with
  | error => simp [Passes, bind, Except.bind]
  | ok => simp [bind, Except.bind]

theorem passes_ite [Decidable condition] :
    Passes (if condition then check else other) ↔
      if condition then Passes check else Passes other := by
  split <;> rfl

theorem bind_eq_ok {next : α → Except Fault β} :
    (check >>= next) = .ok result ↔ ∃ value, check = .ok value ∧ next value = .ok result := by
  cases check with
  | error => simp [bind, Except.bind]
  | ok => simp [bind, Except.bind]

section Several

variable {step : α → Except Fault β} {items : List α}

theorem mapM_eq_ok : items.mapM step = .ok results ↔
    List.Forall₂ (fun item result => step item = .ok result) items results := by
  induction items generalizing results with
  | nil => simp [Pure.pure, Except.pure, eq_comm]
  | cons _ _ ih =>
    rw [List.mapM_cons, bind_eq_ok, List.forall₂_cons_left_iff]
    simp only [bind_eq_ok, ih]
    constructor
    · rintro ⟨first, made, others, madeOthers, same⟩
      cases same
      exact ⟨first, others, made, madeOthers, rfl⟩
    · rintro ⟨first, others, made, madeOthers, rfl⟩
      exact ⟨first, made, others, madeOthers, rfl⟩

theorem mapM_eq_map (answers : ∀ item ∈ items, step item = .ok (answer item)) :
    items.mapM step = .ok (items.map answer) :=
  mapM_eq_ok.mpr (List.forall₂_map_right_iff.mpr (List.forall₂_same.mpr answers))

end Several

/-- What comes after a check need not depend on its result. -/
@[simp high] theorem passes_then {more : Except Fault β} :
    Passes (check >>= fun _ => more) ↔ Passes check ∧ Passes more := by
  rw [passes_bind, exists_and_right]
  rfl

@[simp] theorem passes_discard : Passes (discard check) ↔ Passes check := by
  cases check with
  | error => exact iff_of_false (fun ⟨_, same⟩ => nomatch same) fun ⟨_, same⟩ => nomatch same
  | ok => exact iff_of_true ⟨_, rfl⟩ ⟨_, rfl⟩

end Passes

/-! ## Actions that settle a condition -/

/-- Where the action yields a value, the condition is met and the statement about the value and the
state afterwards holds; where the surroundings are willing and the condition is met, it yields a
value. -/
structure Settles
    (action : Act σ α)
    (state : σ)
    (willing due : Prop)
    (post : α → σ → Prop) : Prop where
  sound : ∀ value after, Yields action state value after → due ∧ post value after
  total : willing → due → ∃ value after, Yields action state value after

namespace Settles

/-- An action has one outcome. -/
theorem of_yields (run : Yields action state value after) (holds : post value after) :
    Settles action state willing True post where
  sound := by
    intro _ _ ran
    cases run.symm.trans ran
    exact ⟨trivial, holds⟩
  total := fun _ _ => ⟨value, after, run⟩

theorem pure (holds : post value state) : Settles (pure value : Act σ α) state willing True post :=
  of_yields (yields_pure.mpr ⟨rfl, rfl⟩) holds

theorem throw : Settles (throw fault : Act σ α) state willing False post where
  sound := fun _ _ run => (yields_throw.mp run).elim
  total := fun _ impossible => impossible.elim

theorem modify (holds : post ⟨⟩ (change state)) :
    Settles (modifyThe σ change : Act σ PUnit) state willing True post :=
  of_yields (yields_modify.mpr rfl) holds

theorem modifies (change : σ → σ) :
    Settles (modifyThe σ change : Act σ PUnit) state willing True fun _ after =>
      after = change state :=
  modify rfl

/-- The parts of a composed action are settled one after the other. -/
theorem bind (first : Settles action state willing due middlePost)
    (second : ∀ value middle, Yields action state value middle → middlePost value middle →
      Settles (next value) middle willing dueNext post) :
    Settles (action >>= next) state willing (due ∧ dueNext) post where
  sound := by
    intro result after run
    obtain ⟨value, middle, runFirst, runSecond⟩ := yields_bind.mp run
    obtain ⟨dueFirst, holds⟩ := first.sound value middle runFirst
    obtain ⟨dueSecond, finish⟩ := (second value middle runFirst holds).sound result after runSecond
    exact ⟨⟨dueFirst, dueSecond⟩, finish⟩
  total := by
    rintro isWilling ⟨dueFirst, dueSecond⟩
    obtain ⟨value, middle, runFirst⟩ := first.total isWilling dueFirst
    have holds := (first.sound value middle runFirst).2
    obtain ⟨result, after, runSecond⟩ :=
      (second value middle runFirst holds).total isWilling dueSecond
    exact ⟨result, after, yields_bind.mpr ⟨value, middle, runFirst, runSecond⟩⟩

/-- A first part that owes nothing. -/
theorem andThen (first : Settles action state willing True middlePost)
    (second : ∀ value middle, Yields action state value middle → middlePost value middle →
      Settles (next value) middle willing due post) :
      Settles (action >>= next) state willing due post := by
  have both := first.bind second
  rw [true_and] at both
  exact both

/-- Nothing comes after an action that always stops. -/
theorem never (first : Settles action state willing False middlePost) :
    Settles (action >>= next) state willing False post := by
  have both : Settles (action >>= next) state willing (False ∧ True) post :=
    first.bind fun value middle run _ => (first.sound value middle run).1.elim
  rwa [false_and] at both

/-- A step that only looks is settled by what it finds. -/
theorem look {dueNext : α → Prop}
    (second : ∀ value, outcome = .ok value →
      Settles (next value) state willing (dueNext value) post) :
    Settles (liftM outcome >>= next) state willing (∃ value, outcome = .ok value ∧ dueNext value)
      post := by
  cases outcome with
  | error =>
    simp only [reduceCtorEq, false_and, exists_false]
    exact throw
  | ok value => simpa using second value rfl

theorem lift (holds : ∀ value, outcome = .ok value → post value state) :
    Settles (liftM outcome : Act σ α) state willing (∃ value, outcome = .ok value) post := by
  simpa using look fun value found => pure (holds value found)

theorem get {next : σ → Act σ β} (second : Settles (next state) state willing due post) :
    Settles (getThe σ >>= next) state willing due post := by
  have first : Settles (getThe σ) state willing True fun value after => state = value ∧
    state = after :=
    of_yields (yields_get.mpr ⟨rfl, rfl⟩) ⟨rfl, rfl⟩
  refine first.andThen fun _ _ _ same => ?_
  obtain ⟨rfl, rfl⟩ := same
  exact second

/-- The value of an action can be changed before it is given. -/
theorem map (first : Settles action state willing due fun value after =>
    post (change value) after) : Settles (change <$> action) state willing due post where
  sound := by
    intro _ after run
    obtain ⟨value, runFirst, rfl⟩ := yields_map.mp run
    exact first.sound value after runFirst
  total := by
    intro isWilling isDue
    obtain ⟨value, after, runFirst⟩ := first.total isWilling isDue
    exact ⟨change value, after, yields_map.mpr ⟨value, runFirst, rfl⟩⟩

theorem discard (first : Settles action state willing due fun _ after => post ⟨⟩ after) :
    Settles (discard action) state willing due post := by
  have same : (Functor.discard action : Act σ PUnit) = Function.const α PUnit.unit <$> action := rfl
  exact map first

/-- What is done after an attempt is done in any case, and does not change how the attempt
settles. -/
theorem attempted {post : σ → Prop} (first : Settles action state willing due middlePost)
    (second : ∀ value middle, middlePost value middle →
      Settles cleanup middle willing True fun _ after => post after) :
    Settles (do let result ← attempt action; cleanup; ofExcept result) state willing due
      fun _ after => post after where
  sound := by
    intro value after run
    simp only [yields_bind, yields_attempt, yields_ofExcept] at run
    obtain ⟨_, middle, run, _, _, cleaned, rfl, rfl⟩ := run
    obtain ⟨isDue, holds⟩ := first.sound value middle run
    exact ⟨isDue, ((second value middle holds).sound _ _ cleaned).2⟩
  total := by
    intro isWilling isDue
    obtain ⟨value, middle, run⟩ := first.total isWilling isDue
    have holds := (first.sound value middle run).2
    obtain ⟨done, after, cleaned⟩ := (second value middle holds).total isWilling trivial
    refine ⟨value, after, ?_⟩
    simp only [yields_bind, yields_attempt, yields_ofExcept]
    exact ⟨.ok value, middle, run, done, after, cleaned, rfl, rfl⟩

/-- A condition can be stated differently, and less can be said afterwards. -/
theorem weaken (settled : Settles action state willing due post) (sameDue : due ↔ dueOther)
    (implied : due → ∀ value after, post value after → other value after) :
    Settles action state willing dueOther other where
  sound := by
    intro value after run
    obtain ⟨isDue, holds⟩ := settled.sound value after run
    exact ⟨sameDue.mp isDue, implied isDue value after holds⟩
  total := fun isWilling isDue => settled.total isWilling (sameDue.mpr isDue)

theorem congr (settled : Settles action state willing due post) (sameDue : due ↔ dueOther) :
    Settles action state willing dueOther post :=
  settled.weaken sameDue fun _ _ _ holds => holds

theorem imp (settled : Settles action state willing due post)
    (implied : ∀ value after, post value after → other value after) :
    Settles action state willing due other :=
  settled.weaken Iff.rfl fun _ => implied

end Settles

end Act
end GraphScript
