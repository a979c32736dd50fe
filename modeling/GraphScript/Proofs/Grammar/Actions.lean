import GraphScript.Grammar.ParseTable
import Mathlib.Data.List.Basic

/-!
# Moves and actions of a parse table

A production in progress in some state has been read along every way into that state, and only the
productions that a state adds to its kernel begin in it.  Whatever the ranks decide, an action that
a table holds has a reason in its state: a symbol is read along a move of the automaton, and a
production is reduced, or the input accepted, where the production was read to its end.
-/

namespace GraphScript.Grammar

open List

variable {symbol : String} {moves : Array (String × Nat)}

/-- Every production has its place as its number. -/
def Rules.Numbered (rules : Rules) : Prop :=
  ∀ (place : Nat) (production : Production),
    rules.productions.toList[place]? = some production → production.number = place

/-- A number of a production other than the root. -/
def Rules.Numbers (rules : Rules) (number : Nat) : Prop := 0 < number ∧
    number < rules.productions.size

/-- An item that begins a production other than the root. -/
def Item.Begins (rules : Rules) (item : Item) : Prop := item.dot = 0 ∧ rules.Numbers item.production

/-- Reading a symbol leads from one item to another. -/
def Item.Advances (rules : Rules) (symbol : String) (before after : Item) : Prop :=
  rules.nextSymbol? before = some symbol ∧ after = ⟨before.production, before.dot + 1⟩

/-- Every item of a state after a move begins a production or was advanced by the move. -/
def Follows (rules : Rules) (symbol : String) (before after : Array Item) : Prop :=
  ∀ item ∈ after, item.Begins rules ∨ ∃ earlier ∈ before, earlier.Advances rules symbol item

/-! ## Closing a kernel -/

namespace Rules

variable {rules : Rules} {index : RuleIndex}

theorem Numbered.of_mem (numbered : rules.Numbered) {production : Production}
    (member : production ∈ rules.productions.toList.drop 1) : rules.Numbers production.number := by
  obtain ⟨_, found⟩ := mem_iff_getElem?.mp member
  rw [List.getElem?_drop] at found
  have bound := (List.getElem?_eq_some_iff.mp found).1
  rw [numbered _ _ found]
  exact ⟨by omega, bound⟩

/-- The index lists numbers of productions. -/
theorem numbers_index (numbered : rules.Numbered) (symbol : String) :
    ∀ number ∈ rules.index.getD symbol #[], rules.Numbers number := by
  have grows : ∀ (productions : List Production) (index : RuleIndex),
      (∀ production ∈ productions, rules.Numbers production.number) →
      (∀ symbol, ∀ number ∈ index.getD symbol #[], rules.Numbers number) →
      ∀ symbol, ∀ number ∈ (productions.foldl (fun index production =>
        index.insert production.name ((index.getD production.name #[]).push production.number))
        index).getD symbol #[], rules.Numbers number := by
    intro productions
    induction productions with
    | nil => exact fun _ _ known => known
    | cons production _ ih =>
      intro _ listed known
      refine ih _ (forall_mem_cons.mp listed).2 ?_
      intro symbol number member
      rw [Std.HashMap.getD_insert] at member
      split at member
      · rcases Array.mem_push.mp member with old | rfl
        · exact known _ number old
        · exact listed production mem_cons_self
      · exact known symbol number member
  exact grows _ ∅ (fun _ member => numbered.of_mem member) (by simp) symbol

/-- Closing adds nothing but beginnings of productions. -/
theorem mem_closeFrom (listed : ∀ symbol, ∀ number ∈ index.getD symbol #[], rules.Numbers number)
    (leftOut : Nat → Bool) (bound position : Nat) (items : Array Item)
    (opened : Std.HashSet String) :
    ∀ item ∈ closeFrom rules index leftOut bound position items opened, item ∈ items ∨
      item.Begins rules := by
  induction bound generalizing position items opened with
  | zero => exact fun item member => .inl member
  | succ _ ih =>
    intro item member
    unfold closeFrom at member
    split at member
    · exact .inl member
    · split at member
      · exact ih _ _ _ item member
      · split at member
        · exact ih _ _ _ item member
        · rcases ih _ _ _ item member with known | begins
          · rcases Array.mem_append.mp known with old | fresh
            · exact .inl old
            · obtain ⟨number, kept, rfl⟩ := Array.mem_map.mp fresh
              exact .inr ⟨rfl, listed _ number (Array.mem_filter.mp kept).1⟩
          · exact .inr begins

/-- A kernel after a symbol holds items that were advanced by the symbol. -/
theorem mem_kernelsAfter (found : (rules.kernelsAfter items).get? symbol = some kernel) :
    ∀ item ∈ kernel, ∃ earlier ∈ items, earlier.Advances rules symbol item := by
  have grows : ∀ symbol, ∀ item ∈ (rules.kernelsAfter items).getD symbol #[],
      ∃ earlier ∈ items, earlier.Advances rules symbol item := by
    refine Array.foldl_induction
      (fun _ (kernels : Std.HashMap String (Array Item)) => ∀ symbol,
        ∀ item ∈ kernels.getD symbol #[],
        ∃ earlier ∈ items, earlier.Advances rules symbol item)
      (by simp) ?_
    intro position _ known symbol item member
    split at member
    · exact known symbol item member
    · rename_i read next
      rw [Std.HashMap.getD_insert] at member
      split at member
      · rename_i same
        obtain rfl := eq_of_beq same
        rcases Array.mem_push.mp member with old | rfl
        · exact known _ item old
        · exact ⟨_, Array.getElem_mem position.isLt, next, rfl⟩
      · exact known symbol item member
  intro item member
  refine grows symbol item ?_
  rw [Std.HashMap.getD_eq_getD_getElem?, ← Std.HashMap.get?_eq_getElem?, found]
  exact member

end Rules

/-! ## Expanding the states -/

namespace Automaton

/-- What holds while the states are expanded: every known kernel has its state, every move so far
leads to a state that follows, and nothing was read before the first state. -/
structure Growing (rules : Rules) (automaton : Automaton) : Prop where
  nonempty : 0 < automaton.states.size
  start : ∀ item ∈ automaton.states.getD 0 #[], item = ⟨0, 0⟩ ∨ item.Begins rules
  numbered : ∀ kernel number, automaton.numbers.get? kernel = some number →
    number < automaton.states.size ∧
      ∀ item ∈ automaton.states.getD number #[], item ∈ kernel ∨ item.Begins rules
  expanded : automaton.moves.size ≤ automaton.states.size
  moved : ∀ state, ∀ move ∈ automaton.moves.getD state #[], move.2 < automaton.states.size ∧
    Follows rules move.1 (automaton.states.getD state #[]) (automaton.states.getD move.2 #[])

/-- The moves of a state that were found so far. -/
structure Moving (rules : Rules) (state : Nat) (items : Array Item) (automaton : Automaton)
    (moves : Array (String × Nat)) : Prop where
  growing : automaton.Growing rules
  next : automaton.moves.size = state
  known : state < automaton.states.size
  current : automaton.states.getD state #[] = items
  found : ∀ move ∈ moves, move.2 < automaton.states.size ∧
    Follows rules move.1 items (automaton.states.getD move.2 #[])

variable {rules : Rules} {automaton : Automaton} {state : Nat} {items kernel : Array Item}

theorem getD_push_of_lt {states : Array (Array Item)} (known : number < states.size)
    (items : Array Item) : (states.push items).getD number #[] = states.getD number #[] := by
  simp only [Array.getD_eq_getD_getElem?, Array.getElem?_push, Nat.ne_of_lt known, if_false]

theorem lt_of_mem_getD {moves : Array (Array (String × Nat))}
    (member : move ∈ moves.getD state #[]) : state < moves.size := by
  by_contra beyond
  simp [Array.getD_eq_getD_getElem?, Array.getElem?_eq_none (Nat.le_of_not_lt beyond)] at member

/-- A new state for a kernel that has none. -/
theorem Growing.push (growing : automaton.Growing rules) (kernel : List Item)
    (closed : ∀ item ∈ items, item ∈ kernel ∨ item.Begins rules) :
    Growing rules { automaton with
      states := automaton.states.push items
      numbers := automaton.numbers.insert kernel automaton.states.size } where
  nonempty := by simp
  start := by simpa only [getD_push_of_lt growing.nonempty] using growing.start
  numbered := by
    intro other number found
    rw [Std.HashMap.get?_eq_getElem?, Std.HashMap.getElem?_insert] at found
    split at found
    · rename_i same
      obtain rfl := eq_of_beq same
      cases found
      simpa [Array.getD_eq_getD_getElem?] using closed
    · obtain ⟨known, items⟩ := growing.numbered other number found
      simp only [getD_push_of_lt known, Array.size_push]
      exact ⟨by omega, items⟩
  expanded := by
    have := growing.expanded
    simp only [Array.size_push]
    omega
  moved := by
    intro state move member
    obtain ⟨known, follows⟩ := growing.moved state move member
    have expanded : state < automaton.states.size :=
      Nat.lt_of_lt_of_le (lt_of_mem_getD member) growing.expanded
    simp only [getD_push_of_lt known, getD_push_of_lt expanded, Array.size_push]
    exact ⟨by omega, follows⟩

theorem Moving.find (moving : Moving rules state items automaton moves)
    (known : target < automaton.states.size)
    (follows : Follows rules symbol items (automaton.states.getD target #[])) :
    Moving rules state items automaton (moves.push (symbol, target)) where
  __ := moving
  found := by
    intro move member
    rcases Array.mem_push.mp member with old | rfl
    · exact moving.found move old
    · exact ⟨known, follows⟩

theorem Moving.push (moving : Moving rules state items automaton moves) (kernel : List Item)
    (closes : ∀ item ∈ closed, item ∈ kernel ∨ item.Begins rules) :
    Moving rules state items { automaton with
      states := automaton.states.push closed
      numbers := automaton.numbers.insert kernel automaton.states.size } moves where
  growing := moving.growing.push kernel closes
  next := moving.next
  known := by
    have := moving.known
    simp only [Array.size_push]
    omega
  current := (getD_push_of_lt moving.known closed).trans moving.current
  found := by
    intro move member
    obtain ⟨known, follows⟩ := moving.found move member
    simp only [getD_push_of_lt known, Array.size_push]
    exact ⟨by omega, follows⟩

/-- A state made from a kernel follows where the kernel was read. -/
theorem follows_of_kernel (read : (rules.kernelsAfter items).get? symbol = some kernel)
    (closes : ∀ item ∈ closed, item ∈ kernel.toList ∨ item.Begins rules) :
    Follows rules symbol items closed := by
  intro item member
  rcases closes item member with inKernel | begins
  · exact .inr (Rules.mem_kernelsAfter read item (Array.mem_toList_iff.mp inKernel))
  · exact .inl begins

/-- The move on one symbol is found, if there is one. -/
theorem Moving.findAt (numbered : rules.Numbered) {found : Automaton × Array (String × Nat)}
    (moving : Moving rules state items found.1 found.2) (symbol : String) :
    let next := match (rules.kernelsAfter items).get? symbol with
      | none => (found.1, found.2)
      | some kernel =>
        match found.1.numbers.get? kernel.toList with
        | some number => (found.1, found.2.push (symbol, number))
        | none =>
          let number := found.1.states.size
          ({ found.1 with
              states := found.1.states.push (rules.closure rules.index found.1.states kernel)
              numbers := found.1.numbers.insert kernel.toList number },
            found.2.push (symbol, number))
    Moving rules state items next.1 next.2 := by
  split
  · exact moving
  · rename_i kernel read
    split
    · rename_i number listed
      obtain ⟨known, closes⟩ := moving.growing.numbered _ _ listed
      exact moving.find known (follows_of_kernel read closes)
    · have closes : ∀ item ∈ rules.closure rules.index found.1.states kernel,
          item ∈ kernel.toList ∨ item.Begins rules :=
        fun item member => (Rules.mem_closeFrom (Rules.numbers_index numbered) _ _ _ _ _ item
          member).imp_left Array.mem_toList_iff.mpr
      refine (moving.push kernel.toList closes).find (by simp) ?_
      simpa [Array.getD_eq_getD_getElem?] using follows_of_kernel read closes

/-- All moves of a state were found. -/
theorem Moving.finish (moving : Moving rules state items automaton moves) :
    Growing rules { automaton with moves := automaton.moves.push moves } where
  __ := moving.growing
  expanded := by
    have := moving.next
    have := moving.known
    simp only [Array.size_push]
    omega
  moved := by
    intro other move member
    rcases Nat.lt_trichotomy other automaton.moves.size with earlier | rfl | _
    · refine moving.growing.moved other move ?_
      simpa only [Array.getD_eq_getD_getElem?, Array.getElem?_push, Nat.ne_of_lt earlier, if_false]
        using member
    · rw [moving.next, moving.current]
      refine moving.found move ?_
      simpa [Array.getD_eq_getD_getElem?] using member
    · have := lt_of_mem_getD member
      simp only [Array.size_push] at this
      omega

theorem Growing.expand (numbered : rules.Numbered) (growing : automaton.Growing rules)
    (known : automaton.moves.size < automaton.states.size) :
    Growing rules (automaton.expand rules rules.index automaton.moves.size) ∧
      (automaton.expand rules rules.index automaton.moves.size).moves.size =
        automaton.moves.size + 1 := by
  unfold Automaton.expand
  generalize current : automaton.states.getD automaton.moves.size #[] = items
  dsimp only
  generalize folded : Array.foldl _ (automaton, #[]) (rules.symbolsOf items) = found
  have moving : Moving rules automaton.moves.size items found.1 found.2 := by
    rw [← folded]
    refine Array.foldl_induction
      (fun _ (found : Automaton × Array (String × Nat)) =>
        Moving rules automaton.moves.size items found.1 found.2)
      ⟨growing, rfl, known, current, by simp⟩ ?_
    exact fun _ _ moving => moving.findAt numbered _
  refine ⟨moving.finish, ?_⟩
  simp only [Array.size_push, moving.next]

/-- Every state is expanded in turn. -/
theorem Growing.expandFrom (numbered : rules.Numbered) (bound : Nat) :
    ∀ {automaton : Automaton}, automaton.Growing rules →
      Growing rules (expandFrom rules rules.index bound automaton.moves.size automaton) := by
  induction bound with
  | zero => exact fun growing => growing
  | succ _ ih =>
    intro _ growing
    unfold Automaton.expandFrom
    split
    · rename_i known
      obtain ⟨grown, size⟩ := growing.expand numbered known
      rw [← size]
      exact ih grown
    · exact growing

theorem growing_ofRules (numbered : rules.Numbered) : (ofRules rules).Growing rules := by
  have closes : ∀ item ∈ rules.closure rules.index #[] #[⟨0, 0⟩], item ∈ [⟨0, 0⟩] ∨
    item.Begins rules :=
    fun item member => (Rules.mem_closeFrom (Rules.numbers_index numbered) _ _ _ _ _ item
      member).imp (by simp) id
  refine @Growing.expandFrom rules numbered _ ⟨#[_], #[], _⟩ ?_
  refine ⟨by simp, ?_, ?_, by simp, by simp⟩
  · exact fun item member => (closes item member).imp_left mem_singleton.mp
  · intro kernel number found
    obtain ⟨rfl, rfl⟩ : [⟨0, 0⟩] = kernel ∧ 0 = number := by
      rw [Std.HashMap.get?_eq_getElem?, Std.HashMap.ofList_singleton,
        Std.HashMap.getElem?_insert] at found
      simpa using found
    exact ⟨by simp, closes⟩

/-- What the states of an automaton have to do with its moves: nothing was read before the first
state, and every item after a move begins a production or was advanced by the move. -/
structure Sound (rules : Rules) (automaton : Automaton) : Prop where
  start : ∀ item ∈ automaton.states.getD 0 #[], item = ⟨0, 0⟩ ∨ item.Begins rules
  follows : ∀ state symbol target, automaton.after? state symbol = some target →
    Follows rules symbol (automaton.states.getD state #[]) (automaton.states.getD target #[])

theorem sound_ofRules (numbered : rules.Numbered) : (ofRules rules).Sound rules := by
  have growing := growing_ofRules numbered
  refine ⟨growing.start, ?_⟩
  intro state symbol _ moved
  obtain ⟨move, found, rfl⟩ := Option.map_eq_some_iff.mp moved
  have same : move.1 = symbol := by simpa using Array.find?_some found
  rw [← same]
  exact (growing.moved state move (Array.mem_of_find?_eq_some found)).2

/-- The automaton without states. -/
theorem sound_empty (rules : Rules) : Sound rules ⟨#[], #[], ∅⟩ := ⟨by simp, by simp [after?]⟩

end Automaton

/-! ## Actions -/

/-- A production was read to its end in a state. -/
def Automaton.Completes (automaton : Automaton) (rules : Rules) (state number : Nat) : Prop :=
  ∃ item ∈ automaton.states.getD state #[], item.production = number ∧ rules.nextSymbol? item = none

/-- The reason that an action of a state needs. -/
def Action.Justified (rules : Rules) (automaton : Automaton) (state : Nat) (symbol : String) :
    Action → Prop
  | .shift target => automaton.after? state symbol = some target
  | .reduce number =>
    (rules.production number).name ≠ rootName ∧ automaton.Completes rules state number
  | .accept => symbol = endMark ∧
      ∃ number, (rules.production number).name = rootName ∧ automaton.Completes rules state number
  | .blocked => True

namespace ParseTable

/-- Every action of a state has its reason. -/
def Justified (rules : Rules) (automaton : Automaton) (state : Nat)
    (actions : Table Action) : Prop :=
  ∀ symbol action, actions.get? symbol = some action → action.Justified rules automaton state symbol

/-- A step of filling keeps the actions of a state justified, also where it stops. -/
def Filling.Justified (rules : Rules) (automaton : Automaton) (state : Nat) : Filling → Prop
  | .ok draft => ParseTable.Justified rules automaton state draft.entry.actions
  | .error stop => ParseTable.Justified rules automaton state stop.draft.entry.actions

variable {actions : Table Action} {draft : Draft} {terminals : Std.HashSet String}
variable {lookaheads : Lookaheads}
variable {rules : Rules} {automaton : Automaton} {state : Nat} {item : Item}

theorem Justified.insert (justified : Justified rules automaton state actions)
    (reason : action.Justified rules automaton state symbol) :
    Justified rules automaton state (actions.insert symbol action) := by
  intro other found member
  rw [Table.get?_insert] at member
  split at member
  · rename_i same
    cases member
    exact same ▸ reason
  · exact justified other found member

theorem Justified.reduce (justified : Justified rules automaton state actions)
    (inner : (rules.production item.production).name ≠ rootName)
    (complete : automaton.Completes rules state item.production) (symbol : String) :
    Justified rules automaton state (actions.insert symbol (.reduce item.production)) :=
  justified.insert ⟨inner, complete⟩

theorem Justified.block (justified : Justified rules automaton state actions)
    (symbol : String) : Justified rules automaton state (actions.insert symbol .blocked) :=
  justified.insert trivial

/-- A reduction is entered only where its production is complete. -/
theorem justified_enterReduction (justified : Justified rules automaton state draft.entry.actions)
    (inner : (rules.production item.production).name ≠ rootName)
    (complete : automaton.Completes rules state item.production) (symbol : String) :
    (enterReduction rules state item symbol draft).Justified rules automaton state := by
  have entered := justified.reduce inner complete symbol
  unfold enterReduction
  dsimp only
  split
  · exact entered
  · exact entered
  · exact justified
  · split
    · -- the reduction wins, with or without a remark
      split <;> exact entered
    · split
      · exact justified.block symbol
      · split <;> exact justified
  · -- of two reductions either one stays
    split
    · exact entered
    · exact justified

/-- A symbol is read only along a move. -/
theorem justified_enterShift (justified : Justified rules automaton state draft.entry.actions)
    (moved : automaton.after? state symbol = some target) :
    (enterShift rules state item symbol target draft).Justified rules automaton state := by
  have entered : Justified rules automaton state
    (draft.entry.actions.insert symbol (.shift target)) :=
    justified.insert moved
  unfold enterShift
  dsimp only
  split
  · exact entered
  · exact entered
  · exact justified
  · split <;> exact justified
  · split
    · split <;> exact entered
    · split
      · exact justified.block symbol
      · split <;> exact justified

/-- Steps of filling, one after the other. -/
theorem justified_foldlM (step : Draft → α → Filling) (parts : List α)
    (keeps : ∀ part ∈ parts, ∀ draft, Justified rules automaton state draft.entry.actions →
      (step draft part).Justified rules automaton state) (draft : Draft)
    (justified : Justified rules automaton state draft.entry.actions) :
    Filling.Justified rules automaton state (parts.foldlM step draft) := by
  induction parts generalizing draft with
  | nil => exact justified
  | cons part _ ih =>
    have first := keeps part mem_cons_self draft justified
    rw [foldlM_cons]
    cases stepped : step draft part with
    | error =>
      rw [stepped] at first
      exact first
    | ok next =>
      rw [stepped] at first
      exact ih (forall_mem_cons.mp keeps).2 next first

/-- What one item of a state asks for has its reason. -/
theorem justified_enterItem (member : item ∈ automaton.states.getD state #[])
    (justified : Justified rules automaton state draft.entry.actions) :
    (enterItem rules automaton terminals lookaheads state draft item).Justified rules automaton
      state := by
  unfold enterItem
  split
  · rename_i complete
    have completes : automaton.Completes rules state item.production :=
      ⟨item, member, rfl, complete⟩
    split
    · rename_i root
      have reason : Action.Justified rules automaton state endMark .accept :=
        ⟨rfl, item.production, root, completes⟩
      exact justified.insert reason
    · rename_i inner
      rw [← Array.foldlM_toList]
      exact justified_foldlM _ _ (fun symbol _ draft kept =>
        justified_enterReduction kept inner completes symbol) draft justified
  · split
    · split
      · rename_i moved
        exact justified_enterShift justified moved
      · exact justified
    · exact justified

/-- The states that were filled so far. -/
def Progress.Justified (rules : Rules) (automaton : Automaton) (progress : Progress) : Prop :=
  ∀ state, ParseTable.Justified rules automaton state (progress.states.getD state default).actions

theorem justified_default : Justified rules automaton state (default : StateActions).actions := by
  intro _ _ found
  cases found

theorem justified_fillState (justified : progress.Justified rules automaton)
    (current : automaton.states.getD progress.states.size #[] = items) :
    (fillState rules automaton terminals lookaheads progress items).Justified rules automaton := by
  have filled := justified_foldlM
    (enterItem rules automaton terminals lookaheads progress.states.size)
    items.toList (fun _ member draft kept =>
      justified_enterItem (current.symm ▸ Array.mem_toList_iff.mp member) kept)
    ⟨⟨.empty, .empty, #[], #[]⟩, progress.conflicts, progress.reductions⟩
    (fun _ _ found => by cases found)
  rw [Array.foldlM_toList] at filled
  have pushed : ∀ entry : StateActions,
      ParseTable.Justified rules automaton progress.states.size entry.actions → ∀ state,
        ParseTable.Justified rules automaton state
          ((progress.states.push entry).getD state default).actions := by
    intro entry reason state
    rw [Array.getD_eq_getD_getElem?, Array.getElem?_push]
    split
    · rename_i last
      exact last ▸ reason
    · rw [← Array.getD_eq_getD_getElem?]
      exact justified state
  unfold fillState
  split
  · exact justified
  · dsimp only
    split
    · rename_i draft done
      rw [done] at filled
      exact pushed draft.entry filled
    · rename_i stop stopped
      rw [stopped] at filled
      exact pushed stop.draft.entry filled

/-- While nothing stops the filling there are as many filled states as were visited. -/
theorem size_fillState
    (goes : (fillState rules automaton terminals lookaheads progress items).stopped = none) :
    progress.stopped = none ∧
      (fillState rules automaton terminals lookaheads progress items).states.size =
        progress.states.size + 1 := by
  unfold fillState at goes ⊢
  split at goes
  · rename_i stopped
    simp [goes] at stopped
  · rename_i running
    refine ⟨by simpa using running, ?_⟩
    rw [if_neg running]
    split <;> simp

/-- All states were filled unless something stopped that. -/
theorem justified_foldl (automaton : Automaton) (terminals : Std.HashSet String)
    (lookaheads : Lookaheads) (reductions : Array Int) :
    let progress := automaton.states.foldl (fillState rules automaton terminals lookaheads)
      ⟨#[], #[], reductions, none⟩
    progress.stopped = none → progress.Justified rules automaton := by
  intro progress finished
  have filled : progress.stopped = none → progress.states.size = automaton.states.size ∧
      progress.Justified rules automaton := by
    refine Array.foldl_induction
      (fun position (progress : Progress) => progress.stopped = none →
        progress.states.size = position ∧ progress.Justified rules automaton)
      (fun _ => ⟨rfl, fun _ => ?_⟩) ?_
    · exact justified_default
    · intro _ _ visited goes
      obtain ⟨before, size⟩ := size_fillState goes
      obtain ⟨position', justified⟩ := visited before
      refine ⟨by rw [size, position'], justified_fillState justified ?_⟩
      simp [position']
  exact (filled finished).2

/-- What a table owes its grammar: the moves of its automaton and the reasons of its actions. -/
structure Sound (table : ParseTable) : Prop where
  moves : table.automaton.Sound table.rules
  justified : ∀ state symbol action, table.action? state symbol = some action →
    action.Justified table.rules table.automaton state symbol

theorem sound_build (numbered : rules.Numbered) (built : build rules = .ok table) :
    table.rules = rules ∧ table.Sound := by
  unfold build at built
  split at built
  · rename_i filled complete
    cases built
    obtain ⟨rfl, finished⟩ := Prod.mk.inj complete
    exact ⟨rfl, Automaton.sound_ofRules numbered, justified_foldl _ _ _ _ finished⟩
  · cases built

/-- The table without states. -/
theorem sound_empty (rules : Rules) : Sound ⟨rules, ⟨#[], #[], ∅⟩, #[], #[], #[]⟩ := by
  refine ⟨Automaton.sound_empty rules, ?_⟩
  intro _ symbol action found
  exact justified_default symbol action found

theorem action?_of_default? {table : ParseTable} (only : table.default? state = some number) :
    ∃ symbol, table.action? state symbol = some (.reduce number) := by
  unfold default? at only
  split at only
  · rename_i symbol found entries
    cases only
    refine ⟨symbol, ?_⟩
    rw [action?, Table.get?, entries]
    exact lookup_cons_self
  · cases only

end ParseTable

end GraphScript.Grammar
