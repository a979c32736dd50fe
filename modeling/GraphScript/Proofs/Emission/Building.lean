import GraphScript.Proofs.Graph.Variables
import GraphScript.Proofs.Program.Contents
import GraphScript.Emission.Term

/-!
# Actions that build

An action builds some contents when it draws, and of the terms and statements that are remembered as
built or carried out it adds only those with the numbers of the contents.  None of these may be
known before, while the nodes that the contents borrow must be.  The rules of this module follow the
contents: what is built one after the other has its contents appended.
-/

namespace GraphScript.Emission

open List GraphScript.Graph Program
open Act (Settles Passes)

variable {contents : Contents} {due : Prop}

/-- None of the numbers was built or carried out. -/
def Fresh (numbers : List Nat) (construction : Construction) : Prop :=
  ∀ number ∈ numbers, construction.built[number]? = none ∧ construction.done.contains number = false

/-- Nothing was built or carried out but what has the numbers. -/
def Touches (numbers : List Nat) (before after : Construction) : Prop :=
  ∀ number ∉ numbers, after.built[number]? = before.built[number]? ∧
    after.done.contains number = before.done.contains number

/-- Commands were added, and nothing was built or carried out but what has the numbers. -/
structure Extends (numbers : List Nat) (before after : Construction) : Prop where
  commands : before.commands.toList <+: after.commands.toList
  built : ∀ number ∉ numbers, after.built[number]? = before.built[number]?
  done : ∀ number ∉ numbers, after.done.contains number = before.done.contains number
  isOpen : after.isOpen = before.isOpen

section Extends

variable {numbers more : List Nat} {first second : Construction}

namespace Touches

theorem refl (construction : Construction) : Touches numbers construction construction :=
  fun _ _ => ⟨rfl, rfl⟩

theorem trans (front : Touches numbers first second) (back : Touches numbers second third) :
    Touches numbers first third := by
  intro number outside
  rw [(back number outside).1, (back number outside).2]
  exact front number outside

theorem mono (touches : Touches numbers first second) (subset : numbers ⊆ more := by simp) :
    Touches more first second :=
  fun number outside => touches number fun inside => outside (subset inside)

theorem fresh (touches : Touches numbers first second) (fresh : Fresh more first)
    (disjoint : numbers.Disjoint more) : Fresh more second := by
  intro number member
  have outside : number ∉ numbers := fun inside => disjoint inside member
  rw [(touches number outside).1, (touches number outside).2]
  exact fresh number member

end Touches

theorem Extends.of_grows (grows : Grows first second) : Extends numbers first second where
  commands := grows.commands
  built := fun _ _ => by rw [grows.built]
  done := fun _ _ => by rw [grows.done]
  isOpen := grows.isOpen

theorem Extends.mono (extends' : Extends numbers first second) (subset : numbers ⊆ more) :
    Extends more first second where
  commands := extends'.commands
  built := fun number outside => extends'.built number fun inside => outside (subset inside)
  done := fun number outside => extends'.done number fun inside => outside (subset inside)
  isOpen := extends'.isOpen

theorem Extends.trans (front : Extends numbers first second) (back : Extends numbers second third) :
    Extends numbers first third where
  commands := front.commands.trans back.commands
  built := fun number outside => (back.built number outside).trans (front.built number outside)
  done := fun number outside => (back.done number outside).trans (front.done number outside)
  isOpen := back.isOpen.trans front.isOpen

theorem Fresh.after (fresh : Fresh more first) (extends' : Extends numbers first second)
    (disjoint : numbers.Disjoint more) : Fresh more second := by
  have touches : Touches numbers first second :=
    fun number outside => ⟨extends'.built number outside, extends'.done number outside⟩
  exact touches.fresh fresh disjoint

theorem Fresh.sub (fresh : Fresh more first) (subset : numbers ⊆ more := by simp) :
    Fresh numbers first :=
  fun number member => fresh number (subset member)

end Extends

/-- An action leads from one stage to another and builds some contents. -/
def Builds {α : Type} (tools : Tools) (stage : Stage) (stock : Stock) (contents : Contents)
    (action : Building α) (due : Prop) (next : Stage) (fact : α → Prop)
    (gives : α → Stock) : Prop :=
  contents.Orderly → (∀ node ∈ contents.borrowed, node.id ∈ stage.lent) →
    ∀ construction, Standing tools stage stock construction → Fresh contents.numbers construction →
      Settles action construction tools.Willing due fun value after =>
        Extends contents.numbers construction after ∧ fact value ∧
          Standing tools next (gives value ++ stock) after

abbrev BuildsHere {α : Type} (tools : Tools) (stage : Stage) (stock : Stock) (contents : Contents)
    (action : Building α) (due : Prop) : Prop :=
  Builds tools stage stock contents action due stage noFact noGift

abbrev BuildsPath (tools : Tools) (stage : Stage) (stock : Stock) (contents : Contents)
    (action : Building NodePath) (due : Prop) : Prop :=
  Builds tools stage stock contents action due stage noFact (pathIn stage.place)

namespace Builds

variable {β : Type} {middle next : Stage} {front back : Contents} {dueNext : Prop}
    {action : Building α}
  {then' : α → Building β} {fact : α → Prop} {gives : α → Stock} {factNext : β → Prop}
  {givesNext : β → Stock}

theorem draw (draws : Draws tools stage stock action due next fact gives) :
    Builds tools stage stock contents action due next fact gives := by
  intro _ _ construction standing _
  exact (draws construction standing).imp fun _ _ left =>
    ⟨.of_grows left.1, left.2.1, left.2.2⟩

section

variable (builds : Builds tools stage stock contents action due next fact gives)

include builds

theorem congr (same : due ↔ dueNext) : Builds tools stage stock contents action dueNext
    next fact gives :=
  fun orderly lent construction standing fresh =>
    (builds orderly lent construction standing fresh).congr same

theorem imp (implied : ∀ value, fact value → factLess value)
    (subset : ∀ value, givesLess value ⊆ gives value) :
    Builds tools stage stock contents action due next factLess givesLess := by
  intro orderly lent construction standing fresh
  refine (builds orderly lent construction standing fresh).imp fun value _ left => ?_
  exact ⟨left.1, implied value left.2.1, left.2.2.less (subset value) (List.Subset.refl _)⟩

/-- The first part of some contents is built. -/
theorem settles (orderly : (contents ++ back).Orderly)
    (lent : ∀ node ∈ (contents ++ back).borrowed, node.id ∈ stage.lent)
    (standing : Standing tools stage stock construction)
    (fresh : Fresh (contents ++ back).numbers construction) :
    Settles action construction tools.Willing due fun value after =>
      Extends contents.numbers construction after ∧ fact value ∧
        Standing tools next (gives value ++ stock) after :=
  builds orderly.left (fun node member => lent node (mem_append_left _ member)) construction
    standing fresh.sub

/-- What is borrowed is there, so it need not be mentioned. -/
theorem enclosed (lent : ∀ node ∈ contents.borrowed, node.id ∈ stage.lent) :
    Builds tools stage stock contents.enclosed action due next fact gives :=
  fun orderly _ => builds ⟨orderly.nodup, orderly.sound⟩ lent

theorem discard : Builds tools stage stock contents (discard action) due next noFact noGift := by
  intro orderly lent construction standing fresh
  refine .discard ((builds orderly lent construction standing fresh).imp fun _ _ left => ?_)
  exact ⟨left.1, trivial, left.2.2.sub (subset_append_right _ _)⟩

/-- Nodes that can be borrowed need not be mentioned. -/
theorem lendLess (subset : numbers ⊆ next.lent) :
    Builds tools stage stock contents action due { next with lent := numbers } fact gives := by
  intro orderly lent construction standing fresh
  refine (builds orderly lent construction standing fresh).imp fun _ _ left => ?_
  obtain ⟨extends', holds, standingAfter⟩ := left
  obtain ⟨_, _, frameAt, frames, same⟩ := forall₂_cons_left_iff.mp standingAfter.frames
  refine ⟨extends', holds, { standingAfter with frames := ?_ }⟩
  rw [same]
  refine .cons ⟨frameAt.plain, frameAt.names, frameAt.cells, fun number member => ?_⟩ frames
  exact frameAt.lent number (subset member)

end

/-- Where there is nothing to build, nothing is asked for. -/
theorem idle (holds : fact value := by trivial) (nothing : gives value = [] := by rfl) :
    Builds tools stage stock contents (pure value) (Passes (.ok outcome)) stage fact gives :=
  .draw (.congr (.pure (by simp [nothing]) holds) (by simp))

/-- The same parts may be listed in another order. -/
theorem alike (builds : Builds tools stage stock front action due next fact gives)
    (alike : back.Alike front) : Builds tools stage stock back action due next fact gives := by
  intro orderly lent construction standing fresh
  have same := alike.numbers.subset
  refine (builds (alike.orderly orderly) ?_ construction standing ?_).imp fun _ _ left => ?_
  · exact fun node member => lent node ((alike.borrowed node).mpr member)
  · exact fresh.sub alike.numbers.symm.subset
  · exact ⟨left.1.mono alike.numbers.symm.subset, left.2⟩

/-- One thing after the other, where the nodes that can be borrowed stay the same or become more. -/
theorem seq (first : Builds tools stage stock front action due middle fact gives)
    (lends : ∀ node ∈ back.borrowed, node.id ∈ stage.lent → node.id ∈ middle.lent)
    (second : ∀ value, fact value →
      Builds tools middle (gives value ++ stock) back (then' value) dueNext
        next factNext givesNext) :
    Builds tools stage stock (front ++ back) (action >>= then') (due ∧ dueNext) next factNext
      givesNext := by
  intro orderly lent _ standing fresh
  have inBack : back.numbers ⊆ (front ++ back).numbers := by simp
  have lentBack : ∀ node ∈ back.borrowed, node.id ∈ middle.lent :=
    fun node member => lends node member (lent node (mem_append_right _ member))
  refine (first.settles orderly lent standing fresh).bind fun value after _ left => ?_
  obtain ⟨extends', holds, standingAfter⟩ := left
  have freshBack : Fresh back.numbers after := (fresh.sub inBack).after extends' orderly.disjoint
  refine (second value holds orderly.right lentBack after standingAfter freshBack).imp
    fun _ _ finish => ?_
  obtain ⟨extendsNext, holdsNext, standingNext⟩ := finish
  exact ⟨(extends'.mono (by simp)).trans (extendsNext.mono inBack), holdsNext,
    standingNext.less (List.Subset.refl _) (subset_append_right _ _)⟩

/-- One thing after the other in the same stage. -/
theorem bind (first : Builds tools stage stock front action due stage fact gives)
    (second : ∀ value, fact value →
      Builds tools stage (gives value ++ stock) back (then' value) dueNext
        next factNext givesNext) :
    Builds tools stage stock (front ++ back) (action >>= then') (due ∧ dueNext) next factNext
      givesNext :=
  first.seq (fun _ _ inside => inside) second

theorem none_append (contents : Contents) : Contents.none ++ contents = contents := by
  ext1 <;> simp

theorem after (first : Draws tools stage stock action due middle fact gives)
    (lends : ∀ node ∈ contents.borrowed, node.id ∈ stage.lent → node.id ∈ middle.lent)
    (second : ∀ value, fact value →
      Builds tools middle (gives value ++ stock) contents (then' value) dueNext next factNext
        givesNext) :
    Builds tools stage stock contents (action >>= then')
      (due ∧ dueNext) next factNext givesNext := by
  have drawn : Builds tools stage stock .none action due middle fact gives := draw first
  have both := drawn.seq lends second
  rwa [none_append] at both

/-- Something is drawn first, which owes nothing. -/
theorem drawn (first : Draws tools stage stock action True stage fact gives)
    (second : ∀ value, fact value →
      Builds tools stage (gives value ++ stock) contents (then' value) due
        next factNext givesNext) :
    Builds tools stage stock contents (action >>= then') due next factNext givesNext :=
  (after first (fun _ _ inside => inside) second).congr (iff_of_eq (true_and _))

/-- Something is drawn at last. -/
theorem before (first : Builds tools stage stock contents action due middle fact gives)
    (second : ∀ value, fact value →
      Draws tools middle (gives value ++ stock) (then' value) dueNext next factNext givesNext) :
    Builds tools stage stock contents (action >>= then')
      (due ∧ dueNext) next factNext givesNext := by
  have drawn : ∀ value, fact value →
      Builds tools middle (gives value ++ stock) .none (then' value) dueNext
        next factNext givesNext :=
    fun value holds => draw (second value holds)
  have both := first.seq (by simp) drawn
  rwa [Contents.append_none] at both

/-- Something is drawn at last, which owes nothing. -/
theorem drawing (first : Builds tools stage stock contents action due middle fact gives)
    (second : ∀ value, fact value →
      Draws tools middle (gives value ++ stock) (then' value) True next factNext givesNext) :
    Builds tools stage stock contents (action >>= then') due next factNext givesNext :=
  (before first second).congr (iff_of_eq (and_true _))

/-- A step that only looks. -/
theorem look {outcome : Except Fault α} {dueOf : α → Prop}
    (second : ∀ value, outcome = .ok value →
      Builds tools stage stock contents (then' value) (dueOf value) next factNext givesNext) :
    Builds tools stage stock contents (liftM outcome >>= then')
      (∃ value, outcome = .ok value ∧ dueOf value) next factNext givesNext :=
  fun orderly lent construction standing fresh =>
    .look fun value found => second value found orderly lent construction standing fresh

theorem ite [Decidable condition]
    (first : condition → Builds tools stage stock contents whenTrue due next fact gives)
    (second : ¬condition → Builds tools stage stock contents whenFalse dueNext next fact gives) :
    Builds tools stage stock contents (if condition then whenTrue else whenFalse)
      (if condition then due else dueNext) next fact gives := by
  split
  · exact first ‹_›
  · exact second ‹_›

theorem part (builds : Builds tools stage stock front action due next fact gives)
    (back : Contents) : Builds tools stage stock (front ++ back) action due next fact gives := by
  intro orderly lent _ standing fresh
  refine (builds.settles orderly lent standing fresh).imp fun _ _ left => ?_
  exact ⟨left.1.mono (by simp), left.2⟩

theorem ofPlain
    (builds : stage.place.isPort = false →
      Builds tools stage stock contents action due next fact gives) :
    Builds tools stage stock contents action due next fact gives :=
  fun orderly lent construction standing fresh =>
    builds standing.plain orderly lent construction standing fresh

/-- The parts are sound. -/
theorem ofSound
    (builds : contents.Sound → Builds tools stage stock contents action due next fact gives) :
    Builds tools stage stock contents action due next fact gives :=
  fun orderly => builds orderly.sound orderly

/-- Nothing comes after an action that always stops. -/
theorem never (first : Builds tools stage stock contents action False middle fact gives) :
    Builds tools stage stock contents (action >>= then') False next factNext givesNext :=
  fun orderly lent construction standing fresh =>
    (first orderly lent construction standing fresh).never

/-- What comes after a first part depends on the result of a check, and what is known afterwards on
the outcome of the whole check. -/
theorem judged (nextOf : Except Fault δ → Stage) (factOf : Except Fault δ → β → Prop)
    (first : Builds tools stage stock front action (Passes check) middle fact gives)
    (lends : ∀ result, check = .ok result →
      ∀ node ∈ back.borrowed, node.id ∈ stage.lent → node.id ∈ middle.lent)
    (second : ∀ value result, fact value → check = .ok result →
      Builds tools middle (gives value ++ stock) back (then' value) (Passes (more result))
        (nextOf (more result)) (factOf (more result)) givesNext) :
    Builds tools stage stock (front ++ back) (action >>= then') (Passes (check >>= more))
      (nextOf (check >>= more)) (factOf (check >>= more)) givesNext := by
  cases check with
  | error fault =>
    exact .congr (.never ((first.part back).congr (Act.passes_error fault)))
      (Act.passes_error fault).symm
  | ok result =>
    have both : Builds tools stage stock (front ++ back) (action >>= then')
        (Passes (.ok result) ∧ Passes (more result)) (nextOf (more result)) (factOf (more result))
        givesNext :=
      first.seq (lends result rfl) fun value holds => second value result holds rfl
    exact both.congr (by simp)

theorem forget
    (builds : Builds tools stage stock contents action due (next.lending numbers) fact gives) :
    Builds tools stage stock contents action due next fact gives :=
  builds.lendLess (subset_append_right _ _)

/-- The stage afterwards matters only where the action does not stop. -/
theorem renext (builds : Builds tools stage stock contents action due middle fact gives)
    (same : due → middle = next) : Builds tools stage stock contents action due next fact gives :=
  fun orderly lent construction standing fresh =>
    (builds orderly lent construction standing fresh).weaken Iff.rfl fun isDue _ _ left =>
      same isDue ▸ left

end Builds

/-! ## Building once -/

variable {item : Item} {number : Nat} {next : Stage}

theorem mem_numbers_one (numbered : item.number? = some number) :
    number ∈ (contents ++ .one item).numbers := by
  simp [numbered]

theorem not_mem_numbers (orderly : (contents ++ .one item).Orderly)
    (numbered : item.number? = some number) : number ∉ contents.numbers := by
  intro inside
  exact orderly.disjoint inside (by simp [numbered])

theorem settles_known (construction : Construction) :
    Settles (known? number) construction willing True fun found after =>
      construction.built[number]? = found ∧ construction = after :=
  .get (.pure ⟨rfl, rfl⟩)

/-- A term that is built for the first time can be borrowed from then on. -/
theorem Builds.once {build : Building NodePath}
    (builds : Builds tools stage stock contents build due stage fact gives)
    (given : ∀ path, (stage.place, path) ∈ gives path := by exact fun _ => mem_cons_self ..)
    (numbered : item.number? = some number := by rfl) :
    Builds tools stage stock (contents ++ .one item) (once number build) due
      (stage.lending [number]) fact gives := by
  intro orderly lent construction standing fresh
  have inContents : contents.numbers ⊆ (contents ++ .one item).numbers := by simp
  have isNew := (fresh number (mem_numbers_one numbered)).1
  refine .andThen (settles_known construction) fun _ _ _ same => ?_
  obtain ⟨rfl, rfl⟩ := same
  rw [isNew]
  have built := builds.settles orderly lent standing fresh
  refine .congr (.bind built fun path after _ left => ?_) (iff_of_eq (and_true _))
  obtain ⟨extends', holds, standingAfter⟩ := left
  refine .andThen (.modifies _) fun _ _ _ same => ?_
  subst same
  have stillNew : after.built[number]? = none := by
    rw [extends'.built number (not_mem_numbers orderly numbered), isNew]
  refine .pure ⟨⟨extends'.commands, ?_, ?_, extends'.isOpen⟩, holds, ?_⟩
  · intro other outside
    have different : number ≠ other := fun same => outside (same ▸ mem_numbers_one numbered)
    rw [Std.HashMap.getElem?_insert]
    simp only [beq_iff_eq, different, if_false]
    exact extends'.built other fun inside => outside (inContents inside)
  · exact fun other outside => extends'.done other fun inside => outside (inContents inside)
  · exact standingAfter.remember stillNew
      (standingAfter.stock _ (mem_append_left _ (given path)))

/-- A statement is carried out once. -/
theorem Builds.onceOnly (numbered : item.number? = some number)
    (builds : Builds tools stage stock contents action due next noFact noGift) :
    Builds tools stage stock (contents ++ .one item)
      (onceOnly number action) due next noFact noGift := by
  intro orderly lent _ standing fresh
  have inContents : contents.numbers ⊆ (contents ++ .one item).numbers := by simp
  have isNew := (fresh number (mem_numbers_one numbered)).2
  refine .get ?_
  rw [isNew, if_neg Bool.false_ne_true]
  have built := builds.settles orderly lent standing fresh
  refine .congr (.bind built fun _ _ _ left => ?_) (iff_of_eq (and_true _))
  obtain ⟨extends', -, standingAfter⟩ := left
  refine .modify ⟨⟨extends'.commands, ?_, ?_, extends'.isOpen⟩, trivial, { standingAfter with }⟩
  · exact fun other outside => extends'.built other fun inside => outside (inContents inside)
  · intro other outside
    have different : number ≠ other := fun same => outside (same ▸ mem_numbers_one numbered)
    rw [Std.HashMap.contains_insert]
    simp only [beq_eq_false_iff_ne.mpr different, Bool.false_or]
    exact extends'.done other fun inside => outside (inContents inside)

/-- A node that can be borrowed is not built again. -/
theorem draws_emit_lent (lent : term.id ∈ stage.lent) :
    DrawsPath tools stage stock (emit term) True := by
  obtain ⟨number, _⟩ := term
  intro construction standing
  obtain ⟨_, _, frameAt, -, -⟩ := forall₂_cons_left_iff.mp standing.frames
  obtain ⟨path, found, located⟩ := frameAt.lent _ lent
  refine .andThen (settles_known construction) fun _ _ _ same => ?_
  obtain ⟨rfl, rfl⟩ := same
  rw [show construction.built[number]? = some path from found]
  refine .pure ⟨.refl _, trivial, { standing with stock := ?_ }⟩
  exact forall_mem_cons.mpr ⟨located, standing.stock⟩

end GraphScript.Emission
