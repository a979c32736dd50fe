import GraphScript.Proofs.Actions
import GraphScript.Proofs.Program.Renaming
import Mathlib.Data.List.Pairwise
import Mathlib.Data.Set.Function

/-!
# Copies are renamed terms

Copying a term takes new numbers one by one and remembers the copies of nodes, because a node can be
reached along two ways.  This module shows that the copy is the term renamed by an injective change
of numbers, so a port of a copied variable points at the copied node and at no second copy of it.

While a term is copied, some of its numbers have new numbers already.  The nodes that can be reached
along two ways form a *shelf*: each of them is either remembered with its copy or untouched.  A body
puts the nodes that it assigns on the shelf, in which way it does not matter whether a loop copies
its condition before the statements that own what the condition borrows.
-/

namespace GraphScript.Program

open List (append_assoc append_nil flatMap_cons mem_append mem_append_left)
open Act (Ensures ensures_bind yields_bind yields_pure yields_get yields_set yields_modify)

/-! ## The state of a copier -/

/-- How far the copying has come: the numbers in `done` have new numbers. -/
structure Progress where
  copier : Copier
  change : Nat → Nat
  done : Set Nat

/-- The new numbers were all taken since `start`, and only numbers that have one can be
remembered. -/
structure Tally (start : Nat) (state : Progress) : Prop where
  le : start ≤ state.copier.nextId
  range : ∀ number ∈ state.done, start ≤ state.change number ∧
    state.change number < state.copier.nextId
  injective : Set.InjOn state.change state.done
  remembered : ∀ id copy, state.copier.copies.lookup id = some copy → id ∈ state.done

structure Remembered (state : Progress) (node : Term) : Prop where
  copy : state.copier.copies.lookup node.id = some (node.renamed state.change)
  reach : ∀ number ∈ node.contents.reach, number ∈ state.done

/-- A node of which nothing has a new number. -/
def Untouched (done : Set Nat) (node : Term) : Prop :=
  ∀ number ∈ node.contents.numbers, number ∉ done

/-- Nodes that can be reached along two ways: they have no number in common, and borrow from each
other. -/
structure Shelf (shared : Set Term) : Prop where
  makesNode : ∀ node ∈ shared, node.form.makesNode
  orderly : ∀ node ∈ shared, node.contents.Orderly
  apart : ∀ node ∈ shared, ∀ other ∈ shared, node ≠ other →
    node.contents.numbers.Disjoint other.contents.numbers
  closed : ∀ node ∈ shared, ∀ other ∈ node.contents.borrowed, other ∈ shared

/-- Everything that has to hold before some parts are copied. -/
structure Ready (start : Nat) (before : Progress) (shared : Set Term)
    (contents : Contents) : Prop where
  tally : Tally start before
  shelf : Shelf shared
  state : ∀ node ∈ shared, Remembered before node ∨ Untouched before.done node
  orderly : contents.Orderly
  fresh : ∀ number ∈ contents.numbers, number ∉ before.done
  borrowed : ∀ node ∈ contents.borrowed, node ∈ shared
  apart : ∀ node ∈ shared, node.contents.numbers.Disjoint contents.numbers

/-- Copying went on, and nothing that was done is done again. -/
structure Onward (before after : Progress) : Prop where
  kept : ∀ id copy, before.copier.copies.lookup id = some copy →
    after.copier.copies.lookup id = some copy
  subset : before.done ⊆ after.done
  agree : ∀ number ∈ before.done, after.change number = before.change number

/-- What holds after some parts were copied. -/
structure Copied (start : Nat) (before : Progress) (shared : Set Term) (contents : Contents)
    (after : Progress) : Prop extends Onward before after where
  tally : Tally start after
  reach : ∀ number ∈ contents.reach, number ∈ after.done
  bound : ∀ number ∈ after.done,
    number ∈ before.done ∨ number ∈ contents.numbers ∨ ∃ node ∈ shared,
      number ∈ node.contents.numbers
  state : ∀ node ∈ shared, Remembered after node ∨ Untouched after.done node
  borrowed : ∀ node ∈ contents.borrowed, Remembered after node

/-- The action copies some parts: it gives their image under an injective change of numbers. -/
structure Copies {α : Type} (contents : Contents) (action : Copying α)
    (image : (Nat → Nat) → α) : Prop where
  depends : Depends contents image
  ensures : ∀ start state shared, Ready start state shared contents →
    Ensures action state.copier fun value after => ∃ change done,
      Copied start state shared contents ⟨after, change, done⟩ ∧ value = image change

theorem Onward.refl : Onward before before := ⟨fun _ _ found => found, subset_rfl, fun _ _ => rfl⟩

theorem Onward.trans (one : Onward before middle) (two : Onward middle after) :
    Onward before after where
  kept := fun id copy found => two.kept id copy (one.kept id copy found)
  subset := one.subset.trans two.subset
  agree := by
    intro number isDone
    rw [two.agree number (one.subset isDone), one.agree number isDone]

theorem Onward.remembered (onward : Onward before after) (remembered : Remembered before node) :
    Remembered after node where
  copy := by
    rw [onward.kept _ _ remembered.copy]
    congr 1
    apply node.depends
    intro number reached
    exact (onward.agree number (remembered.reach number reached)).symm
  reach := fun number reached => onward.subset (remembered.reach number reached)

theorem Ready.left (ready : Ready start before shared (first ++ second)) :
    Ready start before shared first where
  tally := ready.tally
  shelf := ready.shelf
  state := ready.state
  orderly := ready.orderly.left
  fresh := fun number member => ready.fresh number (by simp [member])
  borrowed := fun node member => ready.borrowed node (by simp [member])
  apart := fun node onShelf _ own theirs => ready.apart node onShelf own (by simp [theirs])

/-- What is still to be copied is untouched by what was copied. -/
theorem Ready.right (ready : Ready start before shared (first ++ second))
    (copied : Copied start before shared first after) : Ready start after shared second where
  tally := copied.tally
  shelf := ready.shelf
  state := copied.state
  orderly := ready.orderly.right
  fresh := by
    intro number member isDone
    have inBoth : number ∈ (first ++ second).numbers := by simp [member]
    rcases copied.bound number isDone with before | own | ⟨node, onShelf, theirs⟩
    · exact ready.fresh number inBoth before
    · exact ready.orderly.disjoint own member
    · exact ready.apart node onShelf theirs inBoth
  borrowed := fun node member => ready.borrowed node (by simp [member])
  apart := fun node onShelf _ own theirs => ready.apart node onShelf own (by simp [theirs])

/-- Nothing is left to copy where everything has a new number. -/
theorem Ready.idle (ready : Ready start before shared contents)
    (reach : ∀ number ∈ contents.reach, number ∈ before.done)
    (borrowed : ∀ node ∈ contents.borrowed, Remembered before node) :
    Copied start before shared contents before :=
  { toOnward := .refl, tally := ready.tally, state := ready.state, reach, borrowed
    bound := fun _ member => .inl member }

theorem Copied.append (copiedFirst : Copied start before shared first middle)
    (copiedSecond : Copied start middle shared second after) :
    Copied start before shared (first ++ second) after where
  toOnward := copiedFirst.toOnward.trans copiedSecond.toOnward
  tally := copiedSecond.tally
  reach := by
    intro number reached
    rcases (Contents.mem_reach_append _ _ _).mp reached with own | later
    · exact copiedSecond.subset (copiedFirst.reach number own)
    · exact copiedSecond.reach number later
  bound := by
    intro number isDone
    rw [Contents.numbers_append, mem_append]
    rcases copiedSecond.bound number isDone with before | own | shelved
    · rcases copiedFirst.bound number before with earlier | own | shelved
      · exact .inl earlier
      · exact .inr (.inl (.inl own))
      · exact .inr (.inr shelved)
    · exact .inr (.inl (.inr own))
    · exact .inr (.inr shelved)
  state := copiedSecond.state
  borrowed := List.forall_mem_append.mpr
    ⟨fun node own => copiedSecond.toOnward.remembered (copiedFirst.borrowed node own),
      copiedSecond.borrowed⟩

namespace Copies

theorem pure : Copies .none (pure value : Copying α) fun _ => value := by
  refine ⟨fun _ _ _ => rfl, fun _ state _ ready _ _ run => ?_⟩
  obtain ⟨rfl, rfl⟩ := run.pure
  exact ⟨state.change, state.done, ready.idle (by simp) (by simp), rfl⟩

theorem map {build : α → β} (copies : Copies contents action image) :
    Copies contents (action >>= fun value => Pure.pure (build value)) fun change =>
      build (image change) where
  depends := fun first second agree => congrArg build (copies.depends first second agree)
  ensures := by
    intro start state shared ready
    refine ensures_bind (copies.ensures start state shared ready) fun _ _ holds => ?_
    obtain ⟨change, done, copied, rfl⟩ := holds
    intro _ _ run
    obtain ⟨rfl, rfl⟩ := run.pure
    exact ⟨change, done, copied, rfl⟩

/-- Parts are copied one after the other. -/
theorem bind {next : α → Copying β} {imageNext : α → (Nat → Nat) → β}
    (copiesFirst : Copies first action image)
    (copiesSecond : ∀ value, Copies second (next value) (imageNext value)) :
    Copies (first ++ second) (action >>= next) fun change => imageNext (image change) change where
  depends := by
    intro one two agree
    dsimp only
    rw [copiesFirst.depends one two fun number own => agree number (by simp [own])]
    exact (copiesSecond _).depends one two fun number own => agree number (by simp [own])
  ensures := by
    intro start state shared ready
    refine ensures_bind (copiesFirst.ensures start state shared ready.left) fun _ _ holds => ?_
    obtain ⟨_, _, copiedFirst, rfl⟩ := holds
    intro result after run
    obtain ⟨change, done, copiedSecond, rfl⟩ :=
      (copiesSecond _).ensures start _ shared (ready.right copiedFirst) result after run
    refine ⟨change, done, copiedFirst.append copiedSecond, ?_⟩
    congr 1
    apply copiesFirst.depends
    intro number reached
    exact (copiedSecond.agree number (copiedFirst.reach number reached)).symm

/-- Taking a new number copies a part that has nothing but its number. -/
theorem fresh {id : Nat} (number_eq : item.number? = some id) :
    Copies (.one item) Copying.freshId fun change => change id := by
  refine ⟨fun _ _ agree => agree id (by simp [number_eq]),
    fun start state shared ready value after run => ?_⟩
  obtain ⟨_, _, ⟨rfl, rfl⟩, _, _, rfl, rfl, rfl⟩ := run
  have isNew : id ∉ state.done := ready.fresh id (by simp [number_eq])
  have same : ∀ number ∈ state.done,
      Function.update state.change id state.copier.nextId number = state.change number := by
    intro number isDone
    refine Function.update_of_ne ?_ _ _
    rintro rfl
    exact isNew isDone
  have onward : Onward state ⟨⟨state.copier.nextId + 1, state.copier.copies⟩,
      Function.update state.change id state.copier.nextId, insert id state.done⟩ :=
    ⟨fun _ _ found => found, Set.subset_insert id state.done, same⟩
  refine ⟨Function.update state.change id state.copier.nextId, insert id state.done,
    { toOnward := onward
      tally := ⟨Nat.le_succ_of_le ready.tally.le, ?_, ?_, ?_⟩
      reach := by simp [number_eq]
      bound := ?_
      state := ?_
      borrowed := by simp }, by simp⟩
  · rintro number (rfl | isDone)
    · simp only [Function.update_self]
      exact ⟨ready.tally.le, Nat.lt_succ_self _⟩
    · simp only [same number isDone]
      have inRange := ready.tally.range number isDone
      exact ⟨inRange.1, Nat.lt_succ_of_lt inRange.2⟩
  · rintro first (rfl | firstDone) second (rfl | secondDone) equal <;> simp only at equal
    · rfl
    · rw [Function.update_self, same second secondDone] at equal
      exact absurd equal (Nat.ne_of_gt (ready.tally.range second secondDone).2)
    · rw [Function.update_self, same first firstDone] at equal
      exact absurd equal (Nat.ne_of_lt (ready.tally.range first firstDone).2)
    · rw [same first firstDone, same second secondDone] at equal
      exact ready.tally.injective firstDone secondDone equal
  · exact fun other copy found => .inr (ready.tally.remembered other copy found)
  · rintro number (rfl | isDone)
    · exact .inr (.inl (by simp [number_eq]))
    · exact .inl isDone
  · intro node onShelf
    rcases ready.state node onShelf with remembered | untouched
    · exact .inl (onward.remembered remembered)
    · refine .inr ?_
      rintro number own (rfl | isDone)
      · exact ready.apart node onShelf own (by simp [number_eq])
      · exact untouched number own isDone

/-- Parts that cannot be copied stop the copying. -/
theorem never {image : (Nat → Nat) → α} (depends : Depends contents image) :
    Copies contents (throw fault) image :=
  ⟨depends, fun _ _ _ _ _ _ run => run.throw⟩

end Copies

/-! ## Nodes -/

/-- A term is copied as a part of its owner, and remembered afterwards if it makes a node. -/
def CopiesTerm (term : Term) : Prop :=
  ∀ start state shared, Ready start state shared term.contents →
    Ensures term.copy state.copier fun value after => ∃ change done,
      Copied start state shared term.contents ⟨after, change, done⟩ ∧
        value = term.renamed change ∧ (term.form.makesNode → Remembered ⟨after, change, done⟩ term)

theorem CopiesTerm.copies (copies : CopiesTerm node) :
    Copies node.contents node.copy fun change => node.renamed change := by
  refine ⟨node.depends, fun start state shared ready value after run => ?_⟩
  obtain ⟨change, done, copied, same, -⟩ := copies start state shared ready value after run
  exact ⟨change, done, copied, same⟩

/-- After a node was copied it is put among the remembered ones. -/
theorem Copied.remember {id : Nat}
    (copied : Copied start before shared (Term.mk id form).contents after)
    (ready : Ready start before shared (Term.mk id form).contents) :
    let copy := (Term.mk id form).renamed after.change
    let last : Progress := ⟨⟨after.copier.nextId, (id, copy) :: after.copier.copies⟩,
      after.change, after.done⟩
    Copied start before shared (Term.mk id form).contents last ∧ Remembered last (.mk id form) := by
  intro copy last
  have own : id ∈ (Term.mk id form).contents.numbers := (Term.mk id form).id_mem_numbers
  have kept : ∀ node ∈ shared, Remembered after node → Remembered last node := by
    intro node onShelf remembered
    have apart : node.id ≠ id := fun equal =>
      ready.apart node onShelf node.id_mem_numbers (equal ▸ own)
    refine ⟨?_, remembered.reach⟩
    rw [List.lookup_cons, beq_eq_false_iff_ne.mpr apart]
    exact remembered.copy
  have isDone : id ∈ after.done := by
    apply copied.reach
    simp [Term.contents, Item.number?]
  refine ⟨{ copied with tally := ?_, kept := ?_, state := ?_, borrowed := ?_ }, ?_, copied.reach⟩
  · intro other held found
    have different : other ≠ id := by
      rintro rfl
      exact ready.fresh other own (ready.tally.remembered other held found)
    rw [List.lookup_cons, beq_eq_false_iff_ne.mpr different]
    exact copied.kept other held found
  · refine ⟨copied.tally.le, copied.tally.range, copied.tally.injective, ?_⟩
    intro other held found
    rw [List.lookup_cons] at found
    split at found
    case h_1 same => exact eq_of_beq same ▸ isDone
    case h_2 => exact copied.tally.remembered other held found
  · intro node onShelf
    exact (copied.state node onShelf).imp_left (kept node onShelf)
  · intro node member
    exact kept node (ready.borrowed node member) (copied.borrowed node member)
  · simp [last, copy, Term.id]

/-- A term is copied when its form is: a new number is taken for it, and where it makes a node it is
remembered. -/
theorem CopiesTerm.mk {id : Nat} {form : Form}
    (copies : (Item.term (.mk id form)).Sound →
      Copies form.contents form.copy fun change => form.renamed change) :
      CopiesTerm (.mk id form) := by
  intro start state shared ready value after run
  have sound : (Item.term (.mk id form)).Sound := ready.orderly.sound _ (by simp [Term.contents])
  have numbered : Copies (Term.mk id form).contents
      (form.copy >>= fun copied => Copying.freshId >>= fun fresh =>
        Pure.pure (Term.mk fresh copied)) fun change => (Term.mk id form).renamed change :=
    (copies sound).bind fun _ => (Copies.fresh rfl).map
  have settled := numbered.ensures start state shared ready
  cases makesNode : form.makesNode with
  | false =>
    rw [Term.copy, makesNode] at run
    obtain ⟨change, done, copied, rfl⟩ := settled value after run
    exact ⟨change, done, copied, rfl, by simp [Term.form, makesNode]⟩
  | true =>
    have isNew : state.copier.copies.lookup id = none := by
      cases found : state.copier.copies.lookup id with
      | none => rfl
      | some copy =>
        exact absurd (ready.tally.remembered id copy found)
          (ready.fresh id (Term.mk id form).id_mem_numbers)
    rw [Term.copy, makesNode, if_pos rfl] at run
    obtain ⟨_, _, looks, run⟩ := run.bind
    obtain ⟨_, _, ⟨rfl, rfl⟩, rfl, rfl⟩ := looks
    simp only [isNew] at run
    obtain ⟨copied, _, runForm, run⟩ := run.bind
    obtain ⟨_, middle, takes, run⟩ := run.bind
    obtain ⟨_, remembers, rfl⟩ := run.mapped
    obtain rfl := yields_modify.mp remembers
    obtain ⟨change, done, copied, same⟩ := settled _ middle (yields_bind.mpr ⟨_, _, runForm,
      yields_bind.mpr ⟨_, _, takes, yields_pure.mpr ⟨rfl, rfl⟩⟩⟩)
    obtain ⟨copiedAfter, remembered⟩ := copied.remember ready
    rw [same]
    exact ⟨change, done, copiedAfter, rfl, fun _ => remembered⟩

theorem Shelf.below (shelf : Shelf shared) (size : Nat) :
    Shelf {node | node ∈ shared ∧ sizeOf node < size} where
  makesNode := fun node member => shelf.makesNode node member.1
  orderly := fun node member => shelf.orderly node member.1
  apart := fun node member other otherMember => shelf.apart node member.1 other otherMember.1
  closed := fun node member other borrowed =>
    ⟨shelf.closed node member.1 other borrowed, (Term.smaller node other borrowed).trans member.2⟩

/-- Copying a node leaves every node of the shelf either remembered or untouched. -/
theorem Shelf.state (shelf : Shelf shared) (onShelf : node ∈ shared)
    (state : ∀ other ∈ shared, Remembered before other ∨ Untouched before.done other)
    (copied : Copied start before {other | other ∈ shared ∧ sizeOf other < sizeOf node}
      node.contents after) (remembered : Remembered after node) :
    ∀ other ∈ shared, Remembered after other ∨ Untouched after.done other := by
  intro other member
  by_cases isNode : other = node
  · exact .inl (isNode ▸ remembered)
  by_cases isBelow : sizeOf other < sizeOf node
  · exact copied.state other ⟨member, isBelow⟩
  rcases state other member with before | untouched
  · exact .inl (copied.toOnward.remembered before)
  · refine .inr ?_
    intro number own isDone
    rcases copied.bound number isDone with earlier | ofNode | ⟨third, inside, theirs⟩
    · exact untouched number own earlier
    · exact shelf.apart other member node onShelf isNode own ofNode
    · refine shelf.apart other member third inside.1 ?_ own theirs
      rintro rfl
      exact isBelow inside.2

/-- A node on the shelf is copied once; reached again it is its own copy. -/
theorem CopiesTerm.loan (copies : CopiesTerm node) :
    Copies (.loan node node.contents.reach) node.copy fun change => node.renamed change := by
  refine ⟨node.depends, fun start state shared ready value after run => ?_⟩
  have onShelf : node ∈ shared := ready.borrowed node (by simp)
  have makesNode := ready.shelf.makesNode node onShelf
  rcases ready.state node onShelf with remembered | untouched
  · obtain ⟨id, form⟩ := node
    rw [Term.form] at makesNode
    rw [Term.copy, makesNode, if_pos rfl] at run
    obtain ⟨known, _, looks, run⟩ := run.bind
    obtain ⟨_, _, ⟨rfl, rfl⟩, rfl, rfl⟩ := looks
    have found := remembered.copy
    rw [Term.id] at found
    simp only [found] at run
    obtain ⟨rfl, rfl⟩ := run.pure
    exact ⟨state.change, state.done, ready.idle remembered.reach (by simpa using remembered), rfl⟩
  · -- Copying the node can only reach nodes of the shelf that are smaller than it.
    have smaller : ∀ other ∈ node.contents.borrowed, sizeOf other < sizeOf node :=
      fun other member => Term.smaller node other member
    let below : Set Term := {other | other ∈ shared ∧ sizeOf other < sizeOf node}
    have readyNode : Ready start state below node.contents :=
      { tally := ready.tally
        shelf := ready.shelf.below (sizeOf node)
        state := fun other member => ready.state other member.1
        orderly := ready.shelf.orderly node onShelf
        fresh := untouched
        borrowed := fun other member =>
          ⟨ready.shelf.closed node onShelf other member, smaller other member⟩
        apart := fun other member =>
          ready.shelf.apart other member.1 node onShelf
            (by rintro rfl; exact lt_irrefl _ member.2) }
    obtain ⟨change, done, copied, rfl, remembered⟩ :=
      copies start state below readyNode value after run
    have isRemembered := remembered makesNode
    refine ⟨change, done, ?_, rfl⟩
    exact
      { toOnward := copied.toOnward
        tally := copied.tally
        reach := copied.reach
        bound := by
          intro number member
          rcases copied.bound number member with before | own | ⟨other, inside, theirs⟩
          · exact .inl before
          · exact .inr (.inr ⟨node, onShelf, own⟩)
          · exact .inr (.inr ⟨other, inside.1, theirs⟩)
        state := ready.shelf.state onShelf ready.state copied isRemembered
        borrowed := by simpa using isRemembered }

/-! ## Bodies -/

/-- The parts of a statement when the node that it assigns is on the shelf. -/
def Statement.loose : Statement → Contents
  | .empty => .one (.statement .empty)
  | .make term => term.contents
  | .assignment id targets operator value =>
    targetsContents targets ++
      ((if value.form.makesNode then .loan value value.contents.reach else value.contents) ++
        .one (.statement (.assignment id targets operator value)))
  | .takeOver id node => node.contents ++ .one (.statement (.takeOver id node))

/-- The parts of statements when the nodes that they assign are on the shelf. -/
def looseContents : List Statement → Contents
  | [] => .none
  | statement :: rest => statement.loose ++ looseContents rest

/-- The parts of several nodes that are owned. -/
def itemsOf (nodes : List Term) : List Item := nodes.flatMap fun node => node.contents.items

theorem Statement.items_loose (statement : Statement) :
    statement.contents.items.Perm (statement.loose.items ++ itemsOf statement.assigned) := by
  cases statement with
  | assignment =>
    simp only [Statement.contents, Statement.loose, Statement.assigned, itemsOf]
    split
    · simp only [Contents.items_append, Contents.loan_items, Contents.one_items, List.nil_append,
        flatMap_cons, List.flatMap_nil, append_nil]
      rw [append_assoc]
      exact List.perm_append_comm
    · simp only [Contents.items_append, Contents.one_items, List.flatMap_nil, append_nil]
      rw [← append_assoc]
      exact List.perm_append_comm.append_right _
  | _ => simp [Statement.contents, Statement.loose, Statement.assigned, itemsOf]

theorem items_looseContents (code : List Statement) :
    (statementsContents code).items.Perm ((looseContents code).items ++
      itemsOf (assignedIn code)) := by
  induction code with
  | nil => exact List.Perm.refl _
  | cons statement _ ih =>
    simp only [statementsContents, looseContents, Contents.items_append, assignedIn, itemsOf,
      flatMap_cons, List.flatMap_append] at ih ⊢
    refine (statement.items_loose.append ih).trans ?_
    simp only [itemsOf, append_assoc]
    refine List.Perm.append_left _ ?_
    rw [← append_assoc, ← append_assoc]
    exact List.perm_append_comm.append_right _

theorem Statement.reach_loose (statement : Statement) (number : Nat) :
    number ∈ statement.contents.reach ↔ number ∈ statement.loose.reach := by
  cases statement with
  | assignment =>
    simp only [Statement.contents, Statement.loose]
    split <;> simp only [Contents.mem_reach_append, Contents.reach_loan] <;> tauto
  | _ => exact Iff.rfl

theorem reach_looseContents (code : List Statement) (number : Nat) :
    number ∈ (statementsContents code).reach ↔ number ∈ (looseContents code).reach := by
  induction code with
  | nil => exact Iff.rfl
  | cons statement _ ih =>
    simp only [statementsContents, looseContents, Contents.mem_reach_append, ih,
      statement.reach_loose number]

theorem makesNode_of_mem_assignedIn (member : node ∈ assignedIn code) : node.form.makesNode := by
  obtain ⟨_, -, assigned⟩ := List.mem_flatMap.mp member
  exact (Statement.of_mem_assigned assigned).2

variable {statement : Statement}

/-- Outside of the node that it assigns, a statement borrows what it borrows as a whole. -/
theorem Statement.borrowed_loose (member : node ∈ statement.loose.borrowed) :
    node ∈ statement.contents.borrowed ∨ node ∈ statement.assigned := by
  cases statement with
  | assignment =>
    simp only [Statement.loose, Statement.contents, Statement.assigned] at member ⊢
    split at member
    · next makesNode =>
        simp only [Contents.borrowed_append, Contents.loan_borrowed, Contents.one_borrowed,
          mem_append, List.mem_singleton, append_nil] at member
        rcases member with ofTargets | rfl
        · exact .inl (by simp [ofTargets])
        · exact .inr (by simp [makesNode])
    · refine .inl ?_
      simp only [Contents.borrowed_append, Contents.one_borrowed, mem_append,
        append_nil] at member ⊢
      exact member.symm
  | _ => exact .inl member

theorem Statement.borrowed_assigned (assigned : node ∈ statement.assigned)
    (member : other ∈ node.contents.borrowed) : other ∈ statement.contents.borrowed := by
  obtain ⟨⟨_, _, _, rfl⟩, -⟩ := Statement.of_mem_assigned assigned
  simp [Statement.contents, member]

theorem Settled.borrowed (settled : Settled known code)
    (member : node ∈ (looseContents code).borrowed) : node ∈ known ++ assignedIn code := by
  induction code generalizing known with
  | nil => simp [looseContents] at member
  | cons _ _ ih =>
    obtain ⟨first, others⟩ := settled
    simp only [looseContents, Contents.borrowed_append, mem_append] at member
    rcases member with own | later
    · rcases Statement.borrowed_loose own with borrowed | assigned
      · exact mem_append_left _ (first node borrowed)
      · exact List.mem_append_right _ (mem_append_left _ assigned)
    · have inside := ih others later
      rwa [append_assoc] at inside

theorem Settled.closed (settled : Settled known code) (member : node ∈ assignedIn code)
    (borrowed : other ∈ node.contents.borrowed) : other ∈ known ++ assignedIn code := by
  induction code generalizing known with
  | nil => simp [assignedIn] at member
  | cons _ _ ih =>
    obtain ⟨first, others⟩ := settled
    rcases mem_append.mp member with assigned | later
    · exact mem_append_left _ (first other (Statement.borrowed_assigned assigned borrowed))
    · have inside := ih others later
      rwa [append_assoc] at inside

/-- The value of an assignment is on the shelf when it makes a node, and else owned. -/
theorem CopiesTerm.assigned (copies : CopiesTerm value) :
    Copies (if value.form.makesNode then .loan value value.contents.reach else value.contents)
      value.copy fun change => value.renamed change := by
  split
  · exact copies.loan
  · exact copies.copies

/-- How the parts of something that has a body split into the nodes that the body assigns and the
rest. -/
structure Splits (full loose : Contents) (assigned : List Term) : Prop where
  items : full.items.Perm (loose.items ++ itemsOf assigned)
  reach : ∀ number, number ∈ full.reach ↔ number ∈ loose.reach
  makesNode : ∀ node ∈ assigned, node.form.makesNode
  outer : ∀ node ∈ full.borrowed, node ∈ loose.borrowed
  borrowed : ∀ node ∈ loose.borrowed, node ∈ assigned ∨ node ∈ full.borrowed
  closed : ∀ node ∈ assigned, ∀ other ∈ node.contents.borrowed, other ∈ assigned

namespace Splits

variable (splits : Splits full loose assigned)

include splits

theorem items_of_mem (member : node ∈ assigned) : ∀ item ∈ node.contents.items,
    item ∈ full.items := by
  intro _ own
  refine splits.items.mem_iff.mpr (List.mem_append_right _ ?_)
  exact List.mem_flatMap.mpr ⟨node, member, own⟩

theorem numbers_of_mem (member : node ∈ assigned) (own : number ∈ node.contents.numbers) :
    number ∈ full.numbers := by
  obtain ⟨item, inside, number_eq⟩ := List.mem_filterMap.mp own
  exact List.mem_filterMap.mpr ⟨item, splits.items_of_mem member item inside, number_eq⟩

theorem numbers_perm :
    full.numbers.Perm (loose.numbers ++ assigned.flatMap fun node => node.contents.numbers) := by
  have perm := splits.items.filterMap Item.number?
  rw [List.filterMap_append, itemsOf, List.filterMap_flatMap] at perm
  exact perm

theorem nodup (orderly : full.Orderly) :
    (loose.numbers ++ assigned.flatMap fun node => node.contents.numbers).Nodup :=
  splits.numbers_perm.nodup_iff.mp orderly.nodup

theorem apart (orderly : full.Orderly) (member : node ∈ assigned) (otherMember : other ∈ assigned)
    (different : node ≠ other) : node.contents.numbers.Disjoint other.contents.numbers := by
  have nodup := (List.nodup_append.mp (splits.nodup orderly)).2.1
  have pairwise := (List.nodup_flatMap.mp nodup).2
  have symmetric : Std.Symm
      (Function.onFun List.Disjoint fun node : Term => node.contents.numbers) :=
    ⟨fun _ _ disjoint _ own theirs => disjoint theirs own⟩
  exact pairwise.forall member otherMember different

/-- The nodes that a body assigns can be put on the shelf. -/
theorem shelf (orderly : full.Orderly) (shelf : Shelf shared)
    (outside : ∀ node ∈ shared, node.contents.numbers.Disjoint full.numbers) :
    Shelf (shared ∪ {node | node ∈ assigned}) where
  makesNode := by
    rintro node (onShelf | member)
    · exact shelf.makesNode node onShelf
    · exact splits.makesNode node member
  orderly := by
    rintro node (onShelf | member)
    · exact shelf.orderly node onShelf
    · refine ⟨?_, fun item own => orderly.sound item (splits.items_of_mem member item own)⟩
      have nodup := (List.nodup_append.mp (splits.nodup orderly)).2.1
      exact (List.nodup_flatMap.mp nodup).1 node member
  apart := by
    rintro node (onShelf | member) other (otherOnShelf | otherMember) different
    · exact shelf.apart node onShelf other otherOnShelf different
    · exact fun number own theirs =>
        outside node onShelf own (splits.numbers_of_mem otherMember theirs)
    · exact fun _ own theirs =>
        outside other otherOnShelf theirs (splits.numbers_of_mem member own)
    · exact splits.apart orderly member otherMember different
  closed := by
    rintro node (onShelf | member) other borrowed
    · exact .inl (shelf.closed node onShelf other borrowed)
    · exact .inr (splits.closed node member other borrowed)

theorem ready (ready : Ready start before shared full) :
    Ready start before (shared ∪ {node | node ∈ assigned}) loose where
  tally := ready.tally
  shelf := splits.shelf ready.orderly ready.shelf ready.apart
  state := by
    rintro node (onShelf | member)
    · exact ready.state node onShelf
    · exact .inr fun number own => ready.fresh number (splits.numbers_of_mem member own)
  orderly := by
    refine ⟨(List.nodup_append.mp (splits.nodup ready.orderly)).1, fun item member => ?_⟩
    exact ready.orderly.sound item (splits.items.mem_iff.mpr (mem_append_left _ member))
  fresh := by
    intro number member
    exact ready.fresh number (splits.numbers_perm.mem_iff.mpr (mem_append_left _ member))
  borrowed := by
    intro node member
    rcases splits.borrowed node member with isAssigned | outer
    · exact .inr isAssigned
    · exact .inl (ready.borrowed node outer)
  apart := by
    rintro node (onShelf | member) _ own theirs
    · exact ready.apart node onShelf own
        (splits.numbers_perm.mem_iff.mpr (mem_append_left _ theirs))
    · have disjoint := (List.nodup_append'.mp (splits.nodup ready.orderly)).2.2
      exact disjoint theirs (List.mem_flatMap.mpr ⟨node, member, own⟩)

/-- What has a body is copied with the assigned nodes on the shelf, and taken off it afterwards. -/
theorem copies (copies : Copies loose action image) : Copies full action image := by
  refine ⟨fun first second agree => copies.depends first second fun number member =>
    agree number ((splits.reach number).mpr member), fun start state _ ready value after run => ?_⟩
  obtain ⟨change, done, copied, same⟩ := copies.ensures start state _ (splits.ready ready)
    value after run
  refine ⟨change, done, ?_, same⟩
  exact
    { toOnward := copied.toOnward
      tally := copied.tally
      reach := fun number member => copied.reach number ((splits.reach number).mp member)
      bound := by
        intro number isDone
        rcases copied.bound number isDone with before | own | ⟨node, onShelf | member, theirs⟩
        · exact .inl before
        · exact .inr (.inl (splits.numbers_perm.mem_iff.mpr (mem_append_left _ own)))
        · exact .inr (.inr ⟨node, onShelf, theirs⟩)
        · exact .inr (.inl (splits.numbers_of_mem member theirs))
      state := fun node onShelf => copied.state node (.inl onShelf)
      borrowed := fun node member => copied.borrowed node (splits.outer node member) }

end Splits

theorem Splits.code {code : List Statement} (settled : Settled [] code) :
    Splits (statementsContents code).enclosed (looseContents code) (assignedIn code) where
  items := items_looseContents code
  reach := reach_looseContents code
  makesNode := fun _ => makesNode_of_mem_assignedIn
  outer := by simp
  borrowed := fun _ member => .inl (by simpa using settled.borrowed member)
  closed := fun _ member _ borrowed => by simpa using settled.closed member borrowed

/-- A loop copies its condition first, and its limit and its index last. -/
theorem Splits.loop {code : List Statement} (settled : Settled [] code)
    (inside : ∀ node ∈ (optionContents condition).borrowed, node ∈ assignedIn code) :
    Splits (Form.loop kind parameters results code limit index terminals condition).contents
      (optionContents condition ++ (loopParametersContents parameters ++
        (looseContents code ++ (optionContents limit ++ index.contents)))) (assignedIn code) where
  items := by
    simp only [Form.contents, Contents.items_append, Contents.enclosed_items]
    have split := items_looseContents code
    classical
    rw [List.perm_iff_count] at split ⊢
    intro item
    have counted := split item
    simp only [List.count_append] at counted ⊢
    omega
  reach := by
    intro number
    simp only [Form.contents, Contents.mem_reach_append, Contents.reach_enclosed,
      reach_looseContents code number]
    tauto
  makesNode := fun _ => makesNode_of_mem_assignedIn
  outer := by
    intro node member
    simp only [Form.contents, Contents.borrowed_append, Contents.enclosed_borrowed,
      append_nil, mem_append] at member ⊢
    tauto
  borrowed := by
    intro node member
    simp only [Contents.borrowed_append, mem_append] at member
    simp only [Form.contents, Contents.borrowed_append, Contents.enclosed_borrowed,
      append_nil, mem_append]
    rcases member with ofCondition | ofParameters | ofCode | ofLimit | ofIndex
    · exact .inl (inside node ofCondition)
    · exact .inr (.inr ofParameters)
    · exact .inl (by simpa using settled.borrowed ofCode)
    · exact .inr (.inl (.inr ofLimit))
    · exact .inr (.inl (.inl ofIndex))
  closed := fun _ member _ borrowed => by simpa using settled.closed member borrowed

/-! ## The recursion -/

mutual

theorem Term.copies : ∀ term : Term, CopiesTerm term
  | .mk _ (.sheet _ ..) => .mk fun _ => .never (Form.depends _)
  | .mk _ (.value ..) | .mk _ (.reference ..)
  | .mk _ (.enumeration ..) => .mk fun _ => .pure
  | .mk _ (.vector _ _ values) | .mk _ (.array _ values) =>
    .mk fun _ => (copyTerms_copies values).map
  | .mk _ (.matrix _ _ columns) => .mk fun _ => (copyColumns_copies columns).map
  | .mk _ (.emptyArray _ count) => .mk fun _ => (Term.copies count).copies.map
  | .mk _ (.object entries) => .mk fun _ => (copyEntries_copies entries).map
  | .mk _ (.not _ value) | .mk _ (.negate _ value) =>
    .mk fun _ => (Term.copies value).copies.map
  | .mk _ (.binary _ _ _ left right) =>
    .mk fun _ => (Term.copies left).copies.bind fun _ => (Term.copies right).copies.map
  | .mk _ (.comparison _ _ operands) => .mk fun _ => (copyTerms_copies operands).map
  | .mk _ (.access value accessor) =>
    .mk fun _ => (Term.copies value).copies.bind fun _ => (Accessor.copies accessor).map
  | .mk _ (.port none node _) => .mk fun _ => (Term.copies node).copies.map
  | .mk _ (.port (some _) node _) => .mk fun _ => (Term.copies node).loan.map
  | .mk _ (.associative _ _ arguments named ..)
  | .mk _ (.native _ arguments named ..)
  | .mk _ (.construct _ arguments named) =>
    .mk fun _ => (copyArguments_copies arguments).bind fun _ => (copyArguments_copies named).map
  | .mk _ (.function _ body arguments named ..) => by
    refine .mk fun _ => ?_
    rw [Form.contents, Contents.append_assoc]
    exact (copyArguments_copies arguments).bind fun _ =>
      (copyArguments_copies named).bind fun _ => (Term.copies body).copies.map
  | .mk _ (.scope _ parameters _ code _) =>
    CopiesTerm.mk fun sound => (copyParameters_copies parameters).bind fun _ =>
      ((Splits.code sound.2).copies (copyStatements_copies code)).map
  | .mk _ (.loop _ parameters _ code limit index _ condition) =>
    CopiesTerm.mk fun sound => (Splits.loop sound.2.1 sound.2.2).copies
      ((copyOption_copies condition).bind fun _ =>
      (copyLoopParameters_copies parameters).bind fun _ =>
        (copyStatements_copies code).bind fun _ => (copyOption_copies limit).bind fun _ =>
          (LoopIndex.copies index).map)

theorem copyTerms_copies : ∀ terms : List Term,
    Copies (termsContents terms) (copyTerms terms) fun change => renamedTerms change terms
  | [] => .pure
  | term :: rest => (Term.copies term).copies.bind fun _ => (copyTerms_copies rest).map

theorem copyColumns_copies : ∀ columns : List (List Term),
    Copies (columnsContents columns) (copyColumns columns) fun change =>
      renamedColumns change columns
  | [] => .pure
  | column :: rest => (copyTerms_copies column).bind fun _ => (copyColumns_copies rest).map

theorem copyOption_copies : ∀ term : Option Term,
    Copies (optionContents term) (copyOption term) fun change => renamedOption change term
  | none => .pure
  | some term => (Term.copies term).copies.map

theorem copyEntries_copies : ∀ entries : List Entry,
    Copies (entriesContents entries) (copyEntries entries) fun change =>
      renamedEntries change entries
  | [] => .pure
  | .mk key value :: rest => by
    rw [entriesContents, Contents.append_assoc]
    exact (Term.copies key).copies.bind fun _ =>
      (Term.copies value).copies.bind fun _ => (copyEntries_copies rest).map

theorem Accessor.copies : ∀ accessor : Accessor,
    Copies accessor.contents accessor.copy fun change => accessor.renamed change
  | .index _ value => (Term.copies value).copies.bind fun _ => (Copies.fresh rfl).map
  | .slice start stop step => by
    rw [Accessor.contents, Contents.append_assoc]
    exact (copyOption_copies start).bind fun _ =>
      (copyOption_copies stop).bind fun _ => (copyOption_copies step).map
  | .orDefault _ key _ default => by
    rw [Accessor.contents, Contents.append_assoc]
    exact (Term.copies key).copies.bind fun _ =>
      (copyOption_copies default).bind fun _ => (Copies.fresh rfl).map
  | .member _ => .pure

theorem copyArguments_copies : ∀ arguments : List Argument,
    Copies (argumentsContents arguments) (copyArguments arguments)
      fun change => renamedArguments change arguments
  | [] => .pure
  | .mk _ value :: rest => (Term.copies value).copies.bind fun _ => (copyArguments_copies rest).map

theorem copyParameters_copies : ∀ parameters : List Parameter,
    Copies (parametersContents parameters) (copyParameters parameters)
      fun change => renamedParameters change parameters
  | [] => .pure
  | .mk _ _ default :: rest =>
    (copyOption_copies default).bind fun _ => (copyParameters_copies rest).map

theorem copyLoopParameters_copies : ∀ parameters : List LoopParameter,
    Copies (loopParametersContents parameters) (copyLoopParameters parameters)
      fun change => renamedLoopParameters change parameters
  | [] => .pure
  | .mk _ _ default _ :: rest =>
    (copyOption_copies default).bind fun _ => (copyLoopParameters_copies rest).map

theorem LoopIndex.copies : ∀ index : LoopIndex,
    Copies index.contents index.copy fun change => index.renamed change
  | .mk _ _ start => (Term.copies start).copies.bind fun _ => (Copies.fresh rfl).map

theorem copyTargets_copies : ∀ targets : List Target,
    Copies (targetsContents targets) (copyTargets targets) fun change =>
      renamedTargets change targets
  | [] => .pure
  | target :: rest => (Target.copies target).bind fun _ => (copyTargets_copies rest).map

theorem Target.copies : ∀ target : Target,
    Copies target.contents target.copy fun change => target.renamed change
  | .ignored => .pure
  | .declared .. => .pure
  | .reference .. => Copies.pure
  | .part _ _ base accessor _ => by
    rw [Target.contents, Contents.append_assoc]
    exact (Term.copies base).copies.bind fun _ =>
      (Accessor.copies accessor).bind fun _ => (Copies.fresh rfl).map

theorem Statement.copies : ∀ statement : Statement,
    Copies statement.loose statement.copy fun change => statement.renamed change
  | .empty => .never fun _ _ _ => rfl
  | .make term => (Term.copies term).copies.map
  | .assignment _ targets _ value =>
    (copyTargets_copies targets).bind fun _ =>
      (Term.copies value).assigned.bind fun _ => (Copies.fresh rfl).map
  | .takeOver _ node => (Term.copies node).copies.bind fun _ => (Copies.fresh rfl).map

theorem copyStatements_copies : ∀ code : List Statement,
    Copies (looseContents code) (copyStatements code) fun change => renamedStatements change code
  | [] => .pure
  | statement :: rest => (Statement.copies statement).bind fun _ => (copyStatements_copies rest).map

end

/-- The copy of a term that borrows nothing is the term renamed by an injective change to new
numbers. -/
theorem Term.ensures_copy {term : Term} (orderly : term.contents.Orderly)
    (closed : term.contents.borrowed = []) (start : Nat) :
    Ensures term.copy ⟨start, []⟩ fun copy after =>
      start ≤ after.nextId ∧ ∃ change, copy = term.renamed change ∧
        Set.InjOn change {number | number ∈ term.contents.reach} ∧
        ∀ number ∈ term.contents.reach, start ≤ change number ∧ change number < after.nextId := by
  have ready : Ready start ⟨⟨start, []⟩, fun number => number, ∅⟩ ∅ term.contents :=
    { tally := ⟨le_refl _, by simp, by simp, by simp⟩
      shelf := ⟨by simp, by simp, by simp, by simp⟩
      state := by simp
      orderly := orderly
      fresh := by simp
      borrowed := by simp [closed]
      apart := by simp }
  intro copy after run
  obtain ⟨change, _, copied, same, -⟩ := Term.copies term start _ ∅ ready copy after run
  refine ⟨copied.tally.le, change, same, ?_, ?_⟩
  · exact copied.tally.injective.mono copied.reach
  · exact fun number member => copied.tally.range number (copied.reach number member)

/-- A term that stands on its own does so under new numbers, if no two numbers become one. -/
theorem Term.Whole.renamed {term : Term} (whole : term.Whole)
    (injective : Set.InjOn change {number | number ∈ term.contents.reach}) :
    (term.renamed change).Whole := by
  refine ⟨⟨?_, ?_⟩, ?_, by simpa using whole.isScope⟩
  · rw [Term.contents_renamed, Contents.numbers_renamed]
    refine List.Nodup.map_on ?_ whole.orderly.nodup
    intro _ firstOwn _ secondOwn same
    exact injective (Contents.numbers_subset_reach firstOwn)
      (Contents.numbers_subset_reach secondOwn) same
  · rw [Term.contents_renamed]
    exact whole.orderly.sound.renamed
  · rw [Term.contents_renamed, Contents.borrowed_renamed, whole.closed, List.map_nil]

end GraphScript.Program
