import GraphScript.Overload.Resolution
import GraphScript.Proofs.Typing.Promotion

/-!
# What a resolved call promises

Where rules by sets of types resolve a call, every argument can go to its port: its type can be
promoted to the type that was found, or that type is a placeholder that takes the argument in.  The
types that were found are as many as the declared ones, unless there is an overload for exactly the
arguments.

The candidates of the search differ from the declared types only in their names, and no candidate is
chosen that was not compared with all arguments.
-/

namespace GraphScript.Overload

open List
open Act (Yields)

variable {operator : Operator} {arguments : List PortType} {index : Nat} {anyPromoted : Bool}
  {target : String} {declared : List String} {name : String} {types : List String}
  {candidates : List Candidate} {log after : Log}

variable {typesIn typesOut targets : List String} {type argument : PortType} {count : Nat}
variable {registry : Registry}

/-! ## One argument -/

/-- A placeholder takes in a type: `*` any type, `[]` any array, and the others the arrays with as
many levels as they say. -/
def Covers (target : String) (type : PortType) : Prop :=
  target ∈ PortType.wildcards ∧
    (target = "*" ∨ target = "[]" ∧ Text.holds "<" type.name ∨ target = s!"[{type.arrayDim}]")

/-- An argument of a type can go to a port of a type. -/
def Admits (target : String) (type : PortType) : Prop :=
  PortType.promotable type (.mk target none) = .ok true ∨ Covers target type

/-- An argument was left out, or it can go to a port of a type. -/
def Suits (target : String) (type : PortType) : Prop :=
  type.name = PortType.autoName ∨ Admits target type

/-- A type can be promoted to the type with its name. -/
theorem promotable_name (type : PortType) :
    PortType.promotable type (.mk type.name none) = .ok true :=
  Typing.promotable_iff.mpr (.inl (beq_self_eq_true type.name))

/-- The placeholders for the arrays of one to three levels. -/
theorem levels_of_placeholder (listed : (target == "[1]" || target == "[2]" || target == "[3]") =
    true) (cut : Text.dropEnd 1 (Text.dropStart 1 target) = level) :
    target ∈ PortType.wildcards ∧ target = s!"[{level}]" ∧
      ¬ Act.Passes (PortType.ofName (level ++ "D-array")) := by
  simp only [Bool.or_eq_true, beq_iff_eq] at listed
  subst cut
  obtain (rfl | rfl) | rfl := listed
  all_goals decide +kernel

/-- Where a placeholder for arrays need not be compared any further, it takes the type in. -/
theorem covers_of_arrayPlaceholder (taken : arrayPlaceholder target type = none) :
    Covers target type := by
  unfold arrayPlaceholder at taken
  split at taken
  next bare =>
    obtain rfl := beq_iff_eq.mp bare
    split at taken
    next array => exact ⟨by decide, .inr (.inl ⟨rfl, array⟩)⟩
    next => cases taken
  next =>
    split at taken
    next listed =>
      dsimp only at taken
      split at taken
      next same =>
        obtain ⟨known, spelled, _⟩ := levels_of_placeholder listed (beq_iff_eq.mp same)
        exact ⟨known, .inr (.inr spelled)⟩
      next => cases taken
    next => cases taken

/-- What a placeholder for arrays is read as when it does not match is no type. -/
theorem eq_of_arrayPlaceholder (compared : arrayPlaceholder target type = some other)
    (known : Act.Passes (PortType.ofName other)) : other = target := by
  unfold arrayPlaceholder at compared
  split at compared
  next =>
    split at compared
    next => cases compared
    next =>
      cases compared
      exact absurd known (by decide +kernel)
  next =>
    split at compared
    next listed =>
      dsimp only at compared
      split at compared
      next => cases compared
      next =>
        obtain rfl := Option.some.inj compared
        exact absurd known (levels_of_placeholder listed rfl).2.2
    next => exact (Option.some.inj compared).symm

/-- An argument that fits its port was left out or can go there. -/
theorem suits_of_fitArgument
    (fitted : fitArgument operator anyPromoted index (.typed given) target = .ok fit)
    (fits : ∀ reason, fit ≠ .unfit reason) : Suits target given.onlyPort := by
  unfold fitArgument at fitted
  dsimp only at fitted
  split at fitted
  next leftOut =>
    rw [Bool.and_eq_true] at leftOut
    exact .inl (beq_iff_eq.mp leftOut.1)
  split at fitted
  next exactly =>
    rw [Bool.and_eq_true] at exactly
    exact .inr (.inl (beq_iff_eq.mp exactly.1 ▸ promotable_name given.onlyPort))
  split at fitted
  next anything =>
    obtain rfl := beq_iff_eq.mp anything
    exact .inr (.inr ⟨by decide, .inl rfl⟩)
  split at fitted
  next taken => exact .inr (.inr (covers_of_arrayPlaceholder taken))
  next other compared =>
    obtain ⟨type, known, fitted⟩ := Act.bind_eq_ok.mp fitted
    obtain rfl := eq_of_arrayPlaceholder compared ⟨type, known⟩
    obtain ⟨promotes, promoted, fitted⟩ := Act.bind_eq_ok.mp fitted
    obtain rfl := Typing.eq_mk_of_make known
    cases promotes with
    | true => exact .inr (.inl promoted)
    | false =>
      obtain ⟨_, _, fitted⟩ := Act.bind_eq_ok.mp fitted
      exact absurd (Except.ok.inj fitted).symm (fits _)

/-! ## One candidate -/

/-- What is left of the arguments while candidates are compared: an argument that was left out may
have taken the type of a port. -/
def Remaining (slots : List Slot) (arguments : List PortType) : Prop :=
  List.Forall₂ (fun slot argument => slot = .typed argument ∨ ∃ name, slot = .named name)
    slots arguments

/-- Every argument was left out or can go to the port at its place. -/
def AllSuit (targets : List String) (arguments : List PortType) : Prop :=
  ∀ (index : Nat) (target : String) (argument : PortType),
    targets[index]? = some target → arguments[index]? = some argument →
      Suits target argument.onlyPort

theorem remaining_asGiven (arguments : List PortType) :
    Remaining (asGiven arguments) arguments := by
  induction arguments with
  | nil => exact .nil
  | cons _ _ ih => exact .cons (.inl rfl) ih

theorem AllSuit.nil (arguments : List PortType) : AllSuit [] arguments := by
  intro _ _ _ found
  simp at found

theorem AllSuit.none (targets : List String) : AllSuit targets [] := by
  intro _ _ _ _ found
  simp at found

theorem AllSuit.cons (first : Suits target argument.onlyPort) (rest : AllSuit targets arguments) :
    AllSuit (target :: targets) (argument :: arguments) := by
  intro index
  cases index with
  | zero =>
    intro _ _ atTarget atArgument
    cases atTarget
    cases atArgument
    exact first
  | succ index => exact rest index

/-- A bare name left by an earlier candidate cannot be compared again. -/
theorem typed_of_fitArgument (fitted : fitArgument operator anyPromoted index slot target = .ok fit)
    (remains : slot = .typed argument ∨ ∃ name, slot = .named name) : slot = .typed argument := by
  obtain same | ⟨_, rfl⟩ := remains
  · exact same
  · cases fitted

/-- A comparison ends at the first argument that does not fit, and else goes on behind the
argument. -/
theorem fitCandidate_cons {slot : Slot} {after : List Slot}
    (fitted : fitCandidate operator anyPromoted index (slot :: slots) (target :: targets) =
      .ok (fit, after)) :
    ∃ one, fitArgument operator anyPromoted index slot target = .ok one ∧
      ((after = slot :: slots ∧ ∃ reason, fit = .unfit reason) ∨
        (∀ reason, one ≠ .unfit reason) ∧ ∃ others rest,
          fitCandidate operator anyPromoted (index + 1) slots targets = .ok (others, rest) ∧
          (after = slot :: rest ∨ one = .taken ∧ after = .named target :: rest) ∧
          ∀ reason, others = .unfit reason → fit = .unfit reason) := by
  unfold fitCandidate at fitted
  obtain ⟨one, fittedOne, fitted⟩ := Act.bind_eq_ok.mp fitted
  refine ⟨one, fittedOne, ?_⟩
  cases one with
  | unfit reason =>
    cases fitted
    exact .inl ⟨rfl, reason, rfl⟩
  | taken =>
    obtain ⟨⟨others, rest⟩, fittedRest, fitted⟩ := Act.bind_eq_ok.mp fitted
    cases fitted
    exact .inr ⟨by simp, _, rest, fittedRest, .inr ⟨rfl, rfl⟩, fun _ same => same⟩
  | «exact» =>
    obtain ⟨⟨others, rest⟩, fittedRest, fitted⟩ := Act.bind_eq_ok.mp fitted
    cases fitted
    exact .inr ⟨by simp, _, rest, fittedRest, .inl rfl, fun _ same => same⟩
  | loose =>
    obtain ⟨⟨others, rest⟩, fittedRest, fitted⟩ := Act.bind_eq_ok.mp fitted
    cases fitted
    exact .inr ⟨by simp, others, rest, fittedRest, .inl rfl, fun _ same => by rw [same]⟩

/-- Comparing a candidate keeps what is left of the arguments, and a candidate that fits suits all
of them. -/
theorem allSuit_of_fitCandidate {after : List Slot} (remains : Remaining slots arguments)
    (fitted : fitCandidate operator anyPromoted index slots targets = .ok (fit, after)) :
    Remaining after arguments ∧ ((∀ reason, fit ≠ .unfit reason) → AllSuit targets arguments) := by
  induction remains generalizing index after targets fit with
  | nil =>
    unfold fitCandidate at fitted
    cases fitted
    exact ⟨.nil, fun _ => .none targets⟩
  | @cons _ _ _ _ remains others ih =>
    cases targets with
    | nil =>
      unfold fitCandidate at fitted
      cases fitted
      exact ⟨.cons remains others, fun _ => .nil _⟩
    | cons target =>
      obtain ⟨_, fittedOne, rest⟩ := fitCandidate_cons fitted
      obtain rfl := typed_of_fitArgument fittedOne remains
      obtain ⟨rfl, reason, rfl⟩ | ⟨fits, _, rest, fittedRest, left, same⟩ := rest
      · exact ⟨.cons remains others, fun fits => absurd rfl (fits reason)⟩
      · obtain ⟨restRemains, suits⟩ := ih fittedRest
        refine ⟨?_, fun fitsAll => .cons (suits_of_fitArgument fittedOne fits)
          (suits fun reason unfit => fitsAll reason (same reason unfit))⟩
        obtain rfl | ⟨-, rfl⟩ := left
        · exact .cons remains restRemains
        · exact .cons (.inr ⟨target, rfl⟩) restRemains

/-! ## All candidates -/

/-- Types for all ports, which differ from the declared ones only where these are still to be
found. -/
structure Fills (declared types : List String) : Prop where
  length : types.length = declared.length
  keeps : ∀ (index : Nat) (type : String), declared[index]? = some type → type ≠ PortType.autoName →
    types[index]? = some type

theorem Fills.refl (declared : List String) : Fills declared declared :=
  ⟨rfl, fun _ _ found _ => found⟩

theorem Fills.trans (first : Fills declared types) (second : Fills types others) :
    Fills declared others :=
  ⟨second.length.trans first.length, fun index type found known =>
    second.keeps index type (first.keeps index type found known) known⟩

theorem Fills.set (fills : Fills declared types)
    (unknown : ∀ type, declared[index]? = some type → type = PortType.autoName) (name : String) :
    Fills declared (types.set index name) where
  length := by rw [length_set, fills.length]
  keeps := by
    intro place type found known
    have other : index ≠ place := by
      rintro rfl
      exact known (unknown type found)
    rw [List.getElem?_set_ne other]
    exact fills.keeps place type found known

/-- Types for all ports that every argument can go to. -/
structure Settled (declared : List String) (arguments : List PortType) (types : List String) :
    Prop where
  fills : Fills declared types
  suits : AllSuit types arguments

/-- All that a check has found are types that settle the call. -/
structure Check.Sound (declared : List String) (arguments : List PortType)
    (check : Check) : Prop where
  valid : ∀ types ∈ check.valid, Settled declared arguments types
  perfect : ∀ types, check.perfect = some types → Settled declared arguments types

/-- A check has found nothing, neither types nor a reason. -/
structure Check.Idle (check : Check) : Prop where
  valid : check.valid = []
  setback : check.setback = .none
  perfect : check.perfect = none

theorem sound_checkCandidates :
    ∀ {check final : Check} {slots : List Slot},
      Remaining slots arguments →
      (∀ candidate ∈ candidates, Fills declared candidate.types) →
      check.Sound declared arguments →
      checkCandidates operator check slots candidates = .ok final →
      final.Sound declared arguments := by
  induction candidates with
  | nil =>
    intro check final slots _ _ sound checked
    cases checked
    exact sound
  | cons candidate _ ih =>
    intro check _ _ remains fill sound checked
    obtain ⟨fillsFirst, fillRest⟩ := forall_mem_cons.mp fill
    obtain ⟨⟨fit, _⟩, fitted, checked⟩ := Act.bind_eq_ok.mp checked
    obtain ⟨left, suits⟩ := allSuit_of_fitCandidate remains fitted
    cases fit with
    | perfect =>
      cases checked
      refine ⟨sound.valid, fun types found => ?_⟩
      cases found
      exact ⟨fillsFirst, suits (by simp)⟩
    | loose =>
      have grown : Check.Sound declared arguments
        { check with valid := check.valid ++ [candidate.types] } := by
        refine ⟨forall_mem_append.mpr ⟨sound.valid, forall_mem_singleton.mpr ?_⟩, sound.perfect⟩
        exact ⟨fillsFirst, suits (by simp)⟩
      exact ih left fillRest grown checked
    | unfit reason =>
      have same : Check.Sound declared arguments { check with setback := .reason reason } :=
        ⟨sound.valid, sound.perfect⟩
      exact ih left fillRest same checked

/-- A check that has found nothing had nothing to check. -/
theorem nil_of_idle :
    ∀ {check final : Check} {slots : List Slot},
      checkCandidates operator check slots candidates = .ok final →
      final.Idle → check.Idle ∧ candidates = [] := by
  induction candidates with
  | nil =>
    intro check final slots checked idle
    cases checked
    exact ⟨idle, rfl⟩
  | cons _ _ ih =>
    intro _ _ _ checked idle
    obtain ⟨⟨fit, _⟩, _, checked⟩ := Act.bind_eq_ok.mp checked
    cases fit with
    | perfect =>
      cases checked
      exact absurd idle.perfect (by simp)
    | loose => exact absurd (ih checked idle).1.valid (by simp)
    | unfit => exact absurd (ih checked idle).1.setback (by simp)

/-! ## The search -/

theorem mem_autoPorts (auto : index ∈ autoPorts types) :
    types[index]? = some PortType.autoName := by
  obtain ⟨⟨_, _⟩, member, rfl⟩ := mem_map.mp auto
  obtain ⟨member, isAuto⟩ := mem_filter.mp member
  rw [mk_mem_zipIdx_iff_getElem?] at member
  exact member.trans (congrArg some (beq_iff_eq.mp isAuto))

theorem fills_fillPorts (fills : Fills declared types)
    (unknown : ∀ entry ∈ found, declared[entry.1]? = some PortType.autoName) :
    Fills declared (fillPorts types promoted found).types := by
  induction found generalizing types promoted with
  | nil => exact fills
  | cons _ _ ih =>
    obtain ⟨isAuto, unknownRest⟩ := forall_mem_cons.mp unknown
    refine ih (fills.set (fun _ same => ?_) _) unknownRest
    exact Option.some.inj (same.symm.trans isAuto)

/-- Suggestions are taken for the types that are still to be found. -/
theorem fills_fillSuggested (done : fillSuggested suggestions arguments index declared =
    .ok filled) : Fills declared filled := by
  induction declared generalizing index filled with
  | nil =>
    cases done
    exact .refl _
  | cons type rest ih =>
    have going : ∀ first, (type ≠ PortType.autoName → first = type) →
        (do return first :: (← fillSuggested suggestions arguments (index + 1) rest)) =
          Except.ok filled →
        Fills (type :: rest) filled := by
      intro _ same done
      obtain ⟨_, doneOthers, done⟩ := Act.bind_eq_ok.mp done
      cases done
      have fills := ih doneOthers
      refine ⟨by rw [length_cons, length_cons, fills.length], ?_⟩
      rintro (_ | place) known found notAuto
      · cases found
        exact congrArg some (same notAuto)
      · exact fills.keeps place known found notAuto
    unfold fillSuggested at done
    dsimp only at done
    split at done
    · exact going _ (fun _ => rfl) done
    next isAuto =>
      have auto : type = PortType.autoName := by simpa using isAuto
      split at done
      · exact going _ (fun _ => rfl) done
      · exact going _ (fun _ => rfl) done
      · obtain ⟨_, _, done⟩ := Act.bind_eq_ok.mp done
        exact going _ (fun known => absurd auto known) done

/-- An attempt gives a candidate with types for all ports, or a setback, and no answer. -/
def Attempt.Open (declared : List String) (attempt : Attempt) : Prop :=
  (∃ candidate, attempt = .candidate candidate ∧ Fills declared candidate.types) ∨
    ∃ setback, attempt = .setback setback

theorem open_tryGroups
    (run : Yields (tryGroups name operator types (autoPorts types) groups arguments) log attempt
      after) : attempt.Open types := by
  unfold tryGroups at run
  extract_lets going at run
  have finish : ∀ leading middle, Yields (going leading) middle attempt after →
      attempt.Open types := by
    intro leading middle run
    simp -zeta only [going] at run
    extract_lets ending at run
    have settle : ∀ place, Yields (ending ()) place attempt after → attempt.Open types := by
      intro _ run
      obtain ⟨_, _, _, run⟩ := run.bind
      obtain ⟨_, _, _, run⟩ := run.bind
      obtain ⟨outcome, _, _, run⟩ := run.bind
      cases outcome with
      | error =>
        obtain ⟨rfl, _⟩ := run.pure
        exact .inr ⟨_, rfl⟩
      | ok =>
        obtain ⟨rfl, _⟩ := run.pure
        refine .inl ⟨_, rfl, fills_fillPorts (.refl types) fun _ member => ?_⟩
        exact mem_autoPorts (of_mem_zip member).1
    split at run
    · split at run
      · obtain ⟨_, _, _, run⟩ := run.bind
        obtain ⟨_, _, _, run⟩ := run.bind
        obtain ⟨_, _, _, run⟩ := run.bind
        obtain ⟨_, _, thrown, _⟩ := run.bind
        exact thrown.throw
      · exact settle _ run
    · exact settle _ run
  split at run
  all_goals
    obtain ⟨leading, middle, _, run⟩ := run.bind
    exact finish leading middle run

/-- A search has no answer, and its candidates give types to all ports. -/
structure Search.Open (declared : List String) (search : Search) : Prop where
  answer : search.answer = none
  candidates : ∀ candidate ∈ search.candidates, Fills declared candidate.types

theorem mem_addCandidate (member : other ∈ addCandidate candidates candidate) :
    other ∈ candidates ∨ other = candidate := by
  unfold addCandidate at member
  split at member
  · exact .inl member
  · rw [mem_append, mem_singleton] at member
    exact member

theorem open_searchRules (sets : ∀ rule ∈ rules, ∃ groups, rule = .sets groups) :
    ∀ {search final : Search} {log after : Log},
      search.Open types →
      Yields (searchRules name operator typesIn typesOut types (autoPorts types) arguments search
        rules) log final after →
      final.Open types := by
  induction rules with
  | nil =>
    intro search final log after isOpen run
    obtain ⟨rfl, _⟩ := run.pure
    exact isOpen
  | cons _ _ ih =>
    intro search _ _ _ isOpen run
    obtain ⟨⟨_, rfl⟩, setsRest⟩ := forall_mem_cons.mp sets
    obtain ⟨_, _, tried, run⟩ := run.bind
    obtain ⟨candidate, rfl, fills⟩ | ⟨setback, rfl⟩ := open_tryGroups tried
    · have grown : Search.Open types
          { search with setback := .none, candidates :=
            addCandidate search.candidates candidate } := by
        refine ⟨isOpen.answer, fun other member => ?_⟩
        obtain old | rfl := mem_addCandidate member
        · exact isOpen.candidates other old
        · exact fills
      exact ih setsRest grown run
    · have same : Search.Open types { search with setback := setback } :=
        ⟨isOpen.answer, isOpen.candidates⟩
      exact ih setsRest same run

/-! ## The call -/

/-- A resolution that found types for all ports found types that settle the call. -/
def Resolution.Sound (count : Nat) (declared : List String) (arguments : List PortType)
    (resolution : Resolution) : Prop :=
  ∀ inputs outputs, resolution = .found inputs outputs →
    ∃ types, Settled declared arguments types ∧ splitPorts count types = .found inputs outputs

theorem Settled.sound (settled : Settled declared arguments types) :
    (splitPorts count types).Sound count declared arguments :=
  fun _ _ found => ⟨types, settled, found⟩

theorem sound_failed (count : Nat) (declared : List String) (arguments : List PortType)
    (reason : Rejection) : (Resolution.failed reason).Sound count declared arguments := by
  intro _ _ found
  cases found

/-- A setback stands in for the resolution unless there is none. -/
theorem Setback.sound {setback : Setback}
    (sound : setback = .none → otherwise.Sound count declared arguments) :
    (setback.resolution otherwise).Sound count declared arguments := by
  cases setback with
  | none => exact sound rfl
  | reason => exact sound_failed _ _ _ _
  | text =>
    intro _ _ found
    cases found

/-- Of several candidates that fit, only the first can be chosen. -/
theorem sound_chooseValid (settled : Settled declared arguments first)
    (run : Yields (chooseValid operator count first others) log resolution after) :
    resolution.Sound count declared arguments := by
  unfold chooseValid at run
  obtain ⟨_, _, _, run⟩ := run.bind
  obtain ⟨_, _, _, run⟩ := run.bind
  obtain ⟨conflict, _, _, run⟩ := run.bind
  cases conflict with
  | none =>
    obtain ⟨rfl, _⟩ := run.pure
    exact settled.sound
  | some =>
    obtain ⟨_, _, _, run⟩ := run.bind
    obtain ⟨rfl, _⟩ := run.pure
    exact sound_failed _ _ _ _

/-- The candidates decide a call: what they find settles it. -/
theorem sound_candidates {check : Check} (fills : Fills declared types)
    (fill : ∀ candidate ∈ candidates, Fills declared candidate.types)
    (needed : candidates = [] → arguments = [])
    (checked : checkCandidates operator ⟨[], .none, none⟩ (asGiven arguments) candidates =
      .ok check) (run : Yields (match check.perfect, check.valid with
      | some types, _ => return splitPorts count types
      | none, [types] => return splitPorts count types
      | none, first :: others => chooseValid operator count first others
      | none, [] =>
        return check.setback.resolution (splitPorts count types)) log resolution after) :
    resolution.Sound count declared arguments := by
  have sound : check.Sound declared arguments :=
    sound_checkCandidates (remaining_asGiven arguments) fill ⟨by simp, by simp⟩ checked
  split at run
  next found _ isPerfect =>
    obtain ⟨rfl, _⟩ := run.pure
    exact (sound.perfect _ isPerfect).sound
  next found _ isValid =>
    obtain ⟨rfl, _⟩ := run.pure
    exact (sound.valid _ (by simp [isValid])).sound
  next first others _ _ isValid => exact sound_chooseValid (sound.valid _ (by simp [isValid])) run
  next noPerfect noValid =>
    obtain ⟨rfl, _⟩ := run.pure
    refine Setback.sound fun noSetback => ?_
    obtain ⟨_, noCandidates⟩ := nil_of_idle checked ⟨noValid, noSetback, noPerfect⟩
    obtain rfl := needed noCandidates
    exact Settled.sound ⟨fills, .none types⟩

/-- There is an overload for exactly the arguments. -/
def Exactly (operator : Operator) (arguments : List PortType) (outputs : List String) : Prop :=
  operator.overloads.get? (keyOf (arguments.map PortType.name)) = some outputs

/-- The search for types behind the declared ones: it ends in types that settle the call. -/
theorem sound_searchTypes
    (sets : ∀ rule ∈ (registry.rules.get? name).getD [], ∃ groups, rule = .sets groups)
    (run : Yields (searchRules name operator typesIn typesOut types (autoPorts types) arguments
      ⟨if (autoPorts types).isEmpty then [⟨types, types.map fun _ => false⟩] else [], .none, none⟩
      ((registry.rules.get? name).getD [])) log search after) : search.Open types := by
  refine open_searchRules sets ⟨rfl, fun _ member => ?_⟩ run
  dsimp only at member
  split at member
  · rw [mem_singleton.mp member]
    exact .refl types
  · simp at member

/-- A resolved call has no more arguments than declared types.  Its types are those of an overload
for exactly the arguments, or they settle the call. -/
theorem settled_of_resolvePorts {inputs : List Slot}
    (sets : ∀ rule ∈ (registry.rules.get? name).getD [], ∃ groups, rule = .sets groups)
    (run : Yields (resolvePorts registry name operator typesIn typesOut arguments) log
      (.found inputs outputs) after) :
    arguments.length ≤ typesIn.length ∧
      ((∃ types, Exactly operator arguments types ∧ inputs = asGiven arguments ∧
          outputs = types.map .named) ∨
        ∃ types, Settled (typesIn ++ typesOut) arguments types ∧
          splitPorts typesIn.length types = .found inputs outputs) := by
  unfold resolvePorts at run
  extract_lets count declared hasRules going at run
  have finish : ∀ types middle, Fills declared types →
      Yields (going types) middle (.found inputs outputs) after →
      ∃ found, Settled declared arguments found ∧
        splitPorts count found = .found inputs outputs := by
    intro types middle fills run
    simp -zeta only [going] at run
    split at run
    · obtain ⟨_, _, _, run⟩ := run.bind
      cases (run.pure).1
    extract_lets autos initial at run
    obtain ⟨search, _, searched, run⟩ := run.bind
    have isOpen := sound_searchTypes sets searched
    rw [isOpen.answer] at run
    dsimp only at run
    split at run
    · refine (Setback.sound fun _ => sound_failed count declared arguments _) inputs outputs
        (run.pure).1
    next needed =>
      obtain ⟨_, _, checked, run⟩ := run.bind
      have noArguments : search.candidates = [] → arguments = [] := by
        intro none
        simpa [none] using needed
      have fill : ∀ candidate ∈ search.candidates, Fills declared candidate.types :=
        fun candidate member => fills.trans (isOpen.candidates candidate member)
      exact sound_candidates fills fill noArguments (checked.lift).1 run _ _ rfl
  split at run
  · cases (run.pure).1
  next enough =>
    refine ⟨Nat.le_of_not_lt enough, ?_⟩
    split at run
    next types exactly =>
      cases (run.pure).1
      exact .inl ⟨types, exactly, rfl, rfl⟩
    next =>
      split at run
      · obtain ⟨types, middle, filled, run⟩ := run.bind
        exact .inr (finish types middle (fills_fillSuggested (filled.lift).1) run)
      · obtain ⟨_, middle, same, run⟩ := run.bind
        obtain ⟨rfl, _⟩ := same.pure
        exact .inr (finish declared middle (.refl _) run)

/-! ## The answer -/

@[simp] theorem map_name_named (types : List String) :
    (types.map Slot.named).map Slot.name = types := by
  rw [map_map]
  exact map_id types

theorem eq_of_checkSlots (checked : checkSlots slots = .ok names) :
    names = slots.map Slot.name := by
  rw [checkSlots, Act.mapM_eq_ok] at checked
  induction checked with
  | nil => rfl
  | @cons slot _ _ _ named _ ih =>
    obtain ⟨_, typed, named⟩ := Act.bind_eq_ok.mp named
    cases named
    rw [map_cons, ← ih]
    cases slot with
    | typed =>
      cases typed
      rfl
    | named =>
      obtain rfl := Typing.eq_mk_of_make typed
      rfl

/-- A type that an argument counts as: a node with one port counts as its port, whatever that is. -/
inductive CountsAs : PortType → PortType → Prop
  | port (argument : PortType) : CountsAs argument argument.onlyPort
  | deeper {argument type : PortType} : CountsAs argument.onlyPort type → CountsAs argument type

/-- Ports are not nodes themselves as a rule, and then an argument counts as one type only. -/
theorem CountsAs.eq_onlyPort (counts : CountsAs argument type)
    (flat : argument.onlyPort.onlyPort = argument.onlyPort) : type = argument.onlyPort := by
  induction counts with
  | port => rfl
  | deeper _ ih => exact (ih (congrArg PortType.onlyPort flat)).trans flat

/-- The declared types of an operator, its rules by sets of types, and no placeholder among the
declared types. -/
structure SetBased (registry : Registry) (name : String) (operator : Operator)
    (typesIn typesOut : List String) : Prop where
  entry : registry.operators.get? name = some operator
  declared : ∃ key others, operator.overloads.entries = (key, typesOut) :: others ∧
    keyTypes key = typesIn
  rules : ∀ rule ∈ (registry.rules.get? name).getD [], ∃ groups, rule = .sets groups
  concrete : ∀ type ∈ typesIn ++ typesOut, type ∉ PortType.wildcards

/-- A placeholder was found in place of `auto` when no declared type is one. -/
theorem Fills.auto_of_wildcard (fills : Fills declared types)
    (concrete : ∀ type ∈ declared, type ∉ PortType.wildcards) (found : types[index]? = some target)
    (wildcard : target ∈ PortType.wildcards) : declared[index]? = some PortType.autoName := by
  have inside : index < declared.length := by
    rw [← fills.length]
    exact (List.getElem?_eq_some_iff.mp found).1
  have known : declared[index]? = some declared[index] := List.getElem?_eq_getElem inside
  by_cases auto : declared[index] = PortType.autoName
  · rw [known, auto]
  · have same : target = declared[index] :=
      Option.some.inj (found.symm.trans (fills.keeps index _ known auto))
    exact absurd (same ▸ wildcard) (concrete _ (getElem_mem inside))

/-- Types that settle a call take every argument that was not left out. -/
theorem Settled.promotable (settled : Settled (typesIn ++ typesOut) arguments types)
    (concrete : ∀ type ∈ typesIn ++ typesOut, type ∉ PortType.wildcards)
    (enough : arguments.length ≤ typesIn.length) (given : arguments[index]? = some argument)
    (notLeftOut : argument.onlyPort.name ≠ PortType.autoName) :
    ∃ target, (types.take typesIn.length)[index]? = some target ∧
      (PortType.promotable argument.onlyPort (.mk target none) = .ok true ∨
        typesIn[index]? = some PortType.autoName ∧ Covers target argument.onlyPort) := by
  have inside : index < typesIn.length :=
    Nat.lt_of_lt_of_le (List.getElem?_eq_some_iff.mp given).1 enough
  have insideTypes : index < types.length := by
    rw [settled.fills.length, length_append]
    omega
  have found : types[index]? = some types[index] := List.getElem?_eq_getElem insideTypes
  refine ⟨types[index], by rw [List.getElem?_take_of_lt inside, found], ?_⟩
  obtain leftOut | promotable | covers := settled.suits index _ _ found given
  · exact absurd leftOut notLeftOut
  · exact .inl promotable
  · have auto := settled.fills.auto_of_wildcard concrete found covers.1
    rw [List.getElem?_append_left inside] at auto
    exact .inr ⟨auto, covers⟩

/-- Where a call is resolved by sets of types, every argument that was not left out can be promoted
to the type of its port, or that type was found in place of `auto` and is a placeholder that takes
the argument in.  There are as many types as declared ones, or there is an overload for exactly the
arguments. -/
theorem promotable_of_found {inputs outputs : List String}
    (setBased : SetBased registry name operator typesIn typesOut)
    (run : Yields (resolve registry name arguments) log (.found inputs outputs) after) :
    (∀ (index : Nat) (argument : PortType), arguments[index]? = some argument →
        (∀ type, CountsAs argument type → type.name ≠ PortType.autoName) →
        ∃ target type, inputs[index]? = some target ∧ CountsAs argument type ∧
          (PortType.promotable type (.mk target none) = .ok true ∨
            typesIn[index]? = some PortType.autoName ∧ Covers target type)) ∧
      (inputs.length = typesIn.length ∧ outputs.length = typesOut.length ∨
        ∃ types, Exactly operator (arguments.map PortType.onlyPort) types) := by
  obtain ⟨key, others, first, rfl⟩ := setBased.declared
  unfold resolve at run
  rw [setBased.entry] at run
  dsimp only at run
  rw [first] at run
  obtain ⟨resolution, _, resolved, run⟩ := run.bind
  cases resolution with
  | failed => cases (run.pure).1
  | dismissed => cases (run.pure).1
  | found =>
    obtain ⟨inNames, _, checkedIn, run⟩ := run.bind
    obtain ⟨outNames, _, checkedOut, run⟩ := run.bind
    cases (run.pure).1
    obtain rfl := eq_of_checkSlots (checkedIn.lift).1
    obtain rfl := eq_of_checkSlots (checkedOut.lift).1
    obtain ⟨enough, ⟨types, exactly, rfl, rfl⟩ | ⟨types, settled, split⟩⟩ :=
      settled_of_resolvePorts setBased.rules resolved
    · refine ⟨fun index argument given _ =>
        ⟨argument.onlyPort.name, argument.onlyPort, ?_, .port argument,
        .inl (promotable_name _)⟩, .inr ⟨types, exactly⟩⟩
      simp [asGiven, given, Slot.name]
    · cases split
      rw [map_name_named, map_name_named]
      refine ⟨fun index argument given notAuto => ?_, .inl ⟨?_, ?_⟩⟩
      · have placed : (arguments.map PortType.onlyPort)[index]? = some argument.onlyPort := by
          rw [List.getElem?_map, given]
          rfl
        obtain ⟨target, found, takes⟩ := settled.promotable setBased.concrete enough placed
          (notAuto _ (.deeper (.port _)))
        exact ⟨target, argument.onlyPort.onlyPort, found, .deeper (.port _), takes⟩
      · have length := settled.fills.length
        simp only [length_append] at length
        simp [length]
      · have length := settled.fills.length
        simp only [length_append] at length
        simp [length]

/-- An operator whose two inputs and whose output are all still to be found. -/
def pairOperator : Operator :=
  .ofPorts [("first", "auto"), ("second", "auto")] [("both", "auto")] [] none none

/-- A registry with this operator and one rule for it. -/
def pairRegistry (groups : List Group) : Registry where
  operators := ⟨[("pair", pairOperator)]⟩
  rules := ⟨[("pair", [.sets groups])]⟩
  tested := []
  skipped := []
  mustExist := false

theorem setBased_pairRegistry (groups : List Group) :
    SetBased (pairRegistry groups) "pair" pairOperator ["auto", "auto"] ["auto"] where
  entry := rfl
  declared := ⟨"auto-auto", [], rfl, by decide +kernel⟩
  rules := by
    intro _ member
    exact ⟨groups, mem_singleton.mp member⟩
  concrete := by decide +kernel

/-- A fraction, the same again, and an array of them. -/
def fractions : List Group := [⟨some (.ofNames ["float", "double"]), [.same, .computed .arrayOver]⟩]

/-- A whole number, anything, and the whole number again. -/
def wholeAndAnything : List Group := [⟨some (.ofNames ["int"]), [.fixed "*", .same]⟩]

/-- A node with one port of type `int`. -/
def wholeNode : PortType := .mk PortType.nodeName (some [("out", .mk "int" none)])

theorem promotable_of_found_fractions :
    ∃ target type, ["float", "float"][0]? = some target ∧ CountsAs wholeNode type ∧
      (PortType.promotable type (.mk target none) = .ok true ∨
        ["auto", "auto"][0]? = some PortType.autoName ∧ Covers target type) := by
  have run : Yields (resolve (pairRegistry fractions) "pair" [wholeNode, .mk "char" none]) #[]
      (.found ["float", "float"] ["array<float>"]) #[] := by
    unfold Yields
    decide +kernel
  refine (promotable_of_found (setBased_pairRegistry fractions) run).1 0 wholeNode rfl ?_
  intro type counts
  rw [counts.eq_onlyPort rfl]
  decide

/-- A type that a rule gives can be a placeholder, and then an argument need not be promotable to
it. -/
theorem found_not_promotable :
    SetBased (pairRegistry wholeAndAnything) "pair" pairOperator ["auto", "auto"] ["auto"] ∧
      Yields (resolve (pairRegistry wholeAndAnything) "pair" [.mk "int" none, .mk "string" none])
        #[] (.found ["int", "*"] ["int"]) #[] ∧
      PortType.promotable (.mk "string" none) (.mk "*" none) ≠ .ok true := by
  refine ⟨setBased_pairRegistry _, ?_, by decide +kernel⟩
  unfold Yields
  decide +kernel

end GraphScript.Overload
