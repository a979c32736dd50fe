import GraphScript.Proofs.Overload.Soundness

/-!
# Candidates of a call

An argument that was left out takes the type of its port when a candidate is checked, and is then a
bare name that no later candidate can be compared with.  Where candidates are made from groups, only
the first group looks at its own port for the suggestions and the errors.
-/

namespace GraphScript.Overload

open List

/-! ## Checking -/

/-- Checks the candidates each by itself, against the same arguments. -/
def checkEach (operator : Operator) (slots : List Slot) (check : Check) :
    List Candidate → Except Fault Check
  | [] => .ok check
  | candidate :: rest => do
    match (← fitCandidate operator (candidate.promoted.any id) 0 slots candidate.types).1 with
    | .perfect => return { check with perfect := some candidate.types }
    | .loose =>
      checkEach operator slots { check with valid := check.valid ++ [candidate.types] } rest
    | .unfit reason => checkEach operator slots { check with setback := .reason reason } rest

def LeftOut (argument : PortType) : Prop := argument.onlyPort.name = PortType.autoName

/-- Arguments as they were given, but for those that were left out and have become names. -/
def Taken : List Slot → List PortType → Prop :=
  List.Forall₂ fun slot argument => slot = .typed argument ∨ LeftOut argument ∧ ∃ name,
    slot = .named name

theorem leftOut_of_fitArgument
    (fitted : fitArgument operator anyPromoted index (.typed argument) target = .ok .taken) :
    LeftOut argument := by
  simp only [fitArgument, pure, Except.pure] at fitted
  grind [LeftOut, Act.bind_eq_ok]

/-- How a candidate fits what is left of the arguments, and how it fits the arguments themselves. -/
inductive Agrees (arguments : List PortType) :
    Except Fault (CandidateFit × List Slot) → Except Fault (CandidateFit × List Slot) → Prop
  | stops {there} (leftOut : ∃ argument ∈ arguments, LeftOut argument) :
    Agrees arguments (.error .missingMember) there
  | fails (fault : Fault) : Agrees arguments (.error fault) (.error fault)
  | fits (fit : CandidateFit) {after : List Slot} (other : List Slot)
    (taken : Taken after arguments) : Agrees arguments (.ok (fit, after)) (.ok (fit, other))

/-- One more argument keeps its slot, or becomes a name if it was left out. -/
theorem Agrees.cons {next : _ → Except Fault (CandidateFit × List Slot)}
    (agrees : Agrees arguments here there) (onward : ∀ fit after other, Taken after arguments →
      Agrees (argument :: arguments) (next (fit, after)) (nextThere (fit, other))) :
    Agrees (argument :: arguments) (here >>= next) (there >>= nextThere) := by
  cases agrees with
  | stops leftOut =>
    obtain ⟨argument, member, leftOut⟩ := leftOut
    exact .stops ⟨argument, .tail _ member, leftOut⟩
  | fails fault => exact .fails fault
  | fits fit other taken => exact onward fit _ other taken

theorem agrees_fitCandidate (operator : Operator) (taken : Taken slots arguments)
    (anyPromoted : Bool) (index : Nat) (targets : List String) :
    Agrees arguments (fitCandidate operator anyPromoted index slots targets)
      (fitCandidate operator anyPromoted index (asGiven arguments) targets) := by
  induction taken generalizing index targets with
  | nil =>
    exact .fits _ _ .nil
  | @cons _ argument _ _ first rest ih =>
    cases targets with
    | nil => exact .fits _ _ (.cons first rest)
    | cons target targets =>
      obtain rfl | ⟨leftOut, _, rfl⟩ := first
      · have agrees := ih (index + 1) targets
        rw [asGiven, map_cons, ← asGiven, fitCandidate, fitCandidate]
        cases fitted : fitArgument operator anyPromoted index (.typed argument) target with
        | error fault => exact .fails fault
        | ok one =>
          cases one with
          | unfit => exact .fits _ _ (.cons (.inl rfl) rest)
          | taken =>
            have leftOut := leftOut_of_fitArgument fitted
            exact agrees.cons fun _ _ _ taken =>
              .fits _ _ (.cons (.inr ⟨leftOut, target, rfl⟩) taken)
          | «exact» | loose =>
            exact agrees.cons fun _ _ _ taken => .fits _ _ (.cons (.inl rfl) taken)
      · exact .stops ⟨argument, .head _, leftOut⟩

/-- Two checks come to the same, unless the first stops because an argument was left out. -/
def SameUnlessLeftOut (arguments : List PortType) (here there : Except Fault Check) : Prop :=
  here = there ∨ here = .error .missingMember ∧ ∃ argument ∈ arguments, LeftOut argument

theorem checkCandidates_taken (taken : Taken slots arguments) :
    SameUnlessLeftOut arguments (checkCandidates operator check slots candidates)
      (checkEach operator (asGiven arguments) check candidates) := by
  induction candidates generalizing check slots with
  | nil => exact .inl rfl
  | cons candidate _ ih =>
    rw [checkCandidates, checkEach]
    have agrees := agrees_fitCandidate operator taken (candidate.promoted.any id) 0 candidate.types
    generalize fitCandidate _ _ _ slots _ = here at agrees ⊢
    generalize fitCandidate _ _ _ (asGiven arguments) _ = there at agrees ⊢
    cases agrees with
    | stops leftOut => exact .inr ⟨rfl, leftOut⟩
    | fails => exact .inl rfl
    | fits fit _ left =>
      cases fit with
      | perfect => exact .inl rfl
      | loose | unfit => exact ih left

/-- Checking the candidates one after the other comes to the same as checking each by itself, unless
an argument was left out and the check stops with a fault. -/
theorem checkCandidates_eq_or (operator : Operator) (check : Check) (arguments : List PortType)
    (candidates : List Candidate) :
    SameUnlessLeftOut arguments (checkCandidates operator check (asGiven arguments) candidates)
      (checkEach operator (asGiven arguments) check candidates) :=
  checkCandidates_taken (forall₂_map_left_iff.mpr (forall₂_same.mpr fun _ _ => .inl rfl))

/-! ## Groups -/

/-- The places of the ports that are looked at for groups: each is as far behind the one before as
that group has derived ports. -/
def placesFrom (place : Nat) : List Group → List Nat
  | [] => []
  | group :: rest => place :: placesFrom (place + group.derived.length) rest

/-- Each group is handled by itself, with the port at its place. -/
theorem groupTypes_zip (operator : Operator) (place : Nat) (arguments : List PortType) :
    groupTypes operator place (arguments.zip groups) =
      flatten <$> ((arguments.zip groups).zip (placesFrom place groups)).mapM
        fun entry => groupTypes operator entry.2 [entry.1] := by
  induction groups generalizing place arguments with
  | nil => simp [groupTypes]
  | cons _ _ ih =>
    cases arguments with
    | nil => simp [groupTypes]
    | cons => simp [groupTypes, placesFrom, ih, bind_assoc]

theorem le_of_autoPorts (found : (autoPorts types)[index]? = some port) :
    (autoPorts types).headD 0 + index ≤ port := by
  have ascending : (autoPorts types).Pairwise (· < ·) := by
    refine List.Pairwise.sublist (filter_sublist.map Prod.snd) ?_
    rw [zipIdx_map_snd]
    exact pairwise_lt_range'
  induction index generalizing port with
  | zero => cases ports : autoPorts types <;> simp_all
  | succ index ih =>
    obtain ⟨inside, rfl⟩ := List.getElem?_eq_some_iff.mp found
    have inFront := Nat.lt_of_succ_lt inside
    have next := pairwise_iff_getElem.mp ascending index _ inFront inside (Nat.lt_succ_self index)
    have before := ih (List.getElem?_eq_getElem inFront)
    omega

/-- The port of a group is behind its place, by at least the number of groups in front of it. -/
theorem le_of_leadingPorts (count : Nat)
    (found : leadingPorts (autoPorts types) position groups = .ok leading)
    (together : start + count = (autoPorts types).headD 0 + position)
    (looked : (placesFrom start groups)[index]? = some place) (led : leading[index]? = some port) :
    place + (count + index) ≤ port := by
  induction groups generalizing position start count index leading with
  | nil => cases looked
  | cons _ _ ih =>
    obtain ⟨_, item, found⟩ := Act.bind_eq_ok.mp found
    obtain ⟨_, foundRest, found⟩ := Act.bind_eq_ok.mp found
    cases found
    cases index with
    | zero =>
      cases looked
      cases led
      have known : (autoPorts types)[position]? = some port := by
        unfold itemAt at item
        split at item <;> cases item
        assumption
      have behind := le_of_autoPorts known
      omega
    | succ =>
      have behind := ih (count + 1) foundRest (by omega) looked led
      omega

/-- A group whose argument was left out is tried with the suggestion for the port at its place, and
names that port in its errors.  It is the port of the group only for the first one; for every other
it is a port in front of it. -/
theorem groupTypes_places (operator : Operator) (arguments : List PortType)
    (found : leadingPorts (autoPorts types) 0 groups = .ok leading) :
    let places := placesFrom ((autoPorts types).headD 0) groups
    groupTypes operator ((autoPorts types).headD 0) (arguments.zip groups) =
        flatten <$> ((arguments.zip groups).zip places).mapM
          (fun entry => groupTypes operator entry.2 [entry.1]) ∧
      places.head? = leading.head? ∧
      ∀ index place port : Nat, places[index]? = some place → leading[index]? = some port →
        place + index ≤ port := by
  refine ⟨groupTypes_zip operator _ arguments, ?_, fun index place port looked led => ?_⟩
  · cases groups with
    | nil =>
      cases found
      rfl
    | cons =>
      obtain ⟨first, item, found⟩ := Act.bind_eq_ok.mp found
      obtain ⟨others, -, found⟩ := Act.bind_eq_ok.mp found
      cases found
      cases ports : autoPorts types <;> rw [ports] at item <;> cases item
      rfl
  · have behind := le_of_leadingPorts 0 found rfl looked led
    omega

/-- A group of two ports, and another one. -/
def floatsAndBool : List Group := [⟨some ⟨(· == "float")⟩, [.same]⟩, ⟨some ⟨(· == "bool")⟩, []⟩]

/-- The second group is at the last of three ports, but looks at the port in front of it. -/
theorem groupTypes_places_floats :
    leadingPorts (autoPorts ["auto", "auto", "auto"]) 0 floatsAndBool = .ok [0, 2] ∧
      (placesFrom 0 floatsAndBool)[1]? = some 1 ∧ 1 + 1 ≤ 2 := by
  have found : leadingPorts (autoPorts ["auto", "auto", "auto"]) 0 floatsAndBool = .ok [0, 2] := rfl
  have places := groupTypes_places default [.mk "float" none, .mk "auto" none] found
  exact ⟨found, rfl, places.2.2 1 1 2 rfl rfl⟩

end GraphScript.Overload
