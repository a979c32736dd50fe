import GraphScript.Proofs.Graph.Nodes
import GraphScript.Proofs.Lookup

/-!
# Names and numbers of nodes

A node is named after the last part of its kind, which is the same for all kinds that the registry
finds under one name.  The path of a node ends in its number.  Where its kind does not end in a
digit, the number can be read off the path, so nodes with different numbers have different paths.
-/

namespace GraphScript.Graph

open List

variable {name text : String} {letter : Char} {registry : Overload.Registry}

/-! ## Kinds of operators -/

theorem afterLast_resolved {table : Table Overload.Operator}
    (found : table.resolve? name = some full)
    (spaced : (Text.splitLast "::".toList name.toList).isSome) :
    Text.afterLast "::" full = Text.afterLast "::" name := by
  obtain rfl | ⟨_, rfl⟩ := Table.means_of_resolve? found
  · rfl
  · rw [← String.append_assoc, Text.afterLast_append spaced]

theorem lastPart_of_resolved (noComma : kind.toList.contains ',' = false)
    (plain : ',' ∉ last.toList)
    (resolved : ∀ full, registry.fullName? kind = some full → Text.afterLast "::" full = last) :
    Text.afterLast "," (fullKind registry kind) = last ∨
      Text.afterLast "," (fullKind registry kind) = "" := by
  unfold fullKind
  rw [noComma, if_neg Bool.false_ne_true]
  cases found : registry.fullName? kind with
  | none => exact .inr rfl
  | some full =>
    refine .inl ?_
    simp only
    rw [resolved full found]
    exact Text.afterLast_letter plain ("BifrostGraph," ++ Text.beforeLast "::" full)

/-- A node of an operator is named after the last part of the operator's name, or has only a
number. -/
theorem lastPart_fullKind (noComma : kind.toList.contains ',' = false)
    (spaced : (Text.splitLast "::".toList kind.toList).isSome)
    (plain : ',' ∉ (Text.afterLast "::" kind).toList) :
    Text.afterLast "," (fullKind registry kind) = Text.afterLast "::" kind ∨
      Text.afterLast "," (fullKind registry kind) = "" :=
  lastPart_of_resolved noComma plain fun _ found => afterLast_resolved found spaced

/-- The last part of a name that was written without namespaces. -/
theorem afterLast_short {table : Table Overload.Operator} (found : table.resolve? name = some full)
    (alone : Text.splitLast "::".toList name.toList = none)
    (marked : Text.splitLast "::".toList ("::" ++ name).toList = some ([], name.toList)) :
    Text.afterLast "::" full = name := by
  obtain rfl | ⟨_, rfl⟩ := Table.means_of_resolve? found
  · rw [Text.afterLast, alone]
  · rw [Text.afterLast_append (by rw [marked]; rfl), Text.afterLast, marked]
    exact String.ofList_toList

/-- The same for an operator whose name is written without namespaces. -/
theorem lastPart_short (noComma : kind.toList.contains ',' = false)
    (alone : Text.splitLast "::".toList kind.toList = none)
    (marked : Text.splitLast "::".toList ("::" ++ kind).toList = some ([], kind.toList)) :
    Text.afterLast "," (fullKind registry kind) = kind ∨
      Text.afterLast "," (fullKind registry kind) = "" :=
  lastPart_of_resolved noComma (by simpa using noComma) fun _ found =>
    afterLast_short found alone marked

theorem isPort_property (plain : place.isPort = false)
    (made : NodeOf tools "Core::Object::get_property" place node) : node.isPort = false := by
  obtain ⟨_, rfl⟩ := made
  refine isPort_child plain ?_
  apply noDot_number
  have last : Text.afterLast "," (fullKind tools.registry "Core::Object::get_property") = _ ∨
    _ = _ :=
    lastPart_fullKind (by decide) (by decide) (by decide)
  rcases last with same | same
  · rw [same]
    decide
  · rw [same]
    decide

/-! ## Nodes of ports -/

section Trimming

variable {drops : Char → Bool} {letters : List Char}

theorem dropWhile_of_head (front : ∀ letter ∈ letters.head?, drops letter = false) :
    letters.dropWhile drops = letters := by
  cases letters with
  | nil => rfl
  | cons first => simp [front first rfl]

theorem head_dropWhile : ∀ {letters : List Char}, ∀ letter ∈ (letters.dropWhile drops).head?,
    drops letter = false
  | [], _, member => by simp at member
  | first :: _, letter, member => by
    cases dropped : drops first with
    | true =>
      rw [dropWhile_cons_of_pos dropped] at member
      exact head_dropWhile letter member
    | false =>
      rw [dropWhile_cons_of_neg (by simp [dropped])] at member
      simp only [List.head?_cons, Option.mem_some_iff] at member
      exact member ▸ dropped

/-- Nothing is trimmed when both ends stay. -/
theorem trimWhere_of_ends (front : ∀ letter ∈ letters.head?, drops letter = false)
    (back : ∀ letter ∈ letters.getLast?, drops letter = false) :
    Text.trimWhere drops letters = letters := by
  unfold Text.trimWhere
  rw [dropWhile_of_head front, dropWhile_of_head, reverse_reverse]
  rwa [List.head?_reverse]

theorem getLast_trimWhere : ∀ letter ∈ (Text.trimWhere drops letters).getLast?,
    drops letter = false := by
  unfold Text.trimWhere
  rw [List.getLast?_reverse]
  exact head_dropWhile

theorem head_trimWhere : ∀ letter ∈ (Text.trimWhere drops letters).head?, drops letter = false := by
  intro letter member
  unfold Text.trimWhere at member
  rw [List.head?_reverse] at member
  -- what is left after the second cut still ends where the text began
  have suffix : (letters.dropWhile drops).reverse.dropWhile drops <:+
      (letters.dropWhile drops).reverse :=
    dropWhile_suffix _
  obtain ⟨_, same⟩ := suffix
  have first : letter ∈ (letters.dropWhile drops).head? := by
    rw [← List.getLast?_reverse, ← same, List.getLast?_append, Option.mem_def.mp member]
    rfl
  exact head_dropWhile letter first

end Trimming

theorem splitFirst_letter :
    ∀ {front : List Char}, letter ∉ front →
      Text.splitFirst [letter] (front ++ letter :: back) = some (front, back)
  | [], _ => by simp [Text.splitFirst, isPrefixOf]
  | first :: _, missing => by
    rw [mem_cons, not_or] at missing
    rw [cons_append, Text.splitFirst, splitFirst_letter missing.2]
    simp [isPrefixOf, missing.1]

/-- The letters of a path are a slash and the letters between the slashes at both ends. -/
theorem toList_rooted (text : String) :
    (NodePath.rooted text).text.toList = '/' :: Text.trimWhere (· == '/') text.toList := by
  simp [NodePath.rooted, Text.trimChar]

theorem rooted_of_ends (same : text.toList = '/' :: letters)
    (front : ∀ letter ∈ letters.head?, (letter == '/') = false)
    (back : ∀ letter ∈ letters.getLast?, (letter == '/') = false) :
    (NodePath.rooted text).text.toList = '/' :: letters := by
  rw [toList_rooted, same, Text.trimWhere, dropWhile_cons_of_pos (by decide)]
  have kept := trimWhere_of_ends front back
  rw [Text.trimWhere] at kept
  rw [kept]

/-- The letters of a port: those of its node, a dot, and those of its name. -/
theorem toList_port (ends : ∀ letter ∈ name.toList.getLast?, (letter == '/') = false) :
    ((NodePath.rooted text).port name).text.toList =
      (NodePath.rooted text).text.toList ++ '.' :: name.toList := by
  rw [toList_rooted, cons_append]
  refine rooted_of_ends ?_ ?_ ?_
  · simp only [String.toList_append, toList_rooted]
    simp
  · intro letter member
    cases trimmed : Text.trimWhere (· == '/') text.toList with
    | nil =>
      simp only [trimmed, nil_append, List.head?_cons, Option.mem_some_iff] at member
      exact member ▸ (by decide)
    | cons first =>
      simp only [trimmed, cons_append, List.head?_cons, Option.mem_some_iff] at member
      exact member ▸ head_trimWhere first (by rw [trimmed]; rfl)
  · intro _ member
    rw [List.getLast?_append, List.getLast?_cons] at member
    cases last : name.toList.getLast? with
    | none =>
      simp only [last, Option.getD_none, Option.some_or, Option.mem_some_iff] at member
      exact member ▸ (by decide)
    | some final =>
      simp only [last, Option.getD_some, Option.some_or, Option.mem_some_iff] at member
      exact member ▸ ends final last

/-- A path is the same when it is rooted again. -/
theorem rooted_rooted (text : String) :
    NodePath.rooted (NodePath.rooted text).text = NodePath.rooted text := by
  have letters := rooted_of_ends (toList_rooted text) head_trimWhere getLast_trimWhere
  rw [← toList_rooted] at letters
  exact congrArg NodePath.mk (String.toList_injective letters)

theorem parent_port (plain : (NodePath.rooted text).isPort = false)
    (ends : ∀ letter ∈ name.toList.getLast?, (letter == '/') = false) :
    ((NodePath.rooted text).port name).parent = NodePath.rooted text := by
  have letters : ((NodePath.rooted text).port name).text.toList = _ := toList_port ends
  have noDot : '.' ∉ (NodePath.rooted text).text.toList := by
    simpa [NodePath.isPort] using plain
  have isPort : ((NodePath.rooted text).port name).isPort = true := by
    simp [NodePath.isPort, letters]
  have front : Text.before "." ((NodePath.rooted text).port name).text =
    (NodePath.rooted text).text := by
    rw [Text.before, letters, show ".".toList = ['.'] from rfl, splitFirst_letter noDot]
    exact String.ofList_toList
  rw [NodePath.parent, isPort, if_pos rfl, front, rooted_rooted]

theorem suffix_child (place : NodePath) (starts : name.toList.head? = some first)
    (ends : name.toList.getLast? = some last)
    (noSlash : (first == '/') = false ∧ (last == '/') = false) :
    name.toList <:+ (place.child name).text.toList := by
  have kept : name.toList.dropWhile (· == '/') = name.toList := by
    refine dropWhile_of_head fun letter member => ?_
    rw [starts, Option.mem_some_iff] at member
    exact member ▸ noSlash.1
  have cut : ∃ front, (place.text ++ "/" ++ name).toList.dropWhile (· == '/') = front ++
    name.toList := by
    rw [String.toList_append, dropWhile_append]
    split
    · exact ⟨[], kept⟩
    · exact ⟨_, rfl⟩
  obtain ⟨front, cut⟩ := cut
  rw [NodePath.child, toList_rooted, Text.trimWhere, cut, dropWhile_of_head, reverse_reverse]
  · exact (suffix_append front name.toList).trans (suffix_cons '/' _)
  · intro _ member
    rw [List.head?_reverse, List.getLast?_append, ends, Option.some_or,
      Option.mem_some_iff] at member
    exact member ▸ noSlash.2

theorem input_ne_output (place : NodePath) : place.input ≠ place.output := by
  intro same
  have input : "input".toList <:+ place.input.text.toList := suffix_child place rfl rfl (by decide)
  have output : "output".toList <:+ place.output.text.toList :=
    suffix_child place rfl rfl (by decide)
  rw [same] at input
  exact absurd (suffix_of_suffix_length_le input output (by decide)) (by decide)

/-- The digits at the end of a text. -/
def trailingDigits (letters : List Char) : List Char :=
  (letters.reverse.takeWhile Char.isDigit).reverse

/-- The number at the end of the path of a node, and zero where there is none. -/
def NodePath.serial (path : NodePath) : Nat :=
  Nat.ofDigitChars 10 (trailingDigits path.text.toList) 0

/-! ## Digits at the end -/

section Digits

variable {letters front digits : List Char}

theorem trailingDigits_append (stops : ∀ letter ∈ front.getLast?, letter.isDigit = false)
    (all : ∀ letter ∈ digits, letter.isDigit = true) :
    trailingDigits (front ++ digits) = digits := by
  unfold trailingDigits
  rw [reverse_append, takeWhile_append_of_pos (by simpa using all)]
  have none : front.reverse.takeWhile Char.isDigit = [] := by
    rw [← List.head?_reverse] at stops
    cases turned : front.reverse with
    | nil => rfl
    | cons last =>
      have notDigit := stops last (by rw [turned]; rfl)
      exact takeWhile_cons_of_neg (by simp [notDigit])
  rw [none, append_nil, reverse_reverse]

theorem trailingDigits_nil (stops : ∀ letter ∈ letters.getLast?, letter.isDigit = false) :
    trailingDigits letters = [] := by
  have none := trailingDigits_append stops (forall_mem_nil _)
  rwa [append_nil] at none

theorem getLast_dropWhile :
    ∀ letter ∈ (letters.dropWhile drops).getLast?, letter ∈ letters.getLast? := by
  intro _ member
  obtain ⟨_, same⟩ := dropWhile_suffix (l := letters) drops
  rw [← same, List.getLast?_append, Option.mem_def.mp member]
  rfl

/-- The number of a path can be read off its letters. -/
theorem serial_eq {path : NodePath} (same : path.text.toList = front ++ Nat.toDigits 10 number)
    (stops : ∀ letter ∈ front.getLast?, letter.isDigit = false) : path.serial = number := by
  rw [NodePath.serial, same, trailingDigits_append stops, Nat.ofDigitChars_ten_toDigits]
  exact fun _ member => Nat.isDigit_of_mem_toDigits (by decide) (by decide) member

end Digits

/-! ## Nodes with and without a number -/

/-- The letters of a path that ends in a number: the number stays where the slashes are trimmed. -/
theorem toList_rooted_number (same : text.toList = front ++ Nat.toDigits 10 number) :
    (NodePath.rooted text).text.toList =
      '/' :: front.dropWhile (· == '/') ++ Nat.toDigits 10 number := by
  have digits : ∀ letter ∈ Nat.toDigits 10 number, (letter == '/') = false := by
    intro letter member
    have digit := Nat.isDigit_of_mem_toDigits (by decide) (by decide) member
    refine beq_eq_false_iff_ne.mpr ?_
    rintro rfl
    exact absurd digit (by decide)
  have notEmpty : Nat.toDigits 10 number ≠ [] := Nat.toDigits_ne_nil
  have cut : (front ++ Nat.toDigits 10 number).dropWhile (· == '/') =
      front.dropWhile (· == '/') ++ Nat.toDigits 10 number := by
    rw [dropWhile_append]
    split
    · rename_i gone
      rw [isEmpty_iff.mp gone, nil_append]
      exact dropWhile_of_head fun letter member => digits letter (mem_of_mem_head? member)
    · rfl
  rw [toList_rooted, same, Text.trimWhere, cut, dropWhile_of_head, reverse_reverse]
  · rfl
  · intro letter member
    rw [List.head?_reverse, List.getLast?_append_of_ne_nil _ notEmpty] at member
    exact digits letter (mem_of_getLast? member)

/-- The number of a node, where its name does not end in a digit before the number. -/
theorem serial_child (place : NodePath) (number : Nat)
    (stops : ∀ letter ∈ name.toList.getLast?, letter.isDigit = false) :
    (place.child s!"{name}{number}").serial = number := by
  have same : (place.text ++ "/" ++ s!"{name}{number}").toList =
      (place.text.toList ++ '/' :: name.toList) ++ Nat.toDigits 10 number := by
    simp [toString, Nat.repr]
  refine serial_eq (toList_rooted_number same) fun _ member => ?_
  rw [List.getLast?_cons, Option.mem_some_iff] at member
  cases kept : ((place.text.toList ++ '/' :: name.toList).dropWhile (· == '/')).getLast? with
  | none =>
    rw [kept] at member
    exact member ▸ (by decide)
  | some final =>
    rw [kept] at member
    -- what is left of the front still ends in the name
    have last := getLast_dropWhile final kept
    rw [List.getLast?_append, List.getLast?_cons] at last
    subst member
    cases ended : name.toList.getLast? with
    | none =>
      rw [ended] at last
      exact (Option.some.inj last) ▸ (by decide)
    | some other =>
      rw [ended] at last
      exact (Option.some.inj last) ▸ stops other ended

/-- A node whose name does not end in a digit has no number. -/
theorem serial_unnumbered (place : NodePath) (last : Char) (ends : name.toList.getLast? = some last)
    (notDigit : last.isDigit = false) (notSlash : (last == '/') = false) :
    (place.child name).serial = 0 := by
  have final : (place.text ++ "/" ++ name).toList.getLast? = some last := by
    simp [List.getLast?_append, List.getLast?_cons, ends]
  have cut : Text.trimWhere (· == '/') (place.text ++ "/" ++ name).toList =
      (place.text ++ "/" ++ name).toList.dropWhile (· == '/') := by
    rw [Text.trimWhere, dropWhile_of_head, reverse_reverse]
    intro letter member
    rw [List.head?_reverse] at member
    have same := getLast_dropWhile letter member
    rw [final, Option.mem_some_iff] at same
    exact same ▸ notSlash
  rw [NodePath.serial, trailingDigits_nil, Nat.ofDigitChars_nil]
  intro _ member
  rw [NodePath.child, toList_rooted, cut, List.getLast?_cons, Option.mem_some_iff] at member
  cases kept : ((place.text ++ "/" ++ name).toList.dropWhile (· == '/')).getLast? with
  | none =>
    rw [kept] at member
    exact member ▸ (by decide)
  | some other =>
    rw [kept] at member
    have same := getLast_dropWhile other kept
    rw [final, Option.mem_some_iff] at same
    exact member ▸ same ▸ notDigit

theorem serial_input (place : NodePath) : place.input.serial = 0 :=
  serial_unnumbered place 't' (by decide) (by decide) (by decide)

theorem serial_output (place : NodePath) : place.output.serial = 0 :=
  serial_unnumbered place 't' (by decide) (by decide) (by decide)

/-! ## Ports of nodes -/

/-- A name without slashes, so that a path keeps it as it is. -/
def Word (name : String) : Prop := '/' ∉ name.toList

instance (name : String) : Decidable (Word name) := inferInstanceAs (Decidable ('/' ∉ name.toList))

variable {place : NodePath} {node other : String}

theorem Word.ends (word : Word name) : ∀ letter ∈ name.toList.getLast?,
    (letter == '/') = false := by
  intro _ member
  refine beq_eq_false_iff_ne.mpr ?_
  rintro rfl
  exact word (mem_of_getLast? member)

theorem isPort_port (word : Word name) : ((place.child node).port name).isPort = true := by
  simp [NodePath.isPort, NodePath.child, toList_port word.ends]

theorem parent_portOf (plain : (place.child node).isPort = false) (word : Word name) :
    ((place.child node).port name).parent = place.child node :=
  parent_port plain word.ends

theorem name_portOf (plain : (place.child node).isPort = false) (word : Word name) :
    ((place.child node).port name).name = name := by
  have noDot : '.' ∉ (place.child node).text.toList := by
    simpa [NodePath.isPort] using plain
  rw [NodePath.child] at noDot
  rw [NodePath.name, isPort_port word, if_pos rfl, Text.after, NodePath.child,
    toList_port word.ends, show ".".toList = ['.'] from rfl, splitFirst_letter noDot]
  exact String.ofList_toList

theorem port_inj (plain : (place.child node).isPort = false) (word : Word name)
    (wordToo : Word other)
    (same : (place.child node).port name = (place.child node).port other) : name = other := by
  rw [← name_portOf plain word, same, name_portOf plain wordToo]

end GraphScript.Graph
