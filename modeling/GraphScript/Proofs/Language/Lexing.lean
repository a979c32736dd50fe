import GraphScript.Proofs.Language.Matching

/-!
# The tokens of a script

Reading goes through a script step by step: a step reads a token or passes over something that is
none.  Every step reads at least one character, so that reading token by token gives the tokens of
the script.  What a step reads depends neither on its place in the script nor on what follows a
blank behind it.
-/

namespace GraphScript.Language

open List hiding count

variable {source : Source} {cursor next : Cursor} {rule : TokenRule} {length : Nat}
  {words after rest back : List Char} {c : Char}

/-- Every token rule reads at least one character. -/
theorem nullable_tokenRules : ∀ rule ∈ tokenRules, rule.pattern.nullable = false := by
  decide +kernel

/-! ## Blanks behind a match -/

/-- The characters that stand between tokens. -/
def blanks : List Char := [' ', '\t', '\n']

/-- A front of a text that no match leaves through a blank after it. -/
structure Apart (front : List Char) (blank : Char) : Prop where
  blank : blank ∈ blanks
  solid : ∃ c ∈ front, c ≠ '\n'

theorem avoids_enumerationValue : (blanks.all fun c => enumerationValue.avoids c) = true := by
  have words : (blanks.all fun c => enumerationWords.all fun word => c ∉ word.toList) = true := by
    decide +kernel
  have others : (blanks.all fun c => (Pattern.all [.text ".", identifier]).avoids c) = true := by
    decide +kernel
  refine all_eq_true.mpr fun c blank => Bool.and_eq_true_iff.mpr
    ⟨Pattern.avoids_any fun _ member => ?_, all_eq_true.mp others c blank⟩
  obtain ⟨word, listed, rfl⟩ := mem_map.mp member
  have free := all_eq_true.mp (all_eq_true.mp words c blank) word (mem_mergeSort.mp listed)
  exact Pattern.avoids_text (of_decide_eq_true free)

/-- Only the rule for line ends reads a blank. -/
theorem avoids_blanks : ∀ rule ∈ tokenRules, rule.pattern = .plus (.text "\n") ∨
    (blanks.all fun c => rule.pattern.avoids c) = true := by
  -- The pattern for values of enumerations sorts its words, which evaluation does not go through.
  have named : ∀ rule ∈ tokenRules, rule.kind = "ENUM_VALUE" → rule.pattern = enumerationValue := by
    simp [tokenRules, TokenRule.plain, TokenRule.mark, closing]
  have others : ∀ rule ∈ tokenRules, rule.kind ≠ "ENUM_VALUE" → rule.pattern = .plus (.text "\n") ∨
      (blanks.all fun c => rule.pattern.avoids c) = true := by
    decide +kernel
  intro rule listed
  by_cases kind : rule.kind = "ENUM_VALUE"
  · exact .inr (named rule listed kind ▸ avoids_enumerationValue)
  · exact others rule listed kind

theorem Apart.avoids (apart : Apart front c) (listed : rule ∈ tokenRules) :
    ∃ d ∈ front ++ [c], rule.pattern.avoids d = true := by
  rcases avoids_blanks rule listed with lineEnds | all
  · obtain ⟨d, member, ne⟩ := apart.solid
    have free : (Pattern.text "\n").avoids d = true := Pattern.avoids_text (by simpa using ne)
    exact ⟨d, by simp [member], by simp [lineEnds, Pattern.plus, Pattern.avoids, free]⟩
  · exact ⟨c, by simp, all_eq_true.mp all c apart.blank⟩

theorem Apart.firstMatch?_eq_none (apart : Apart front c)
    (none : firstMatch? (front ++ rest) = .none) : firstMatch? (front ++ c :: back) = .none := by
  refine List.findSome?_eq_none_iff.mpr fun rule listed => ?_
  have missed := Option.map_eq_none_iff.mp (List.findSome?_eq_none_iff.mp none rule listed)
  obtain ⟨d, member, avoids⟩ := apart.avoids listed
  rw [Pattern.first?_append_cons member avoids, Pattern.first?_eq_none missed]
  rfl

/-- Which rule matches first, and what it reads, does not depend on what follows a blank behind
it. -/
theorem firstMatch?_front (found : firstMatch? words = some (rule, length, after)) :
    rule ∈ tokenRules ∧ ∃ word, word ≠ [] ∧ words = word ++ after ∧ word.length = length ∧
      ∀ tail rest c back, after = tail ++ rest → Apart (word ++ tail) c →
      firstMatch? (word ++ (tail ++ c :: back)) = some (rule, length, tail ++ c :: back) := by
  obtain ⟨before, tried, behind, listed, found, missed⟩ := List.findSome?_eq_some_iff.mp found
  obtain ⟨_, matched, same⟩ := Option.map_eq_some_iff.mp found
  obtain ⟨rfl, rfl⟩ := Prod.mk.inj same
  obtain ⟨word, rfl, counted, isWord⟩ := Pattern.reads_of_mem_ends _ 0 words _
    (mem_of_head? matched)
  have isRule : tried ∈ tokenRules := by simp [listed]
  refine ⟨isRule, word, isWord.ne_nil (nullable_tokenRules tried isRule), rfl, by
    simpa using counted.symm, ?_⟩
  rintro _ _ c _ rfl apart
  rw [← append_assoc] at matched missed ⊢
  refine List.findSome?_eq_some_iff.mpr ⟨before, tried, behind, listed, ?_, fun rule member => ?_⟩
  · obtain ⟨d, member, avoids⟩ := apart.avoids isRule
    obtain ⟨⟨_, _⟩, insideIs, extended⟩ := Pattern.first?_eq_some matched (by simp)
    obtain ⟨rfl, joined⟩ := Prod.mk.inj extended
    obtain rfl := append_cancel_right joined
    rw [Pattern.first?_append_cons member avoids, insideIs]
    rfl
  · obtain ⟨d, inText, avoids⟩ := apart.avoids (show rule ∈ tokenRules by simp [listed, member])
    rw [Pattern.first?_append_cons inText avoids,
      Pattern.first?_eq_none (Option.map_eq_none_iff.mp (missed rule member))]
    rfl

/-! ## Quoted texts and comments -/

/-- What is left after a quoted text, if it ends. -/
def Quotation.rest? : Quotation → Option (List Char)
  | .closed _ _ rest => some rest
  | .cut _ _ rest => some rest
  | .endless => none

@[simp] theorem Quotation.rest?_push (quotation : Quotation) :
    (quotation.push c written).rest? = quotation.rest? := by
  cases quotation <;> rfl

/-- The same quotation with another text behind. -/
def Quotation.before (rest : List Char) : Quotation → Quotation
  | .closed content length _ => .closed content length rest
  | .cut content length _ => .cut content length rest
  | .endless => .endless

@[simp] theorem Quotation.before_push (quotation : Quotation) :
    (quotation.push c written).before rest = (quotation.before rest).push c written := by
  cases quotation <;> rfl

/-- Where a quoted text ends does not depend on what follows it. -/
theorem Quotation.read_front (ended : (read quote words).rest? = some after) :
    ∃ word, words = word ++ after ∧
      ∀ other, read quote (word ++ other) = (read quote words).before other := by
  fun_induction read quote words with
  | case1 | case4 => cases ended
  | case2 | case3 =>
    cases ended
    refine ⟨[_], rfl, fun other => ?_⟩
    rw [singleton_append, read.eq_def]
    simp_all [before]
  | case5 escaped _ different _ ih =>
    obtain ⟨word, rfl, same⟩ := ih (by simpa using ended)
    refine ⟨'\\' :: escaped :: word, rfl, fun other => ?_⟩
    rw [cons_append, cons_append, read.eq_def]
    simp [different, ← same other]
  | case6 c _ notQuote notEnd notEscape ih =>
    obtain ⟨word, rfl, same⟩ := ih (by simpa using ended)
    refine ⟨c :: word, rfl, fun other => ?_⟩
    rw [cons_append, read.eq_def]
    simp [notQuote, notEnd, notEscape, ← same other]

theorem passLine_front (more : (passLine cursor words count).rest ≠ []) :
    ∃ word, words = word ++ (passLine cursor words count).rest ∧
      ∀ other, (passLine cursor (word ++ other) count).rest = other := by
  fun_induction passLine cursor words count with
  | case1 | case2 => exact (more rfl).elim
  | case3 => exact ⟨['\n'], rfl, fun other => by cases other <;> simp [passLine]⟩
  | case4 c _ _ _ ne ih =>
    obtain ⟨word, split, same⟩ := ih more
    refine ⟨c :: word, congrArg _ split, fun other => ?_⟩
    cases word with
    | nil => cases same [c]
    | cons => simpa [passLine, ne] using same other

theorem passBlock_front (passed : passBlock cursor words count lineEnds = .ok next) :
    ∃ word, words = word ++ next.rest ∧
      ∀ other, (passBlock cursor (word ++ other) count lineEnds).map Cursor.rest = .ok other := by
  fun_induction passBlock cursor words count lineEnds with
  | case1 | case2 => cases passed
  | case3 _ _ _ _ _ closes =>
    obtain ⟨rfl, rfl⟩ := closes
    cases passed
    exact ⟨['*', '/'], rfl, fun other => by simp [passBlock, Except.map]⟩
  | case4 c _ _ _ _ ne ih =>
    obtain ⟨word, split, same⟩ := ih passed
    refine ⟨c :: word, congrArg _ split, fun other => ?_⟩
    cases word with
    | nil => cases same []
    | cons =>
      obtain ⟨rfl, -⟩ := cons.inj split
      simpa [passBlock, ne] using same other

/-! ## One step -/

/-- Where reading goes on. -/
def Reading.next? : Reading → Option Cursor
  | .token _ next => some next
  | .skipped next => some next
  | .finished => none

/-- The token that a step reads, if it reads one. -/
def Reading.token? : Reading → Option Token
  | .token read _ => some read
  | _ => none

/-- The kind and the text of a token, if there is one. -/
abbrev Piece : Type := Option (String × String)

def Token.face (token : Token) : String × String := (token.kind, token.text)

/-- What can be seen of a step but its place: what it reads and what is left, none for a fault, and
nothing for the end of the script. -/
def seen (step : Except Fault Reading) : Option (Option (Piece × List Char)) :=
  step.toOption.map fun reading => reading.next?.map fun next =>
    (reading.token?.map Token.face, next.rest)

theorem rest_passLine (cursor other : Cursor) (words : List Char) (count count' : Nat) :
    (passLine cursor words count).rest = (passLine other words count').rest := by
  fun_induction passLine cursor words count generalizing count' with
  | case1 | case2 => rfl
  | case3 => simp [passLine]
  | case4 _ _ _ _ ne ih => simpa [passLine, ne] using ih _

theorem rest_passBlock (cursor other : Cursor) (words : List Char)
    (count count' lineEnds lineEnds' : Nat) :
    (passBlock cursor words count lineEnds).map Cursor.rest =
      (passBlock other words count' lineEnds').map Cursor.rest := by
  fun_induction passBlock cursor words count lineEnds generalizing count' lineEnds' with
  | case1 | case2 => rfl
  | case3 _ _ _ _ _ closes => simp [passBlock, closes, Except.map]
  | case4 _ _ _ _ _ ne ih => simpa [passBlock, ne] using ih _ _

@[simp] theorem seen_passBlock :
    seen ((passBlock cursor words count lineEnds).map .skipped) =
      ((passBlock cursor words count lineEnds).map Cursor.rest).toOption.map fun left =>
        some (none, left) := by
  cases passBlock cursor words count lineEnds <;> rfl

/-- What can be seen of a step at the start of a text. -/
def peek (words : List Char) : Option (Option (Piece × List Char)) :=
  seen (readOn ⟨"", [], false⟩ (.start words))

/-- A step does not depend on the place. -/
theorem seen_readOn (source : Source) (cursor : Cursor) : seen (readOn source cursor) =
    peek cursor.rest := by
  unfold peek readOn Cursor.start
  dsimp only
  split
  · rfl
  · split
    · rfl
    · split
      · rename_i rule length after found
        unfold afterMatch
        cases rule.opening with
        | plain | word | lineEnds => rfl
        | quote =>
          dsimp only
          cases Quotation.read _ after <;> rfl
        | lineComment => exact congrArg (fun left => some (some (none, left))) (rest_passLine ..)
        | blockComment =>
          rw [seen_passBlock, seen_passBlock, rest_passBlock]
      · split <;> rfl

theorem afterMatch_front {word left : List Char}
    (sees : seen (afterMatch ⟨word ++ left, offset, line⟩ rule word.length left) =
      some (some (piece, after))) (more : piece = none → after ≠ []) :
    ∃ read, left = read ++ after ∧ ∀ other,
      seen (afterMatch ⟨word ++ (read ++ other), offset, line⟩ rule word.length (read ++ other)) =
        some (some (piece, other)) := by
  unfold afterMatch at sees ⊢
  simp only [take_left] at sees ⊢
  cases opening : rule.opening with
  | plain | word | lineEnds =>
    simp only [opening] at sees
    cases sees
    exact ⟨[], rfl, fun _ => rfl⟩
  | quote =>
    simp only [opening] at sees ⊢
    cases quotation : Quotation.read (word.headD '"') left with
    | closed | cut =>
      simp only [quotation] at sees
      cases sees
      obtain ⟨read, split, same⟩ := Quotation.read_front (congrArg Quotation.rest? quotation)
      exact ⟨read, split, fun other => by simp only [same other, quotation]; rfl⟩
    | endless =>
      simp only [quotation] at sees
      cases sees
  | lineComment =>
    simp only [opening] at sees ⊢
    cases sees
    obtain ⟨read, split, same⟩ := passLine_front (more rfl)
    exact ⟨read, split, fun other =>
      congrArg (fun left => some (some (none, left))) ((rest_passLine ..).trans (same other))⟩
  | blockComment =>
    simp only [opening, seen_passBlock] at sees ⊢
    cases passed : passBlock (Cursor.skip ⟨word ++ left, offset, line⟩ word.length left) left
      0 0 with
    | error =>
      rw [passed] at sees
      cases sees
    | ok =>
      rw [passed] at sees
      cases sees
      obtain ⟨read, split, same⟩ := passBlock_front passed
      exact ⟨read, split, fun other => by rw [rest_passBlock, same other]; rfl⟩

/-- What a step reads does not depend on what follows a blank behind it. -/
theorem peek_front (sees : peek words = some (some (piece, after)))
    (more : piece = none → after ≠ []) :
    ∃ word, word ≠ [] ∧ words = word ++ after ∧ ∀ tail rest c back, after = tail ++ rest →
      Apart (word ++ tail) c →
      peek (word ++ (tail ++ c :: back)) = some (some (piece, tail ++ c :: back)) := by
  unfold peek readOn Cursor.start at sees
  cases words with
  | nil => cases sees
  | cons d =>
    dsimp only at sees
    split at sees
    · next blank =>
      cases sees
      refine ⟨[d], by simp, rfl, ?_⟩
      rintro tail rest c back rfl apart
      exact congrArg seen (if_pos blank)
    · next solid =>
      split at sees
      · next rule length left found =>
        obtain ⟨-, word, some, split, rfl, fronted⟩ := firstMatch?_front found
        rw [split] at sees
        obtain ⟨read, rfl, same⟩ := afterMatch_front sees more
        obtain ⟨_, word, rfl⟩ := List.exists_cons_of_ne_nil some
        obtain ⟨rfl, -⟩ := List.cons.inj split
        refine ⟨d :: word ++ read, by simp, by simp [split], ?_⟩
        rintro tail rest c back rfl apart
        have again := fronted (read ++ tail) rest c back (by simp) (by simpa using apart)
        simp only [List.append_assoc, List.cons_append] at again same ⊢
        unfold peek readOn Cursor.start
        dsimp only
        rw [if_neg solid, again]
        exact same (tail ++ c :: back)
      · next missed =>
        split at sees
        · next literal =>
          cases sees
          refine ⟨[d], by simp, rfl, ?_⟩
          rintro tail _ c back rfl apart
          have again : firstMatch? (d :: (tail ++ c :: back)) = none :=
            apart.firstMatch?_eq_none missed
          unfold peek readOn Cursor.start
          dsimp only [List.singleton_append]
          rw [if_neg solid, again]
          exact congrArg seen (if_pos literal)
        · cases sees

theorem peek_of_readOn (read : readOn source cursor = .ok reading)
    (goes : reading.next? = some next) :
    peek cursor.rest = some (some (reading.token?.map Token.face, next.rest)) := by
  rw [← seen_readOn source, read, seen, Except.toOption, Option.map_some, goes, Option.map_some]

/-- Reading on leaves less of the script. -/
theorem length_readOn (read : readOn source cursor = .ok reading)
    (goes : reading.next? = some next) : next.rest.length < cursor.rest.length := by
  have sees := peek_of_readOn read goes
  by_cases last : next.rest = []
  · cases whole : cursor.rest with
    | nil =>
      rw [whole] at sees
      cases sees
    | cons => simp [last]
  · obtain ⟨_, some, split, -⟩ := peek_front sees fun _ => last
    rw [split, List.length_append]
    exact Nat.lt_add_of_pos_left (List.length_pos_iff.mpr some)

/-- The tokens do not depend on the bound, if it covers what is left of the script. -/
theorem tokensWithin_congr (source : Source) (bound other : List Char) (cursor : Cursor)
    (covers : cursor.rest.length ≤ bound.length) (covers' : cursor.rest.length ≤ other.length) :
    tokensWithin source bound cursor = tokensWithin source other cursor := by
  induction bound generalizing other cursor with
  | nil =>
    have nothing : cursor.rest = [] := List.eq_nil_of_length_eq_zero (by simpa using covers)
    cases other with
    | nil => rfl
    | cons => simp [tokensWithin, readOn, nothing]
  | cons _ bound ih =>
    cases other with
    | nil =>
      have nothing : cursor.rest = [] := List.eq_nil_of_length_eq_zero (by simpa using covers')
      simp [tokensWithin, readOn, nothing]
    | cons _ other =>
      have shorter : ∀ next, next.rest.length < cursor.rest.length →
          tokensWithin source bound next = tokensWithin source other next := by
        intro next _
        simp only [List.length_cons] at covers covers'
        exact ih other next (by omega) (by omega)
      unfold tokensWithin
      split
      · rfl
      · rfl
      · rename_i read
        rw [shorter _ (length_readOn read rfl)]
      · rename_i read
        exact shorter _ (length_readOn read rfl)

/-- The tokens after a cursor, and how reading them ends. -/
def tokensFrom (source : Source) (cursor : Cursor) : List Token × Except Fault Nat :=
  tokensWithin source cursor.rest cursor

theorem tokens_eq (source : Source) : tokens source = tokensFrom source (.start source.text) := rfl

theorem tokensFrom_eq (source : Source) (cursor : Cursor) :
    tokensFrom source cursor = tokensWithin source (' ' :: cursor.rest) cursor :=
  tokensWithin_congr _ _ _ _ (Nat.le_refl _) (Nat.le_succ _)

theorem tokensFrom_step (read : readOn source cursor = .ok reading)
    (goes : reading.next? = some next) : tokensFrom source cursor =
      (reading.token?.toList ++ (tokensFrom source next).1, (tokensFrom source next).2) := by
  have covered : tokensWithin source cursor.rest next = tokensFrom source next :=
    tokensWithin_congr _ _ _ _ (Nat.le_of_lt (length_readOn read goes)) (Nat.le_refl _)
  rw [tokensFrom_eq, tokensWithin, read, ← covered]
  cases reading <;> cases goes <;> rfl

/-- What is left is the next token and what is left after it, or nothing when there is none. -/
def Leads (source : Source) (next : Cursor) (left : List Token × Except Fault Nat) :
    Option Token → Prop
  | some token => left = (token :: (tokensFrom source next).1, (tokensFrom source next).2)
  | none => ∃ line, left = ([], .ok line)

/-- The next token is the first of those that are left. -/
theorem leads_nextToken (read : nextToken source cursor = .ok (ahead, next)) :
    Leads source next (tokensFrom source cursor) ahead := by
  have within (bound : List Char) (cursor : Cursor) (covers : cursor.rest.length ≤ bound.length)
      (read : nextTokenWithin source bound cursor = .ok (ahead, next)) :
      Leads source next (tokensFrom source cursor) ahead := by
    induction bound generalizing cursor with
    | nil =>
      cases read
      rw [tokensFrom, List.eq_nil_of_length_eq_zero (Nat.le_zero.mp covers)]
      exact ⟨_, rfl⟩
    | cons _ _ ih =>
      rw [nextTokenWithin] at read
      cases step : readOn source cursor with
      | error => rw [step] at read; cases read
      | ok reading =>
        rw [step] at read
        cases reading with
        | finished =>
          cases read
          rw [tokensFrom_eq, tokensWithin, step]
          exact ⟨_, rfl⟩
        | token =>
          cases read
          exact tokensFrom_step step rfl
        | skipped after =>
          rw [tokensFrom_step step rfl]
          exact ih after (Nat.le_of_lt_succ (Nat.lt_of_lt_of_le (length_readOn step rfl) covers))
            read
  exact within cursor.rest cursor (Nat.le_refl _) read

/-! ## Kinds of tokens -/

/-- The kinds of tokens that are longer than one character. -/
def longKinds : List String :=
  tokenRules.map (·.kind) ++ keywords.map (·.2) ++ ["ENUM", "TYPE", "NAMESPACE_NAME", "NAME"]

/-- A kind of token: one of the listed kinds, or a character. -/
def IsKind (kind : String) : Prop := kind ∈ longKinds ∨ ∃ c : Char, kind = c.toString

theorem isKind_classify (word : String) : IsKind (classify word).1 := by
  have fixed : ∀ kind ∈ ["ENUM", "TYPE", "NAMESPACE_NAME", "NAME"], IsKind kind :=
    fun kind member => .inl (mem_append_right _ member)
  unfold classify
  split
  · rename_i kind found
    obtain ⟨_, _, listed, _⟩ := lookup_eq_some_iff.mp found
    refine .inl (mem_append_left _ (mem_append_right _ ?_))
    exact mem_map.mpr ⟨(word, kind), by simp [listed], rfl⟩
  · repeat' split
    all_goals exact fixed _ (by simp)

theorem isKind_afterMatch (listed : rule ∈ tokenRules)
    (read : afterMatch cursor rule length rest = .ok (.token token next)) : IsKind token.kind := by
  have own : IsKind rule.kind :=
    .inl (mem_append_left _ (mem_append_left _ (mem_map.mpr ⟨rule, listed, rfl⟩)))
  unfold afterMatch at read
  dsimp only at read
  split at read
  · cases read; exact own
  · cases read; exact isKind_classify _
  · split at read
    · cases read; exact own
    · cases read; exact own
    · cases read
  · cases read
  · cases read
  · cases passed : passBlock (cursor.skip length rest) rest 0 0 with
    | error => rw [passed] at read; cases read
    | ok => rw [passed] at read; cases read

theorem isKind_readOn (read : readOn source cursor = .ok (.token token next)) :
    IsKind token.kind := by
  unfold readOn at read
  split at read
  · cases read
  · rename_i c rest text
    split at read
    · cases read
    · split at read
      · rename_i rule length after found
        exact isKind_afterMatch (firstMatch?_front found).1 read
      · split at read
        · cases read
          exact .inr ⟨c, rfl⟩
        · cases read

/-- Every token is read at some place. -/
theorem read_of_mem_tokensFrom :
    ∀ token ∈ (tokensFrom source cursor).1,
      ∃ place next, readOn source place = .ok (.token token next) := by
  have within : ∀ (bound : List Char) (cursor : Cursor),
      ∀ token ∈ (tokensWithin source bound cursor).1,
        ∃ place next, readOn source place = .ok (.token token next) := by
    intro bound
    induction bound with
    | nil => simp [tokensWithin]
    | cons _ _ ih =>
      intro cursor token member
      rw [tokensWithin] at member
      cases reading : readOn source cursor with
      | error => simp [reading] at member
      | ok found =>
        rw [reading] at member
        cases found with
        | finished => simp at member
        | token _ after =>
          rcases mem_cons.mp member with rfl | later
          · exact ⟨cursor, after, reading⟩
          · exact ih after token later
        | skipped after => exact ih after token member
  exact within cursor.rest cursor

/-- Every token of a script has one of the kinds of the language. -/
theorem isKind_of_mem_tokens : ∀ token ∈ (tokens source).1, IsKind token.kind := by
  intro token member
  rw [tokens_eq] at member
  obtain ⟨_, _, read⟩ := read_of_mem_tokensFrom token member
  exact isKind_readOn read

end GraphScript.Language
