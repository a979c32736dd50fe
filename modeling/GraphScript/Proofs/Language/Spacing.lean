import GraphScript.Proofs.Language.Lexing

/-!
# Between tokens

Blanks, line ends and comments stand between tokens.  One more of them, right after a token or at
the start of a script, changes neither the kinds nor the texts of the tokens.
-/

namespace GraphScript.Language

open List hiding after

variable {source : Source} {cursor : Cursor} {rest : List Char} {c : Char}

/-- The kinds and the texts of tokens, and whether they go to the end of the script. -/
def outline (read : List Token × Except Fault Nat) : List (String × String) × Bool :=
  (read.1.map Token.face, read.2.isOk)

/-- What is read ahead of the rest, if it is a token. -/
def precede (piece : Piece) (later : List (String × String) × Bool) :
    List (String × String) × Bool :=
  (piece.toList ++ later.1, later.2)

@[simp] theorem precede_none : precede none later = later := rfl

theorem outline_step (source : Source) (cursor : Cursor)
    (sees : peek cursor.rest = some (some (piece, after))) :
    ∃ next, next.rest = after ∧ after.length < cursor.rest.length ∧
      outline (tokensFrom source cursor) = precede piece (outline (tokensFrom source next)) := by
  rw [← seen_readOn source] at sees
  cases step : readOn source cursor with
  | error =>
    rw [step] at sees
    cases sees
  | ok reading =>
    rw [step] at sees
    cases reading with
    | token _ next | skipped next =>
      cases sees
      exact ⟨next, rfl, length_readOn step rfl, congrArg outline (tokensFrom_step step rfl)⟩
    | finished => cases sees

theorem outline_stop (source : Source) (stops : (peek cursor.rest).join = none) :
    outline (tokensFrom source cursor) = ([], (peek cursor.rest).isSome) := by
  rw [← seen_readOn source] at stops ⊢
  rw [tokensFrom_eq, tokensWithin]
  cases step : readOn source cursor with
  | error => rfl
  | ok reading =>
    rw [step] at stops
    cases reading with
    | token | skipped => cases stops
    | finished => rfl

/-- The tokens do not depend on the place, but for their lines and offsets. -/
theorem outline_congr (source other : Source) (cursor place : Cursor)
    (same : cursor.rest = place.rest) :
    outline (tokensFrom source cursor) = outline (tokensFrom other place) := by
  induction size : cursor.rest.length using Nat.strong_induction_on generalizing cursor place with
  | _ size ih =>
    cases sees : (peek cursor.rest).join with
    | none =>
      rw [outline_stop source sees, same]
      rw [same] at sees
      rw [outline_stop other sees]
    | some found =>
      obtain ⟨_, _⟩ := found
      have sees := Option.join_eq_some_iff.mp sees
      obtain ⟨next, rfl, shorter, first⟩ := outline_step source cursor sees
      obtain ⟨next', left, -, second⟩ := outline_step other place (same ▸ sees)
      rw [first, second, ih _ (size ▸ shorter) next next' left.symm rfl]

/-- The tokens of a text, as they are wherever it stands. -/
def skim (words : List Char) : List (String × String) × Bool := outline (tokens ⟨"", words, false⟩)

theorem outline_eq_skim (source : Source) (cursor : Cursor) :
    outline (tokensFrom source cursor) = skim cursor.rest :=
  outline_congr _ _ _ (.start cursor.rest) rfl

theorem skim_step {words : List Char} (sees : peek words = some (some (piece, after))) :
    skim words = precede piece (skim after) := by
  obtain ⟨_, rfl, -, step⟩ := outline_step ⟨"", words, false⟩ (.start words) sees
  rwa [outline_eq_skim, outline_eq_skim] at step

/-! ## What stands between tokens -/

/-- Reading on from a place comes to the end of a token, with some text left. -/
inductive EndsToken (source : Source) : Cursor → List Char → Prop
  | here {cursor next : Cursor} {token : Token} :
      readOn source cursor = .ok (.token token next) → EndsToken source cursor next.rest
  | later {cursor next : Cursor} {reading : Reading} {rest : List Char} :
      readOn source cursor = .ok reading → reading.next? = some next → EndsToken source next rest →
      EndsToken source cursor rest

/-- What can be put between tokens. -/
inductive Filler : List Char → Prop
  | space : Filler [' ']
  | tab : Filler ['\t']
  | lineEnd : Filler ['\n']
  | block : ¬ ['*', '/'] <:+: content → Filler ([' ', '/', '*'] ++ content ++ ['*', '/', ' '])
  | inline : '\n' ∉ content → Filler ([' ', '/', '/'] ++ content ++ ['\n'])

theorem firstMatch?_lineEnd (words : List Char) : ∃ length, firstMatch? ('\n' :: words) =
    some (⟨"NEWLINE", .plus (.text "\n"), .lineEnds⟩, length, words.dropWhile (· = '\n')) := by
  have one (count : Nat) (words : List Char) :
      (Pattern.text "\n").ends count ('\n' :: words) = [(count + 1, words)] := rfl
  have longest (bound words : List Char) (count : Nat) (covers : words.length ≤ bound.length) :
      ∃ length, (Pattern.repeats (Pattern.text "\n").ends bound count words).head? =
        some (length, words.dropWhile (· = '\n')) := by
    induction words generalizing bound count with
    | nil => exact ⟨count, by rw [Pattern.repeats_nil]; rfl⟩
    | cons c words ih =>
      obtain ⟨_, bound, rfl⟩ :=
        exists_cons_of_length_pos (Nat.lt_of_lt_of_le (Nat.succ_pos _) covers)
      rw [Pattern.repeats]
      by_cases isEnd : c = '\n'
      · subst isEnd
        obtain ⟨length, first⟩ := ih bound (count + 1) (Nat.le_of_succ_le_succ covers)
        exact ⟨length, by simp [one, first]⟩
      · have none : (Pattern.text "\n").ends count (c :: words) = [] :=
          Pattern.ends_append_cons _ _ [] (mem_singleton_self c)
            (Pattern.avoids_text (by simpa using isEnd))
        exact ⟨count, by simp [none, isEnd]⟩
  obtain ⟨length, first⟩ := longest words words 1 (Nat.le_refl _)
  have found : (Pattern.plus (.text "\n")).first? ('\n' :: words) =
      some (length, words.dropWhile (· = '\n')) := by
    rw [Pattern.first?, Pattern.plus, Pattern.ends, one]
    simpa [Pattern.ends] using first
  exact ⟨length, by rw [firstMatch?, tokenRules, List.findSome?_cons]; simp only [found,
    Option.map_some]⟩

theorem peek_lineEnd (words : List Char) :
    peek ('\n' :: words) = some (some (none, words.dropWhile (· = '\n'))) := by
  obtain ⟨_, found⟩ := firstMatch?_lineEnd words
  simp [peek, readOn, Cursor.start, found, afterMatch, seen, Except.toOption, Reading.next?,
    Reading.token?]

theorem skim_blank (blank : c = ' ' ∨ c = '\t') (words : List Char) : skim (c :: words) =
    skim words := by
  have sees : peek (c :: words) = some (some (none, words)) := congrArg seen (if_pos blank)
  exact skim_step sees

theorem skim_lineEnd (words : List Char) : skim ('\n' :: words) = skim words := by
  have dropped (words : List Char) : skim ('\n' :: words) = skim (words.dropWhile (· = '\n')) :=
    skim_step (peek_lineEnd words)
  rw [dropped]
  cases words with
  | nil => rfl
  | cons =>
    rw [dropWhile_cons]
    split
    · next isEnd => rw [of_decide_eq_true isEnd, dropped]
    · rfl

theorem passBlock_content {content : List Char} (unclosed : ¬ ['*', '/'] <:+: content)
    (count lineEnds : Nat) :
    (passBlock cursor (content ++ '*' :: '/' :: rest) count lineEnds).map Cursor.rest =
      .ok rest := by
  induction content generalizing count lineEnds with
  | nil => simp [passBlock, Except.map]
  | cons c content ih =>
    have further := ih (fun inside => unclosed (inside.trans (suffix_cons c content).isInfix))
      (count + 1) (if c = '\n' then lineEnds + 1 else lineEnds)
    cases content with
    | nil => simpa [passBlock] using further
    | cons d content =>
      have goesOn : ¬ (c = '*' ∧ d = '/') := by
        rintro ⟨rfl, rfl⟩
        exact unclosed ⟨[], content, rfl⟩
      simpa [passBlock, goesOn] using further

theorem passLine_content {content : List Char} (within : '\n' ∉ content) (count : Nat) :
    (passLine cursor (content ++ '\n' :: rest) count).rest = rest := by
  induction content generalizing count with
  | nil => cases rest <;> simp [passLine]
  | cons c content ih =>
    simp only [mem_cons, not_or] at within
    have further := ih within.2 (count + 1)
    cases content <;> simpa [passLine, Ne.symm within.1] using further

theorem Filler.skim_append (fills : Filler filler) (rest : List Char) : skim (filler ++ rest) =
    skim rest := by
  have blank (words : List Char) : skim (' ' :: words) = skim words := skim_blank (.inl rfl) words
  cases fills with
  | space => exact blank rest
  | tab => exact skim_blank (.inr rfl) rest
  | lineEnd => exact skim_lineEnd rest
  | @block content unclosed =>
    have sees : peek ('/' :: '*' :: (content ++ '*' :: '/' :: ' ' :: rest)) =
        some (some (none, ' ' :: rest)) :=
      seen_passBlock.trans (by rw [passBlock_content unclosed]; rfl)
    simpa [blank] using (skim_step sees).trans (blank rest)
  | @inline content within =>
    have sees : peek ('/' :: '/' :: (content ++ '\n' :: rest)) = some (some (none, rest)) :=
      congrArg (fun left => some (some (none, left))) (passLine_content within 0)
    exact (blank _).trans (by simpa using skim_step sees)

theorem Filler.exists_blank (fills : Filler filler) : ∃ c ∈ blanks, ∃ back, filler = c :: back := by
  cases fills <;> exact ⟨_, by decide, _, rfl⟩

/-- A blank after a token is read with what follows it, and changes nothing before it. -/
theorem EndsToken.insert (ends : EndsToken source cursor rest) :
    ∃ front, cursor.rest = front ++ rest ∧ (∃ c ∈ front, c ≠ '\n') ∧
      ∀ c ∈ blanks, ∀ back, skim (c :: back) = skim rest → skim (front ++ c :: back) =
        skim cursor.rest := by
  induction ends with
  | @here cursor next token read =>
    have sees := peek_of_readOn read rfl
    obtain ⟨word, some, split, front⟩ := peek_front sees fun none => by cases none
    have solid : ∃ c ∈ word, c ≠ '\n' := by
      obtain ⟨first, word, rfl⟩ := exists_cons_of_ne_nil some
      refine ⟨first, by simp, ?_⟩
      rintro rfl
      rw [split, cons_append, peek_lineEnd] at sees
      cases sees
    refine ⟨word, split, solid, fun c blank back same => ?_⟩
    rw [skim_step sees, ← same]
    exact skim_step (front [] next.rest c back rfl ⟨blank, by simpa using solid⟩)
  | @later cursor next reading rest read goes _ ih =>
    obtain ⟨tail, split, ⟨d, inTail, ne⟩, insert⟩ := ih
    have sees := peek_of_readOn read goes
    obtain ⟨word, -, whole, front⟩ := peek_front sees fun _ => by simp [split, ne_nil_of_mem inTail]
    have apart (c : Char) (blank : c ∈ blanks) : Apart (word ++ tail) c :=
      ⟨blank, d, by simp [inTail], ne⟩
    refine ⟨word ++ tail, by rw [whole, split, append_assoc], ⟨d, by simp [inTail], ne⟩,
      fun c blank back same => ?_⟩
    rw [append_assoc, skim_step (front tail rest c back split (apart c blank)),
      insert c blank back same, skim_step sees]

/-- A blank, a line end or a comment that stands right after a token or at the start changes neither
the kinds nor the texts of the tokens, nor whether the script is read to its end. -/
theorem tokens_insert (source : Source) (front rest filler : List Char)
    (split : source.text = front ++ rest)
    (place : front = [] ∨ EndsToken source (.start source.text) rest) (fills : Filler filler) :
    outline (tokens { source with text := front ++ filler ++ rest }) = outline (tokens source) := by
  rw [tokens_eq, tokens_eq, outline_eq_skim, outline_eq_skim]
  have same := fills.skim_append rest
  rcases place with rfl | ends
  · rw [Cursor.start, Cursor.start, split]
    exact same
  · obtain ⟨c, blank, back, rfl⟩ := fills.exists_blank
    obtain ⟨_, whole, -, insert⟩ := ends.insert
    obtain rfl := append_cancel_right (whole.symm.trans split)
    rw [← insert c blank (back ++ rest) same, Cursor.start, append_assoc]
    rfl

/-- A comment between a quoted text and a mark. -/
theorem tokens_insert_comment :
    outline (tokens ⟨"", ['\'', 'a', '\'', ' ', '/', '*', 'b', '*', '/', ' ', '+'], false⟩) =
      outline (tokens ⟨"", ['\'', 'a', '\'', '+'], false⟩) :=
  have read : readOn ⟨"", ['\'', 'a', '\'', '+'], false⟩ (.start ['\'', 'a', '\'', '+']) =
      .ok (.token ⟨"STRING", "'a'", 1, 0, 1⟩ ⟨['+'], 3, 1⟩) := rfl
  tokens_insert ⟨"", ['\'', 'a', '\'', '+'], false⟩ ['\'', 'a', '\''] ['+']
    [' ', '/', '*', 'b', '*', '/', ' '] rfl
    (.inr (.here read)) (.block (show ¬ ['*', '/'] <:+: ['b'] by decide))

end GraphScript.Language
