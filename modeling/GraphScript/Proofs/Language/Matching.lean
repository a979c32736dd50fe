import GraphScript.Language.Lexer
import Mathlib.Data.Char
import Mathlib.Data.List.Basic

/-!
# What a pattern matches

Wherever a match ends, it has read a word of the pattern.  The ways to match that end inside of a
front of the text do not depend on what follows the front, so a match is the same before any text
that begins with a character that no word of the pattern has.
-/

namespace GraphScript.Pattern

open List hiding length set

/-- Whether a pattern can match without reading anything. -/
def nullable : Pattern → Bool
  | .empty => true
  | .one _ => false
  | .seq first second => second.nullable && first.nullable
  | .alt left right => left.nullable || right.nullable
  | .star _ => true

/-- The words that a pattern stands for. -/
inductive Matches : Pattern → List Char → Prop
  | empty : Matches .empty []
  | one {set : CharSet} {c : Char} : set.has c = true → Matches (.one set) [c]
  | seq {first second : Pattern} {front back : List Char} :
      Matches first front → Matches second back → Matches (.seq first second) (front ++ back)
  | left {left right : Pattern} {word : List Char} : Matches left word →
      Matches (.alt left right) word
  | right {left right : Pattern} {word : List Char} : Matches right word →
      Matches (.alt left right) word
  | none {body : Pattern} : Matches (.star body) []
  | more {body : Pattern} {front back : List Char} :
      Matches body front → Matches (.star body) back → Matches (.star body) (front ++ back)

/-- What is read from a text up to a stop is a word of the pattern. -/
def Reads (pattern : Pattern) (count : Nat) (text : List Char) (stop : End) : Prop :=
  ∃ word, text = word ++ stop.2 ∧ stop.1 = count + word.length ∧ pattern.Matches word

theorem Reads.append {first second whole : Pattern} {count : Nat} {text : List Char}
    (joins : ∀ {front back}, first.Matches front → second.Matches back →
      whole.Matches (front ++ back))
    (reads : first.Reads count text middle) (readsOn : second.Reads middle.1 middle.2 stop) :
    whole.Reads count text stop := by
  obtain ⟨front, split, length, matched⟩ := reads
  obtain ⟨back, splitBack, lengthBack, matchedBack⟩ := readsOn
  refine ⟨front ++ back, ?_, ?_, joins matched matchedBack⟩
  · rw [split, splitBack, append_assoc]
  · rw [lengthBack, length, length_append, Nat.add_assoc]

theorem reads_of_mem_repeats
    (reads : ∀ count text, ∀ stop ∈ body.ends count text, body.Reads count text stop)
    (bound : List Char) (count : Nat) (text : List Char) :
    ∀ stop ∈ repeats body.ends bound count text, (star body).Reads count text stop := by
  have nothing : ∀ count text, (star body).Reads count text (count, text) :=
    fun count text => ⟨[], rfl, rfl, .none⟩
  induction bound generalizing count text with
  | nil =>
    intro stop member
    rw [mem_singleton.mp member]
    exact nothing count text
  | cons _ _ ih =>
    intro stop member
    rw [repeats, mem_append, mem_singleton] at member
    rcases member with further | rfl
    · obtain ⟨middle, stepped, last⟩ := mem_flatMap.mp further
      split at last
      · cases last
      · exact .append .more (reads count text middle stepped) (ih _ _ stop last)
    · exact nothing count text

/-- Wherever a match ends, it has read a word of the pattern. -/
theorem reads_of_mem_ends (pattern : Pattern) (count : Nat) (text : List Char) :
    ∀ stop ∈ pattern.ends count text, pattern.Reads count text stop := by
  induction pattern generalizing count text with
  | empty =>
    intro stop member
    rw [mem_singleton.mp member]
    exact ⟨[], rfl, rfl, .empty⟩
  | one =>
    intro stop member
    cases text with
    | nil => cases member
    | cons c =>
      rw [ends] at member
      split at member
      · rename_i isIn
        rw [mem_singleton.mp member]
        exact ⟨[c], rfl, rfl, .one isIn⟩
      · cases member
  | seq _ _ firstReads secondReads =>
    intro stop member
    obtain ⟨middle, front, back⟩ := mem_flatMap.mp member
    exact .append .seq (firstReads _ _ middle front) (secondReads _ _ stop back)
  | alt left right leftReads rightReads =>
    intro stop member
    rcases mem_append.mp member with inLeft | inRight
    · obtain ⟨word, split, length, matched⟩ := leftReads _ _ stop inLeft
      exact ⟨word, split, length, .left matched⟩
    · obtain ⟨word, split, length, matched⟩ := rightReads _ _ stop inRight
      exact ⟨word, split, length, .right matched⟩
  | star _ reads => exact reads_of_mem_repeats reads text count text

theorem Matches.ne_nil {pattern : Pattern} (matched : pattern.Matches word)
    (reads : pattern.nullable = false) : word ≠ [] := by
  induction matched with
  | empty | none => cases reads
  | one => exact cons_ne_nil _ _
  | seq _ _ first second =>
    rcases Bool.and_eq_false_iff.mp reads with secondReads | firstReads
    · exact append_ne_nil_of_right_ne_nil _ (second secondReads)
    · exact append_ne_nil_of_left_ne_nil (first firstReads) _
  | left _ ih => exact ih (Bool.or_eq_false_iff.mp reads).1
  | right _ ih => exact ih (Bool.or_eq_false_iff.mp reads).2
  | more => cases reads

/-! ## What follows a match -/

/-- No word of the pattern has the character. -/
def avoids (c : Char) : Pattern → Bool
  | .empty => true
  | .one set => !set.has c
  | .seq first second => first.avoids c && second.avoids c
  | .alt left right => left.avoids c && right.avoids c
  | .star body => body.avoids c

theorem Matches.not_mem (matched : Matches pattern word) (avoids : pattern.avoids c = true) :
    c ∉ word := by
  induction matched with
  | empty | none => exact not_mem_nil
  | one isIn =>
    intro member
    cases mem_singleton.mp member
    simp [Pattern.avoids, isIn] at avoids
  | seq _ _ first second =>
    simp only [Pattern.avoids, Bool.and_eq_true] at avoids
    simp [first avoids.1, second avoids.2]
  | left _ ih => exact ih (Bool.and_eq_true_iff.mp avoids).1
  | right _ ih => exact ih (Bool.and_eq_true_iff.mp avoids).2
  | more _ _ first second => simp [first avoids, second avoids]

theorem not_mem_of_first? {pattern : Pattern} {text rest : List Char}
    (avoids : pattern.avoids letter = true) (found : pattern.first? text = some (length, rest)) :
    letter ∉ text.take length := by
  obtain ⟨word, split, same, matched⟩ := reads_of_mem_ends pattern 0 text _ (mem_of_head? found)
  have same : length = word.length := by simpa using same
  rw [split, same, take_left]
  exact matched.not_mem avoids

theorem avoids_text {word : String} (free : c ∉ word.toList) : (text word).avoids c = true := by
  unfold text
  generalize word.toList = letters at free ⊢
  induction letters with
  | nil => rfl
  | cons _ _ ih =>
    simp only [mem_cons, not_or] at free
    simpa [avoids, CharSet.has, ih free.2] using lt_or_gt_of_ne free.1

theorem avoids_any {patterns : List Pattern}
    (each : ∀ pattern ∈ patterns, pattern.avoids c = true) : (any patterns).avoids c = true := by
  fun_induction any patterns with
  | case1 => rfl
  | case2 => exact each _ (mem_singleton_self _)
  | case3 _ _ _ ih =>
    have ⟨head, tail⟩ := forall_mem_cons.mp each
    simp [avoids, head, ih tail]

variable (body pattern : Pattern) (count : Nat) (front rest : List Char)

/-- The ends of a match that leave some text, which stands at the end. -/
def within (rest : List Char) (stops : List End) : List End :=
  stops.filter fun stop => rest.length ≤ stop.2.length

/-- The same end with some text behind. -/
def extend (rest : List Char) (stop : End) : End := (stop.1, stop.2 ++ rest)

variable {pattern count} in
theorem length_of_mem_ends {words : List Char} {stop : End}
    (member : stop ∈ pattern.ends count words) :
    count ≤ stop.1 ∧ stop.1 + stop.2.length = count + words.length := by
  obtain ⟨_, rfl, _, -⟩ := reads_of_mem_ends _ _ _ _ member
  rw [length_append]
  omega

variable {body count} in
theorem length_of_mem_repeats {bound words : List Char} {stop : End}
    (member : stop ∈ repeats body.ends bound count words) : stop.2.length ≤ words.length := by
  obtain ⟨_, rfl, -, -⟩ := reads_of_mem_repeats (reads_of_mem_ends body) _ _ _ _ member
  simp

theorem repeats_nil (bound : List Char) : repeats body.ends bound count [] = [(count, [])] := by
  cases bound with
  | nil => rfl
  | cons =>
    refine append_left_eq_self.mpr (flatMap_eq_nil_iff.mpr fun _ member => if_pos ?_)
    have := length_of_mem_ends member
    rw [length_nil] at this
    omega

theorem repeats_congr (bound other words : List Char) (covers : words.length ≤ bound.length)
    (covers' : words.length ≤ other.length) :
    repeats body.ends bound count words = repeats body.ends other count words := by
  induction bound generalizing other count words with
  | nil => rw [eq_nil_of_length_eq_zero (Nat.le_zero.mp covers), repeats_nil, repeats_nil]
  | cons _ _ ih =>
    cases other with
    | nil => rw [eq_nil_of_length_eq_zero (Nat.le_zero.mp covers'), repeats_nil, repeats_nil]
    | cons =>
      simp only [length_cons] at covers covers'
      rw [repeats, repeats]
      congr 1
      refine flatMap_congr fun _ member => ?_
      have := length_of_mem_ends member
      split
      · rfl
      · exact ih _ _ _ (by omega) (by omega)

theorem within_flatMap (stops : List End) (step : End → List End)
    (shrinks : ∀ stop ∈ stops, ∀ next ∈ step stop, next.2.length ≤ stop.2.length) :
    within rest (stops.flatMap step) = (within rest stops).flatMap fun stop =>
      within rest (step stop) := by
  induction stops with
  | nil => rfl
  | cons stop _ ih =>
    obtain ⟨first, others⟩ := forall_mem_cons.mp shrinks
    rw [flatMap_cons, within, filter_append, ← within, ← within, ih others]
    by_cases leaves : rest.length ≤ stop.2.length
    · simp [within, leaves]
    · have far : within rest (step stop) = [] :=
        filter_eq_nil_iff.mpr fun next member => by
          have := first next member
          rw [decide_eq_true_iff]
          omega
      rw [far, nil_append, within, within, filter_cons_of_neg (by simpa using leaves)]

/-- The ways to match that stop inside of a front do not depend on what follows it. -/
theorem within_ends : within rest (pattern.ends count (front ++ rest)) =
    (pattern.ends count front).map (extend rest) := by
  induction pattern generalizing count front with
  | empty => simp [ends, within, extend]
  | one =>
    cases front with
    | nil => cases rest <;> simp [ends, within, apply_ite]
    | cons =>
      simp only [ends, cons_append]
      split <;> simp [within, extend]
  | seq _ _ firstIs secondIs =>
    rw [ends, within_flatMap, firstIs, flatMap_map, ends, map_flatMap]
    · exact flatMap_congr fun stop _ => secondIs stop.1 stop.2
    · intro stop _ next member
      have := length_of_mem_ends member
      omega
  | alt _ _ leftIs rightIs =>
    rw [ends, ends, map_append, ← leftIs, ← rightIs]
    exact filter_append ..
  | star body bodyIs =>
    have bounded (bound : List Char) (count : Nat) (front : List Char) :
        within rest (repeats body.ends bound count (front ++ rest)) =
          (repeats body.ends bound count front).map (extend rest) := by
      induction bound generalizing count front with
      | nil => simp [repeats, within, extend]
      | cons _ _ ih =>
        rw [repeats, repeats, map_append, map_flatMap, within, filter_append, ← within,
          within_flatMap, bodyIs, flatMap_map]
        · congr 1
          · refine flatMap_congr fun stop _ => ?_
            by_cases same : stop.1 = count
            · simp [extend, same, within]
            · simp [extend, same, ih]
          · simp [extend]
        · intro _ _ _ member
          split at member
          · cases member
          · exact length_of_mem_repeats member
    rw [ends, bounded, ends, repeats_congr _ _ _ front _ (by simp) (Nat.le_refl _)]

/-- A match does not go beyond a character that the pattern avoids. -/
theorem ends_append_cons {c d : Char} {back : List Char} (member : d ∈ front ++ [c])
    (avoids : pattern.avoids d = true) :
    pattern.ends count (front ++ c :: back) = (pattern.ends count front).map
      (extend (c :: back)) := by
  rw [← within_ends]
  refine (filter_eq_self.mpr fun stop stops => ?_).symm
  obtain ⟨word, split, -, matched⟩ := reads_of_mem_ends _ _ _ _ stops
  rw [decide_eq_true_iff]
  by_contra shorter
  have reaches : front ++ [c] <+: front ++ c :: back := ⟨back, by simp⟩
  have covered : front ++ [c] <+: word := by
    refine prefix_of_prefix_length_le reaches ⟨stop.2, split.symm⟩ ?_
    have := congrArg List.length split
    simp only [length_append, length_cons, length_nil] at this shorter ⊢
    omega
  exact matched.not_mem avoids (covered.subset member)

variable {pattern front rest}

theorem first?_append_cons {c d : Char} {back : List Char} (member : d ∈ front ++ [c])
    (avoids : pattern.avoids d = true) :
    pattern.first? (front ++ c :: back) = (pattern.first? front).map (extend (c :: back)) := by
  rw [first?, ends_append_cons _ _ _ member avoids, List.head?_map, first?]

theorem first?_eq_none (none : pattern.first? (front ++ rest) = .none) :
    pattern.first? front = .none := by
  have inside := within_ends pattern 0 front rest
  rw [List.head?_eq_none_iff.mp none] at inside
  exact List.head?_eq_none_iff.mpr (map_eq_nil_iff.mp inside.symm)

theorem first?_eq_some {stop : End} (found : pattern.first? (front ++ rest) = some stop)
    (leaves : rest.length ≤ stop.2.length) :
    ∃ inner, pattern.first? front = some inner ∧ extend rest inner = stop := by
  obtain ⟨_, stops⟩ := List.head?_eq_some_iff.mp found
  have inside := within_ends pattern 0 front rest
  rw [stops, within, filter_cons_of_pos (by simpa using leaves)] at inside
  obtain ⟨inner, _, ends, same, -⟩ := map_eq_cons_iff.mp inside.symm
  exact ⟨inner, by rw [first?, ends, List.head?_cons], same⟩

end GraphScript.Pattern
