import GraphScript.Text.Cut
import Mathlib.Data.List.Forall2

/-!
# Cutting texts that are put together

What the parts of a text before and after a mark are, when it is known where the mark stands.
-/

namespace GraphScript.Text

open List

theorem splitLast_eq_none (absent : first ∉ letters) :
    splitLast (first :: rest) letters = none := by
  induction letters with
  | nil => rfl
  | cons _ _ ih =>
    rw [mem_cons, not_or] at absent
    simp [splitLast, ih absent.2, absent.1]

theorem splitFirst_eq_none (absent : first ∉ letters) :
    splitFirst (first :: rest) letters = none := by
  induction letters with
  | nil => rfl
  | cons _ _ ih =>
    rw [mem_cons, not_or] at absent
    simp [splitFirst, ih absent.2, absent.1]

theorem splitLast_append (found : splitLast mark text = some (front, back)) :
    ∀ before : List Char, splitLast mark (before ++ text) = some (before ++ front, back)
  | [] => found
  | first :: rest => by
    rw [cons_append, splitLast, splitLast_append found rest]
    rfl

theorem splitFirst_append (absent : letter ∉ front) :
    splitFirst [letter] (front ++ letter :: back) = some (front, back) := by
  induction front with
  | nil => simp [splitFirst]
  | cons _ _ ih =>
    rw [mem_cons, not_or] at absent
    simp [splitFirst, ih absent.2, absent.1]

theorem afterLast_append {mark : String} (found : (splitLast mark.toList text.toList).isSome)
    (before : String) : afterLast mark (before ++ text) = afterLast mark text := by
  obtain ⟨⟨_, _⟩, same⟩ := Option.isSome_iff_exists.mp found
  rw [afterLast, afterLast, String.toList_append, splitLast_append same, same]

/-- What stands behind a single letter, when that letter comes no more. -/
theorem afterLast_letter (missing : letter ∉ back.toList) (front : String) :
    afterLast (String.singleton letter) (front ++ String.singleton letter ++ back) = back := by
  have alone : splitLast [letter] (letter :: back.toList) = some ([], back.toList) := by
    simp [splitLast, splitLast_eq_none missing]
  rw [afterLast]
  simp only [String.toList_append, String.toList_singleton, append_assoc, singleton_append]
  rw [splitLast_append alone]
  simp

/-- What stands before a single letter that has not come yet. -/
theorem before_letter (missing : letter ∉ front.toList) (back : String) :
    before (String.singleton letter) (front ++ String.singleton letter ++ back) = front := by
  rw [before]
  simp [splitFirst_append missing]

theorem fromEnd_append (front back : String) (near : distance ≤ back.toList.length) :
    fromEnd distance (front ++ back) = fromEnd distance back := by
  simp only [fromEnd, String.toList_append, length_append]
  by_cases zero : distance = 0
  · simp [zero]
  · rw [if_neg (by omega), if_neg (by omega), List.getElem?_append_right (by omega)]
    congr 1
    omega

theorem dropEnd_append (front back : String) :
    dropEnd back.toList.length (front ++ back) = front := by
  simp [dropEnd]

/-! ## Spelling -/

/-- The letters of a text. -/
inductive Spelled : List Char → String → Prop
  | packed (letters : List Char) : Spelled letters (String.ofList letters)
  | append {front back : List Char} {first second : String} :
      Spelled front first → Spelled back second → Spelled (front ++ back) (first ++ second)

theorem Spelled.toList (spelled : Spelled letters text) : text.toList = letters := by
  induction spelled with
  | packed => exact String.toList_ofList
  | append _ _ first second => rw [String.toList_append, first, second]

/-- Of two lists that correspond, what holds of every entry of the first is known of every entry of
the second. -/
theorem exists_of_forall₂ {related : α → β → Prop} {good : α → Prop} {left : List α}
    {right : List β} (match₂ : List.Forall₂ related left right) (all : ∀ entry ∈ left, good entry) :
    ∀ entry ∈ right, ∃ other, good other ∧ related other entry := by
  induction match₂ with
  | nil => simp
  | cons head _ ih =>
    obtain ⟨first, others⟩ := forall_mem_cons.mp all
    exact forall_mem_cons.mpr ⟨⟨_, first, head⟩, ih others⟩

end GraphScript.Text
