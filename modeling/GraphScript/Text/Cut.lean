/-!
# Cutting text at marks

Names, paths and messages are taken apart at fixed marks: at the first or the last occurrence of a
piece of text, at every occurrence, or at a distance from the end.  Every operation is a recursion
on the list of characters, and the operations on strings only pack and unpack that list.
-/

namespace GraphScript.Text

/-- Splits a text at the first occurrence of a mark, which belongs to neither part. -/
def splitFirst (mark : List Char) : List Char → Option (List Char × List Char)
  | [] => if mark.isEmpty then some ([], []) else none
  | head :: tail =>
    if mark.isPrefixOf (head :: tail) then some ([], (head :: tail).drop mark.length)
    else (splitFirst mark tail).map fun (front, back) => (head :: front, back)

/-- Splits a text at the last occurrence of a mark, which belongs to neither part. -/
def splitLast (mark : List Char) : List Char → Option (List Char × List Char)
  | [] => if mark.isEmpty then some ([], []) else none
  | head :: tail =>
    match splitLast mark tail with
    | some (front, back) => some (head :: front, back)
    | none =>
      if mark.isPrefixOf (head :: tail) then some ([], (head :: tail).drop mark.length) else none

/-- Splits a text at every occurrence of a character; the parts are one more than the
occurrences. -/
def splitAll (mark : Char) : List Char → List (List Char)
  | [] => [[]]
  | head :: tail =>
    if head = mark then [] :: splitAll mark tail
    else
      match splitAll mark tail with
      | part :: parts => (head :: part) :: parts
      | [] => [[head]]

theorem splitAll_ne_nil (mark : Char) (text : List Char) : splitAll mark text ≠ [] := by
  induction text with
  | nil => simp [splitAll]
  | cons head tail ih =>
    by_cases h : head = mark
    · simp [splitAll, h]
    · cases hparts : splitAll mark tail with
      | nil => exact absurd hparts ih
      | cons part parts => simp [splitAll, h, hparts]

/-- The part before the first mark, or the whole text when there is no mark. -/
def before (mark text : String) : String :=
  match splitFirst mark.toList text.toList with
  | some (front, _) => String.ofList front
  | none => text

/-- The part after the first mark, or nothing when there is no mark. -/
def after (mark text : String) : String :=
  match splitFirst mark.toList text.toList with
  | some (_, back) => String.ofList back
  | none => ""

/-- The part before the last mark, or nothing when there is no mark. -/
def beforeLast (mark text : String) : String :=
  match splitLast mark.toList text.toList with
  | some (front, _) => String.ofList front
  | none => ""

/-- The part after the last mark, or the whole text when there is no mark. -/
def afterLast (mark text : String) : String :=
  match splitLast mark.toList text.toList with
  | some (_, back) => String.ofList back
  | none => text

def holds (piece text : String) : Bool := (splitFirst piece.toList text.toList).isSome

def startsWith (piece text : String) : Bool := piece.toList.isPrefixOf text.toList

def endsWith (piece text : String) : Bool := piece.toList.isSuffixOf text.toList

def parts (mark : Char) (text : String) : List String :=
  (splitAll mark text.toList).map String.ofList

def occurrences (mark : Char) (text : String) : Nat := text.toList.count mark

/-- A text without its last characters. -/
def dropEnd (count : Nat) (text : String) : String :=
  let letters := text.toList
  String.ofList (letters.take (letters.length - count))

/-- A text without its first characters. -/
def dropStart (count : Nat) (text : String) : String := String.ofList (text.toList.drop count)

/-- The character at a distance from the end; distance one is the last character. -/
def fromEnd (distance : Nat) (text : String) : Option Char :=
  let letters := text.toList
  if distance = 0 ∨ letters.length < distance then none
  else letters[letters.length - distance]?

def trimWhere (drops : Char → Bool) (text : List Char) : List Char :=
  ((text.dropWhile drops).reverse.dropWhile drops).reverse

/-- A text without a character at both of its ends. -/
def trimChar (mark : Char) (text : String) : String :=
  String.ofList (trimWhere (· == mark) text.toList)

def repeated (count : Nat) (text : String) : String := String.join (List.replicate count text)

def replaceChar (mark : Char) (replacement text : String) : String :=
  String.ofList (text.toList.flatMap fun letter =>
    if letter = mark then replacement.toList else [letter])

/-- Replaces from left to right; `skip` characters of a replaced occurrence are still to be
passed. -/
def replaceFrom (mark replacement : List Char) : Nat → List Char → List Char
  | _, [] => []
  | skip + 1, _ :: tail => replaceFrom mark replacement skip tail
  | 0, head :: tail =>
    if !mark.isEmpty && mark.isPrefixOf (head :: tail) then
      replacement ++ replaceFrom mark replacement (mark.length - 1) tail
    else head :: replaceFrom mark replacement 0 tail

/-- Replaces the occurrences of a nonempty mark from left to right. -/
def replaceAll (mark replacement text : String) : String :=
  String.ofList (replaceFrom mark.toList replacement.toList 0 text.toList)

def width (text : String) : Nat := text.toList.length

/-! ## Order of texts -/

/-- Whether a text does not come after another one. -/
def notAfter (left right : String) : Bool := !(right < left)

/-- Texts in order. -/
def sorted (texts : List String) : List String := texts.mergeSort notAfter

/-- The first of some texts in order. -/
def first? : List String → Option String
  | [] => none
  | text :: rest => some (rest.foldl (fun least next => if next < least then next else least) text)

end GraphScript.Text
