import GraphScript.Elaboration.Script
import GraphScript.Proofs.Actions
import GraphScript.Proofs.Language.Lexing

/-!
# Texts between quotes

A text stands between quotes with a backslash before every character that would end it or mean
another one.  Written so, it is read back as it was, wherever it stands in a script and whatever
follows it.
-/

namespace GraphScript.Language

inductive Quote where
  | single
  | double

namespace Quote

def char : Quote → Char
  | single => '\''
  | double => '"'

/-- How a character is written between quotes. -/
def escape (quote : Quote) (c : Char) : List Char :=
  if c = '\\' ∨ c = quote.char then ['\\', c]
  else if c = '\n' then ['\\', 'n'] else if c = '\t' then ['\\', 't'] else [c]

/-- A text with its quotes. -/
def written (quote : Quote) (text : List Char) : List Char :=
  quote.char :: text.flatMap quote.escape ++ [quote.char]

end Quote

namespace Quotation

variable {quote : Quote} {c : Char} {text after : List Char}

theorem read_escape : read quote.char (quote.escape c ++ after) =
    (read quote.char after).push c (quote.escape c).length := by
  have marked (c : Char) :
      read quote.char ('\\' :: c :: after) = (read quote.char after).push (unescape c) 2 := by
    cases quote <;> simp [read, Quote.char]
  unfold Quote.escape
  split
  · next own =>
    have same : unescape c = c := by rcases own with rfl | rfl <;> cases quote <;> rfl
    simp [marked, same]
  · repeat' split
    · next own => simp [marked, own, unescape]
    · next own => simp [marked, own, unescape]
    · rw [List.singleton_append, read.eq_def]
      simp_all

/-- Reading goes through a whole text, character by character, up to the closing quote. -/
theorem read_written : read quote.char (text.flatMap quote.escape ++ quote.char :: after) =
    .closed text ((text.flatMap quote.escape).length + 1) after := by
  induction text with
  | nil => simp [read.eq_def]
  | cons _ _ ih =>
    rw [List.flatMap_cons, List.append_assoc, read_escape, ih, push, List.length_append]
    congr 1
    omega

end Quotation

theorem firstMatch?_quote (quote : Quote) (text : List Char) :
    firstMatch? (quote.char :: text) = some (⟨"STRING", .oneOf "\"'", .quote⟩, 1, text) := by
  cases quote <;> rfl

variable (source : Source) (quote : Quote) (text after : List Char) (offset line : Nat)

theorem nextToken_written :
    nextToken source ⟨quote.written text ++ after, offset, line⟩ =
      .ok (some ⟨"STRING", String.ofList (quote.char :: text ++ [quote.char]), line, offset, 1⟩,
        ⟨after, offset + (quote.written text).length, line⟩) := by
  have solid : ¬ (quote.char = ' ' ∨ quote.char = '\t') := by cases quote <;> decide
  simp only [nextToken, Quote.written, List.cons_append, List.append_assoc, nextTokenWithin, readOn,
    if_neg solid, firstMatch?_quote, afterMatch]
  simp [Quotation.read_written, Cursor.skip]
  omega

theorem unquoted_written (spot : Tree) :
    Elaboration.unquoted spot (String.ofList (quote.char :: text ++ [quote.char])) =
      pure (String.ofList text) := by
  simp [Elaboration.unquoted, Text.dropEnd, Text.dropStart, List.getLast?_cons]

/-- A text between quotes, at any place of a script and with anything after it, is read as one token
that ends right after the closing quote, and the value of this token is the text. -/
theorem value_of_written :
    ∃ token,
      Leads source ⟨after, offset + (quote.written text).length, line⟩
        (tokensFrom source ⟨quote.written text ++ after, offset, line⟩) (some token) ∧
      token.kind = "STRING" ∧ token.start = offset ∧
      ∃ expr, Syntax.piece? (.ofParts "string" [leafOf token]) = some (.expr expr) ∧
        ∀ session, Act.Yields (Elaboration.expression expr) session
          (.mk session.nextId (.value (.text (String.ofList text)) (.mk "string" none)))
          { session with nextId := session.nextId + 1 } := by
  refine ⟨_, leads_nextToken (nextToken_written source quote text after offset line), rfl, rfl, _,
    rfl, fun session => ?_⟩
  rw [Elaboration.expression, unquoted_written, pure_bind]
  rfl

end GraphScript.Language
