import Schemata.Script.Comment
import Schemata.Script.Nesting
import Schemata.Text.Blank

/-!
Cutting a text at separators: a script into statements at the semicolons outside literals, and a
list into its items at the commas outside literals and parentheses. Pieces are trimmed, and empty
ones are left out.
-/

namespace Schemata.Script

/-- The raw segments between the characters that `cuts` accepts in the state of the scan. -/
def segments {σ : Type} (next : σ → Char → σ) (cuts : σ → Char → Bool) (state : σ) : Text → List Text
  | [] => [[]]
  | c :: rest =>
      if cuts state c then [] :: segments next cuts state rest
      else
        match segments next cuts (next state c) rest with
        | [] => [[c]]
        | first :: others => (c :: first) :: others

/-- The trimmed segments that are not empty. -/
def pieces (raw : List Text) : List Text :=
  (raw.map Text.trim).filter fun piece => !piece.isEmpty

def endsStatement (quote : Option Char) (c : Char) : Bool :=
  quote.isNone && c == ';'

def endsItem (nesting : Nesting) (c : Char) : Bool :=
  nesting.isOutermost && c == ','

def statementSegments (text : Text) : List Text :=
  segments quoteAfter endsStatement none text

def itemSegments (text : Text) : List Text :=
  segments Nesting.after endsItem .start text

/-- The statements of a script, without its comments. -/
def statements (script : Text) : List Text :=
  pieces (statementSegments (stripComments script))

/-- The items of a list such as the body of a table. -/
def items (body : Text) : List Text :=
  pieces (itemSegments body)

theorem segments_ne_nil {σ : Type} (next : σ → Char → σ) (cuts : σ → Char → Bool) (state : σ)
    (text : Text) : segments next cuts state text ≠ [] := by
  induction text generalizing state with
  | nil => simp [segments]
  | cons c rest ih =>
      unfold segments
      split
      · simp
      · split <;> simp

/-- Joining the segments with the separator restores the text. -/
theorem intercalate_segments {σ : Type} (next : σ → Char → σ) (cuts : σ → Char → Bool)
    (separator : Char) (only : ∀ state c, cuts state c = true → c = separator) (state : σ)
    (text : Text) : [separator].intercalate (segments next cuts state text) = text := by
  induction text generalizing state with
  | nil => simp [segments, List.intercalate]
  | cons c rest ih =>
      unfold segments
      split
      · rename_i cut
        have separated := ih state
        have same := only state c cut
        subst same
        cases tail : segments next cuts state rest with
        | nil => exact absurd tail (segments_ne_nil next cuts state rest)
        | cons first others =>
            rw [tail] at separated
            simp [List.intercalate, List.intersperse] at separated ⊢
            exact separated
      · have separated := ih (next state c)
        cases tail : segments next cuts (next state c) rest with
        | nil => exact absurd tail (segments_ne_nil next cuts (next state c) rest)
        | cons first others =>
            rw [tail] at separated
            cases others with
            | nil => simpa [List.intercalate, List.intersperse] using separated
            | cons second others => simpa [List.intercalate, List.intersperse] using separated

theorem mem_pieces_ne_nil {raw : List Text} {piece : Text} (member : piece ∈ pieces raw) : piece ≠ [] := by
  simp only [pieces, List.mem_filter] at member
  intro empty
  simp [empty] at member

end Schemata.Script
