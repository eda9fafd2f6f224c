import Schemata.Proofs.Text.Folded
import Schemata.Reader

/-!
Readers that do not see the case of ASCII letters. Such a reader reads a folded text in as many ways as
the text, in the same order, and what it gives and leaves is folded.
-/

namespace Schemata

open Text

def Span.folded (span : Span) : Span :=
  ⟨Text.folded span.start, Text.folded span.stop⟩

@[simp] theorem Span.text_folded (span : Span) : span.folded.text = Text.folded span.text := by
  simp only [text, Span.folded, length_folded, take_folded]

namespace Reader

variable {α β : Type}

/-- The second reader reads folded texts as the first one reads texts; `change` is what folding does to
the values. -/
def Folds (change : α → α) (one other : Reader α) : Prop :=
  ∀ text, other (folded text) = (one text).map fun (a, left) => (change a, folded left)

namespace Folds

variable {change : α → α} {one other : Reader α}

theorem pure {a b : α} (same : change a = b) : Folds change (Pure.pure a) (Pure.pure b) := by
  intro text
  rw [pure_ways, pure_ways, ← same]
  rfl

theorem bind {alter : β → β} {next after : α → Reader β} (folds : Folds change one other)
    (further : ∀ a, Folds alter (next a) (after (change a))) :
    Folds alter (one >>= next) (other >>= after) := by
  intro text
  rw [bind_ways, bind_ways, folds, List.flatMap_map, List.map_flatMap]
  exact congrArg (List.flatMap · (one text)) (funext fun way => further way.1 way.2)

theorem either {one' other' : Reader α} (folds : Folds change one other) (folds' : Folds change one' other') :
    Folds change (Reader.either one one') (Reader.either other other') := by
  intro text
  rw [Reader.either, Reader.either, folds, folds', List.map_append]

theorem char {accepted : Char → Bool} (blind : CaseBlind accepted) :
    Folds Char.toLower (Reader.char accepted) (Reader.char accepted) := by
  intro text
  cases text with
  | nil => rfl
  | cons c rest =>
      rw [folded_cons, Reader.char, Reader.char, blind c]
      split <;> rfl

theorem maybe (folds : Folds change one other) :
    Folds (Option.map change) (Reader.maybe one) (Reader.maybe other) := by
  refine .either ?_ (fun _ => rfl)
  exact folds.bind fun _ => .pure rfl

theorem captured (folds : Folds change one other) :
    Folds Span.folded (Reader.captured one) (Reader.captured other) := by
  intro text
  rw [Reader.captured, Reader.captured, folds, List.map_map, List.map_map]
  rfl

theorem first (folds : Folds change one other) (text : Text) :
    other.first (folded text) = (one.first text).map fun (a, left) => (change a, folded left) := by
  rw [Reader.first, Reader.first, ways, ways, folds, List.head?_map]

theorem accepts (folds : Folds change one other) (text : Text) :
    other.accepts (folded text) = one.accepts text := by
  rw [Reader.accepts, Reader.accepts, folds.first, Option.isSome_map]

theorem find (folds : Folds change one other) (inWord : Bool) (text : Text) :
    other.find inWord (folded text) = (one.find inWord text).map fun (a, left) => (change a, folded left) := by
  induction text generalizing inWord with
  | nil => cases inWord <;> simp [Reader.find, ← folds.first]
  | cons c rest ih =>
      have here := folds.first (c :: rest)
      rw [folded_cons] at here ⊢
      rw [Reader.find, Reader.find, here, isWordChar_caseBlind c]
      cases inWord with
      | true => exact ih _
      | false => cases one.first (c :: rest) <;> simp [ih]

theorem scan (folds : Folds change one other) (count : Nat) (text : Text) :
    other.scan count (folded text) = (one.scan count text).map change := by
  induction count generalizing text with
  | zero => cases text <;> rfl
  | succ count ih =>
      cases text with
      | nil => rfl
      | cons c rest =>
          have here := folds.first (c :: rest)
          rw [folded_cons] at here ⊢
          rw [Reader.scan, Reader.scan, here]
          cases one.first (c :: rest) <;> simp [ih]

theorem all (folds : Folds change one other) (text : Text) :
    other.all (folded text) = (one.all text).map change := by
  rw [Reader.all, Reader.all, length_folded, folds.scan]

theorem replaced (folds : Folds change one other) {replacement : Text}
    (plain : folded replacement = replacement) (text : Text) :
    other.replaced replacement (folded text) = folded (one.replaced replacement text) := by
  rw [Reader.replaced, Reader.replaced, length_folded]
  generalize text.length = count
  induction count generalizing text with
  | zero => cases text <;> rfl
  | succ count ih =>
      cases text with
      | nil => rfl
      | cons c rest =>
          have here := folds.first (c :: rest)
          rw [folded_cons] at here ⊢
          rw [replaceUpTo, replaceUpTo, here]
          cases one.first (c :: rest) with
          | none => simp [ih]
          | some way => simp [ih, plain]

end Folds

/-! ### Readers without a value -/

/-- A reader that gives no value and does not see the case of letters. -/
abbrev Blind (reader : Reader Unit) : Prop :=
  Folds id reader reader

namespace Blind

variable {reader other : Reader Unit}

theorem pure : Blind (Pure.pure ()) :=
  Folds.pure rfl

theorem afterRuns {accepted : Char → Bool} (blind : CaseBlind accepted) (text : Text) (others : List Text) :
    Reader.afterRuns accepted (folded text) (others.map folded) =
      (Reader.afterRuns accepted text others).map folded := by
  induction text generalizing others with
  | nil => rfl
  | cons c rest ih =>
      rw [folded_cons, Reader.afterRuns, Reader.afterRuns, blind c]
      split
      · exact ih ((c :: rest) :: others)
      · rfl

theorem run {accepted : Char → Bool} (blind : CaseBlind accepted) : Blind (Reader.run accepted) := by
  intro text
  have left := afterRuns blind text []
  rw [List.map_nil] at left
  rw [Reader.run, Reader.run, left, List.map_map, List.map_map]
  rfl

theorem run1 {accepted : Char → Bool} (blind : CaseBlind accepted) : Blind (Reader.run1 accepted) :=
  (Folds.char blind).bind fun _ => run blind

theorem blanks : Blind Reader.blanks :=
  run isBlank_caseBlind

theorem blanks1 : Blind Reader.blanks1 :=
  run1 isBlank_caseBlind

theorem upTo (blind : Blind reader) (count : Nat) : Blind (reader.upTo count) := by
  induction count with
  | zero => exact pure
  | succ count ih => exact (blind.bind fun _ => ih).either pure

theorem repeated (blind : Blind reader) : Blind reader.repeated := by
  intro text
  rw [Reader.repeated, Reader.repeated, length_folded]
  exact blind.upTo _ text

theorem ahead {c : Char} (caseless : Caseless c) : Blind (Reader.ahead c) := by
  intro text
  cases text with
  | nil => rfl
  | cons d rest =>
      simp only [Reader.ahead, folded_cons, List.head?_cons, Option.some.injEq, caseless.toLower_eq_iff]
      split <;> rfl

theorem wordEnd : Blind Reader.wordEnd := by
  intro text
  rw [Reader.wordEnd, Reader.wordEnd, startsWithWord_folded]
  split <;> rfl

theorem keyword (letters : Text) : Blind (Reader.keyword letters) := by
  induction letters with
  | nil => exact pure
  | cons letter letters ih => exact (Folds.char (sameLetter_caseBlind letter)).bind fun _ => ih

theorem keywords (one other : Text) : Blind (Reader.keywords one other) :=
  (keyword one).bind fun _ => blanks1.bind fun _ => keyword other

end Blind

end Reader

end Schemata
