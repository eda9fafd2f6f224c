import Schemata.Proofs.Script.Closing
import Schemata.Proofs.Script.Separated

/-!
Texts whose parentheses match and whose literals are closed. What parentheses enclose is such a text, two
of them make another one, and a list that is one can be followed by one more item.
-/

namespace Schemata.Script

open Text

instance Uncut.decidable {σ : Type} {next : σ → Char → σ} {cuts : σ → Char → Bool} :
    (state : σ) → (text : Text) → Decidable (Uncut next cuts state text)
  | _, [] => .isTrue uncut_nil
  | state, c :: rest =>
      have : Decidable (Uncut next cuts (next state c) rest) := decidable (next state c) rest
      decidable_of_iff (cuts state c = false ∧ Uncut next cuts (next state c) rest) uncut_cons.symm

/-- A parenthesis closes that was not opened. -/
def closesTooMany (nesting : Nesting) (c : Char) : Bool :=
  nesting.isOutermost && c == ')'

theorem closesTooMany_iff {nesting : Nesting} {c : Char} :
    closesTooMany nesting c = true ↔ nesting = .start ∧ c = ')' := by
  obtain ⟨quote, depth⟩ := nesting
  simp [closesTooMany, Nesting.isOutermost, Nesting.start]

/-- The parentheses of the text match, and its literals are closed. -/
structure Balanced (text : Text) : Prop where
  inside : Uncut Nesting.after closesTooMany .start text
  closed : text.foldl Nesting.after .start = .start

theorem balanced_iff {text : Text} : Balanced text ↔
    Uncut Nesting.after closesTooMany .start text ∧ text.foldl Nesting.after .start = .start :=
  ⟨fun balanced => ⟨balanced.inside, balanced.closed⟩, fun both => ⟨both.1, both.2⟩⟩

instance (text : Text) : Decidable (Balanced text) :=
  decidable_of_iff _ balanced_iff.symm

variable {left right inner text rest : Text}

theorem Balanced.append (balanced : Balanced left) (balanced' : Balanced right) : Balanced (left ++ right) where
  inside := uncut_append.mpr ⟨balanced.inside, by rw [balanced.closed]; exact balanced'.inside⟩
  closed := by rw [List.foldl_append, balanced.closed, balanced'.closed]

theorem Balanced.quoteAtEnd (balanced : Balanced inner) : quoteAtEnd none inner = none := by
  have same := Nesting.foldl_after_quote .start inner
  rw [balanced.closed] at same
  exact same.symm

/-- One step of a scan goes as deep as its character. -/
theorem Nesting.depth_after (nesting : Nesting) {c : Char} (fits : closesTooMany nesting c = false) :
    ((nesting.after c).depth : Int) = nesting.depth + Script.depth nesting.quote [c] := by
  obtain ⟨quote, level⟩ := nesting
  cases quote with
  | some q => rw [depth_quoted, Int.add_zero, after]
  | none =>
      by_cases opens : c = '('
      · subst opens
        rfl
      · by_cases closes : c = ')'
        · subst closes
          have positive : level ≠ 0 := by simpa [closesTooMany, isOutermost] using fits
          have one : Script.depth none [')'] = -1 := rfl
          change ((level - 1 : Nat) : Int) = level + Script.depth none [')']
          omega
        · rw [depth_of_ne opens closes, Int.add_zero, after, if_neg opens, if_neg closes]

/-- Behind a parenthesis that opens, the search for the one that closes keeps step with the scan of a list, until
it comes to a parenthesis that the scan has not seen open. -/
theorem closing_cons (nesting : Nesting) (c : Char) (rest : Text) :
    closing nesting.quote (nesting.depth + 1) (c :: rest) =
      if closesTooMany nesting c then some 0
      else (closing (nesting.after c).quote ((nesting.after c).depth + 1) rest).map (· + 1) := by
  have ends : nesting.quote = none ∧ c = ')' ∧ (nesting.depth : Int) + 1 = 1 ↔ closesTooMany nesting c = true := by
    obtain ⟨quote, depth⟩ := nesting
    have one : (depth : Int) + 1 = 1 ↔ depth = 0 := by omega
    simp [closesTooMany, Nesting.isOutermost, one, and_assoc, and_comm]
  rw [closing_step]
  cases fits : closesTooMany nesting c with
  | true => rw [if_pos (ends.mpr fits), if_pos rfl]
  | false =>
      have deeper : (nesting.depth : Int) + 1 + depth nesting.quote [c] = (nesting.after c).depth + 1 := by
        rw [nesting.depth_after fits]
        omega
      rw [if_neg (by rw [ends, fits]; exact Bool.false_ne_true), if_neg Bool.false_ne_true, deeper,
        Nesting.after_quote]

/-- Nothing closes exactly if the scan has seen open whatever closes. -/
theorem closing_eq_none_iff (nesting : Nesting) (text : Text) :
    closing nesting.quote (nesting.depth + 1) text = none ↔ Uncut Nesting.after closesTooMany nesting text := by
  induction text generalizing nesting with
  | nil => exact iff_of_true rfl uncut_nil
  | cons c text ih =>
      rw [closing_cons, uncut_cons]
      cases closesTooMany nesting c with
      | true => simp
      | false =>
          rw [if_neg Bool.false_ne_true, Option.map_eq_none_iff, ih]
          simp

/-- The parenthesis behind a balanced text is the one that closes. -/
theorem closing_of_uncut {nesting : Nesting} (inside : Uncut Nesting.after closesTooMany nesting inner)
    (closed : inner.foldl Nesting.after nesting = .start) (rest : Text) :
    closing nesting.quote (nesting.depth + 1) (inner ++ ')' :: rest) = some inner.length := by
  induction inner generalizing nesting with
  | nil =>
      obtain rfl : nesting = .start := closed
      rfl
  | cons c inner ih =>
      obtain ⟨open', further⟩ := uncut_cons.mp inside
      rw [List.cons_append, closing_cons, open', if_neg Bool.false_ne_true, ih further closed]
      rfl

/-- What stands before the parenthesis that closes brings the scan back to its start. -/
theorem exists_of_closing {nesting : Nesting} {close : Nat}
    (found : closing nesting.quote (nesting.depth + 1) text = some close) :
    ∃ inner rest, text = inner ++ ')' :: rest ∧ inner.length = close ∧
      Uncut Nesting.after closesTooMany nesting inner ∧ inner.foldl Nesting.after nesting = .start := by
  induction text generalizing nesting close with
  | nil => cases found
  | cons c text ih =>
      rw [closing_cons] at found
      cases ends : closesTooMany nesting c with
      | true =>
          rw [ends, if_pos rfl] at found
          obtain rfl := Option.some.inj found
          obtain ⟨rfl, rfl⟩ := closesTooMany_iff.mp ends
          exact ⟨[], text, rfl, rfl, uncut_nil, rfl⟩
      | false =>
          rw [ends, if_neg Bool.false_ne_true] at found
          obtain ⟨close', further, rfl⟩ := Option.map_eq_some_iff.mp found
          obtain ⟨inner, rest, rfl, rfl, inside, closed⟩ := ih further
          exact ⟨c :: inner, rest, rfl, rfl, uncut_cons.mpr ⟨ends, inside⟩, closed⟩

/-- The parenthesis that closes the one at the head of a text is the one behind a balanced text. -/
theorem matchingParen_eq_some_iff {close : Nat} : matchingParen ('(' :: text) 0 = some close ↔
    ∃ inner rest, text = inner ++ ')' :: rest ∧ inner.length + 1 = close ∧ Balanced inner := by
  have head : matchingParen ('(' :: text) 0 =
      (closing Nesting.start.quote (Nesting.start.depth + 1) text).map (· + 1) := by
    rw [matchingParen, List.drop_zero, closing, if_pos rfl, Option.map_map]
    refine congrArg (Option.map · _) (funext fun offset => Nat.zero_add _)
  rw [head]
  constructor
  · intro found
    obtain ⟨offset, scan, rfl⟩ := Option.map_eq_some_iff.mp found
    obtain ⟨inner, rest, whole, rfl, inside, closed⟩ := exists_of_closing scan
    exact ⟨inner, rest, whole, rfl, inside, closed⟩
  · rintro ⟨inner, rest, rfl, rfl, balanced⟩
    rw [closing_of_uncut balanced.inside balanced.closed rest]
    rfl

theorem enclosed_of_balanced (balanced : Balanced inner) (rest : Text) :
    enclosed ('(' :: inner ++ ')' :: rest) = some (inner, rest) := by
  rw [enclosed, List.cons_append, matchingParen_eq_some_iff.mpr ⟨inner, rest, rfl, rfl, balanced⟩]
  simp

/-- Parentheses enclose a balanced text and nothing else. -/
theorem enclosed_eq_some_iff :
    enclosed ('(' :: text) = some (inner, rest) ↔ text = inner ++ ')' :: rest ∧ Balanced inner := by
  constructor
  · intro found
    obtain ⟨close, matched, parts⟩ := Option.map_eq_some_iff.mp found
    obtain ⟨body, after, rfl, rfl, balanced⟩ := matchingParen_eq_some_iff.mp matched
    obtain ⟨rfl, rfl⟩ := Prod.mk.inj parts
    simp only [List.take_succ_cons, List.take_left, List.drop_succ_cons, List.drop_zero]
    refine ⟨?_, balanced⟩
    simp
  · rintro ⟨rfl, balanced⟩
    exact enclosed_of_balanced balanced rest

/-- A list with one more item behind a comma and a space. -/
theorem items_append {list item : Text} (balanced : Balanced list)
    (uncut : Uncut Nesting.after endsItem .start item) (solid : Solid item) :
    items (list ++ ',' :: ' ' :: item) = items list ++ [item] := by
  have last : Uncut Nesting.after endsItem .start (' ' :: item) := uncut_cons.mpr ⟨rfl, uncut⟩
  have trimmed : trim (' ' :: item) = item := by
    have whole : trim ([' '] ++ (item ++ [])) = item := trim_append (by decide) (by simp) solid.first solid.last
    rwa [List.append_nil] at whole
  rw [items, itemSegments, endsItem_separates.segments_append balanced.closed, pieces_append, segments_of_uncut last]
  simp [items, itemSegments, pieces, trimmed, solid.some']

end Schemata.Script
