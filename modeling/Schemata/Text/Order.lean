import Schemata.Text.CodePoint

/-!
The order of texts by code points, and parts of a text.
-/

namespace Schemata.Text

/-- Whether the first text stands before the second one or equals it, by code points. -/
def le : Text → Text → Bool
  | [], _ => true
  | _ :: _, [] => false
  | a :: left, b :: right =>
      if codeOf a < codeOf b then true
      else if codeOf b < codeOf a then false
      else le left right

theorem le_refl (text : Text) : le text text = true := by
  induction text with
  | nil => rfl
  | cons c rest ih => simp [le, ih]

theorem le_total (left right : Text) : (le left right || le right left) = true := by
  induction left generalizing right with
  | nil => simp [le]
  | cons a left ih =>
      cases right with
      | nil => simp [le]
      | cons b right =>
          have tails := ih right
          simp only [le]
          by_cases below : codeOf a < codeOf b
          · simp [below]
          · by_cases above : codeOf b < codeOf a
            · simp [above]
            · simpa [below, above] using tails

theorem le_trans {first second third : Text} (lower : le first second = true)
    (upper : le second third = true) : le first third = true := by
  induction first generalizing second third with
  | nil => rfl
  | cons a first ih =>
      cases second with
      | nil => simp [le] at lower
      | cons b second =>
          cases third with
          | nil => simp [le] at upper
          | cons c third =>
              simp only [le] at lower upper ⊢
              split at lower
              · split at upper
                · rw [if_pos (by omega)]
                · split at upper
                  · contradiction
                  · rw [if_pos (by omega)]
              · split at lower
                · contradiction
                · split at upper
                  · rw [if_pos (by omega)]
                  · split at upper
                    · contradiction
                    · rw [if_neg (by omega), if_neg (by omega)]
                      exact ih lower upper

/-- The text is the start of the other one, or has the lower code point where the two first differ. Private characters
that stand for halves of surrogate pairs have the code points of these. -/
def Precedes (left right : Text) : Prop :=
  List.Lex (fun a b => codeOf a < codeOf b) left right

theorem precedes_cons {a b : Char} {left right : Text} :
    Precedes (a :: left) (b :: right) ↔ codeOf a < codeOf b ∨ a = b ∧ Precedes left right := by
  constructor
  · rintro (_ | below | after)
    · exact .inl below
    · exact .inr ⟨rfl, after⟩
  · rintro (below | ⟨rfl, after⟩)
    · exact .rel below
    · exact .cons after

theorem le_iff {left right : Text} : le left right = true ↔ left = right ∨ Precedes left right := by
  induction left generalizing right with
  | nil => cases right <;> simp [le, Precedes]
  | cons a left ih =>
      cases right with
      | nil => simp [le, Precedes]
      | cons b right =>
          rw [precedes_cons, List.cons.injEq, le]
          by_cases below : codeOf a < codeOf b
          · simp [below]
          · by_cases above : codeOf b < codeOf a
            · have apart : a ≠ b := fun same => Nat.lt_irrefl _ (same ▸ above)
              simp [below, above, apart]
            · have same : a = b := codeOf_injective (by omega)
              simp [same, ih]

theorem le_antisymm {left right : Text} (lower : le left right = true) (upper : le right left = true) :
    left = right := by
  induction left generalizing right with
  | nil =>
      cases right with
      | nil => rfl
      | cons b right => cases upper
  | cons a left ih =>
      cases right with
      | nil => cases lower
      | cons b right =>
          simp only [le] at lower upper
          by_cases below : codeOf a < codeOf b
          · simp [below, Nat.lt_asymm below] at upper
          · by_cases above : codeOf b < codeOf a
            · simp [above, below] at lower
            · rw [if_neg below, if_neg above] at lower
              rw [if_neg above, if_neg below] at upper
              have same : a = b := codeOf_injective (by omega)
              rw [same, ih lower upper]

/-- Whether the text contains the part, all of it in a row. -/
def hasPart (part : Text) : Text → Bool
  | [] => part.isEmpty
  | c :: rest => part.isPrefixOf (c :: rest) || hasPart part rest

end Schemata.Text
