import Schemata.Proofs.Script.Balanced

/-!
How deep a text leads into parentheses, as a count of its characters: a scan that closes nothing that is not
open keeps this count, so the parentheses of a text match exactly if no beginning of it closes more than it
opens, and the whole opens no more than it closes.
-/

namespace Schemata.Script

open Text

variable {nesting : Nesting} {text : Text}

/-- A scan that closes nothing that is not open goes as deep as the text. -/
theorem Nesting.depth_foldl (inside : Uncut after closesTooMany nesting text) :
    ((text.foldl after nesting).depth : Int) = nesting.depth + Script.depth nesting.quote text := by
  induction text generalizing nesting with
  | nil => simp [depth_nil]
  | cons c rest ih =>
      obtain ⟨fits, further⟩ := uncut_cons.mp inside
      rw [List.foldl_cons, ih further, nesting.depth_after fits, after_quote, depth_cons nesting.quote c rest]
      omega

/-- No more is closed than is open, exactly if no beginning of the text leads below the outermost level. -/
theorem uncut_closesTooMany_iff : Uncut Nesting.after closesTooMany nesting text ↔
    ∀ front rest, text = front ++ rest → 0 ≤ nesting.depth + depth nesting.quote front := by
  constructor
  · rintro inside front rest rfl
    have reached := Nesting.depth_foldl (uncut_append.mp inside).1
    omega
  · intro above
    induction text generalizing nesting with
    | nil => exact uncut_nil
    | cons c text ih =>
        have fits : closesTooMany nesting c = false := by
          refine Bool.eq_false_iff.mpr fun surplus => ?_
          obtain ⟨rfl, rfl⟩ := closesTooMany_iff.mp surplus
          exact absurd (above [')'] text rfl) (by decide)
        refine uncut_cons.mpr ⟨fits, ih fun front rest split => ?_⟩
        have further := above (c :: front) rest (congrArg (c :: ·) split)
        rw [depth_cons] at further
        rw [nesting.depth_after fits, Nesting.after_quote]
        omega

/-- The parentheses of a text match by count. -/
theorem balanced_iff_depth : Balanced text ↔ quoteAtEnd none text = none ∧ depth none text = 0 ∧
    ∀ front rest, text = front ++ rest → 0 ≤ depth none front := by
  have level : ∀ front, ((0 : Nat) : Int) + depth none front = depth none front := fun front => by simp
  have inside : Uncut Nesting.after closesTooMany .start text ↔
      ∀ front rest, text = front ++ rest → 0 ≤ depth none front := by
    rw [uncut_closesTooMany_iff]
    simp only [Nesting.start, level]
  rw [balanced_iff, inside, and_comm, ← and_assoc]
  refine and_congr_left fun above => ?_
  have quote := Nesting.foldl_after_quote .start text
  have reached := Nesting.depth_foldl (inside.mpr above)
  rw [show Nesting.start.quote = none from rfl] at quote reached
  rw [show Nesting.start.depth = 0 from rfl, level] at reached
  constructor
  · intro closed
    rw [closed] at quote reached
    exact ⟨quote.symm, reached.symm⟩
  · rintro ⟨closed, zero⟩
    rw [closed] at quote
    rw [zero] at reached
    change Nesting.mk (text.foldl Nesting.after .start).quote (text.foldl Nesting.after .start).depth = .start
    rw [quote, Int.natCast_eq_zero.mp reached]
    rfl

end Schemata.Script
