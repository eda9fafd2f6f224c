import Schemata.Ddl.ColumnDefinition
import Schemata.Proofs.Reader.Readings

/-!
Texts without their lists in parentheses. A list ends at the first parenthesis that closes, also where others
open in it, so what is left of nested or unbalanced parentheses still holds some of them; but no parenthesis is
left that closes behind one that opens, and taking the lists once more takes nothing.
-/

namespace Schemata.Ddl

open Text Reader

variable {text inside left rest : Text} {c : Char}

/-! ### Readings of lists -/

theorem first_parenthesized (closed : ∀ c ∈ inside, (c != ')') = true) (rest : Text) :
    parenthesized.first ('(' :: (inside ++ ')' :: rest)) = some (inside, rest) := by
  refine first_bind (first_char (by decide)) ?_
  refine first_bind (first_captured (first_run closed (ends_cons.mpr (by decide)))) ?_
  refine first_bind (first_char (by decide)) ?_
  rw [Span.text_append]
  rfl

theorem exists_of_mem_parenthesized (member : (inside, left) ∈ parenthesized text) :
    text = '(' :: (inside ++ ')' :: left) := by
  obtain ⟨c, _, opening, onward⟩ := mem_bind.mp member
  obtain ⟨same, rfl⟩ := mem_char.mp opening
  obtain ⟨span, _, within, onward'⟩ := mem_bind.mp onward
  obtain ⟨rfl, _, run⟩ := mem_captured.mp within
  obtain ⟨cs, rfl, _⟩ := mem_run.mp run
  obtain ⟨d, _, closing, finish⟩ := mem_bind.mp onward'
  obtain ⟨same', rfl⟩ := mem_char.mp closing
  obtain ⟨rfl, rfl⟩ := Prod.mk.inj (List.mem_singleton.mp finish)
  rw [Span.text_append, eq_of_beq same, eq_of_beq same']

theorem parenthesized_shortens : parenthesized.Shortens := by
  rintro text ⟨inside, left⟩ member
  rw [exists_of_mem_parenthesized member]
  simp
  omega

theorem refuses_parenthesized (other : c ≠ '(') : parenthesized.Refuses (c :: rest) := by
  refine List.eq_nil_iff_forall_not_mem.mpr fun _ member => ?_
  exact other (List.cons.inj (exists_of_mem_parenthesized member)).1

theorem refuses_parenthesized_open : parenthesized.Refuses ('(' :: rest) ↔ ')' ∉ rest := by
  constructor
  · intro refuses closing
    obtain ⟨inside, left, rfl, first⟩ := List.eq_append_cons_of_mem closing
    have read := first_parenthesized (forall_bne_iff.mpr first) left
    rw [refuses.first] at read
    cases read
  · refine fun unclosed => List.eq_nil_iff_forall_not_mem.mpr fun _ member => unclosed ?_
    rw [(List.cons.inj (exists_of_mem_parenthesized member)).2]
    exact List.mem_append_cons_self

/-! ### What is left without the lists -/

/-- No parenthesis of the text closes behind one that opens. -/
def ClosesNone (text : Text) : Prop :=
  ¬ ['(', ')'].Sublist text

theorem closesNone_cons (other : c ≠ '(') : ClosesNone (c :: rest) ↔ ClosesNone rest := by
  simp [ClosesNone, List.sublist_cons_iff, Ne.symm other]

theorem closesNone_opening : ClosesNone ('(' :: rest) ↔ ')' ∉ rest := by
  rw [ClosesNone, List.cons_sublist_cons, List.singleton_sublist]

theorem closesNone_of_not_mem (unclosed : ')' ∉ rest) : ClosesNone rest :=
  fun sublist => unclosed (sublist.mem (by decide))

/-- A text without lists stays as it is. -/
theorem ClosesNone.replaced_eq (none' : ClosesNone text) : parenthesized.replaced [] text = text := by
  induction text with
  | nil => rfl
  | cons c rest ih =>
      by_cases opening : c = '('
      · subst opening
        have unclosed := closesNone_opening.mp none'
        rw [(refuses_parenthesized_open.mpr unclosed).replaced_eq, ih (closesNone_of_not_mem unclosed)]
      · rw [(refuses_parenthesized opening).replaced_eq, ih ((closesNone_cons opening).mp none')]

/-- Taking the lists of a text makes no new one of what stood on either side. -/
theorem closesNone_replaced (text : Text) : ClosesNone (parenthesized.replaced [] text) := by
  induction text using parenthesized_shortens.replacedInduction with
  | nil => exact closesNone_of_not_mem List.not_mem_nil
  | passed c rest refuses ih =>
      by_cases opening : c = '('
      · subst opening
        have none' : ClosesNone ('(' :: rest) := closesNone_opening.mpr (refuses_parenthesized_open.mp refuses)
        rwa [none'.replaced_eq]
      · rw [refuses.replaced_eq]
        exact (closesNone_cons opening).mpr ih
  | read text inside left read ih =>
      rw [parenthesized_shortens.replaced_of_first read]
      exact ih

end Schemata.Ddl
