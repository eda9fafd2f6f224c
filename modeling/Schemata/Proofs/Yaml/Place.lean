import Schemata.Yaml.Cursor
import Schemata.Yaml.Write

/-!
Places in a written document: where a reader stands after a part of a line, and what it finds where a
block ends.
-/

namespace Schemata.Yaml

/-- A token or a node begins with this character, which is neither white space nor a comment. -/
def beginsToken (c : Char) : Bool :=
  c != ' ' && c != '#' && !isBreak c

theorem not_isBreak_of_ne {c : Char} (shown : needsEscape c = false) (inside : c ≠ '\n') :
    isBreak c = false := by
  simp only [needsEscape, isBreak, Bool.not_eq_false', Bool.or_eq_true, beq_iff_eq, Bool.and_eq_true,
    decide_eq_true_eq, Bool.or_eq_false_iff, beq_eq_false_iff_ne] at shown ⊢
  rcases shown with rfl | ⟨_, low⟩
  · exact absurd rfl inside
  · refine ⟨⟨⟨inside, ?_⟩, ?_⟩, ?_⟩ <;> rintro rfl <;> revert low <;> decide

theorem blanks_succ (count : Nat) : blanks (count + 1) = ' ' :: blanks count := rfl

/-- Nothing follows, or a line that begins before a column. -/
inductive Outside (bound : Nat) : Text → Prop
  | done : Outside bound []
  | line {indent : Nat} {c : Char} {more : Text} (before : indent < bound)
      (begins : beginsToken c = true)
      (unmarked : startsMarker (blanks indent ++ c :: more) = false) :
      Outside bound (blanks indent ++ c :: more)

theorem Outside.mono {bound other : Nat} {tail : Text} (outside : Outside bound tail)
    (wider : bound ≤ other) : Outside other tail := by
  cases outside with
  | done => exact .done
  | line before begins unmarked => exact .line (Nat.lt_of_lt_of_le before wider) begins unmarked

namespace Cursor

variable {cursor : Cursor} {passed left : Text}

theorem forward_rest (cursor : Cursor) (count : Nat) :
    (cursor.forward count).rest = cursor.rest.drop count := by
  induction count generalizing cursor with
  | zero => rfl
  | succ count ih =>
      obtain ⟨line, column, rest⟩ := cursor
      cases rest with
      | nil => rfl
      | cons c rest =>
          rw [forward, ih]
          unfold after
          split
          · rfl
          · split <;> rfl

theorem isAt_of_rest {c d : Char} {rest : Text} (here : cursor.rest = c :: rest) (differs : c ≠ d) :
    cursor.isAt d = false := by
  rw [isAt, here]
  simpa using differs

/-- The place that is reached leaves the text behind what was passed. -/
theorem reaching_rest (read : cursor.rest = passed ++ left) : (cursor.reaching left).rest = left := by
  rw [reaching, forward_rest, read]
  simp

/-- On a line each character takes one column. -/
theorem forward_line {line column : Nat} (flat : ∀ c ∈ passed, needsEscape c = false ∧ c ≠ '\n') :
    (⟨line, column, passed ++ left⟩ : Cursor).forward passed.length =
      ⟨line, column + passed.length, left⟩ := by
  induction passed generalizing column with
  | nil => rfl
  | cons c rest ih =>
      obtain ⟨⟨shown, inside⟩, others⟩ := List.forall_mem_cons.mp flat
      have marked : (c == '\ufeff') = false := by
        rw [beq_eq_false_iff_ne]
        rintro rfl
        exact absurd shown (by decide)
      have next : (⟨line, column, c :: rest ++ left⟩ : Cursor).after c (rest ++ left) =
          ⟨line, column + 1, rest ++ left⟩ := by
        simp [after, not_isBreak_of_ne shown inside, marked]
      rw [List.length_cons, forward]
      dsimp only [List.cons_append]
      rw [← List.cons_append, next, ih others, Nat.add_right_comm, Nat.add_assoc]

theorem reaching_line {line column : Nat} (flat : ∀ c ∈ passed, needsEscape c = false ∧ c ≠ '\n') :
    (⟨line, column, passed ++ left⟩ : Cursor).reaching left = ⟨line, column + passed.length, left⟩ := by
  rw [← forward_line flat, reaching]
  simp

theorem skipFrom_blanks (line column count : Nat) (rest : Text) :
    skipFrom line column false (blanks count ++ rest) = skipFrom line (column + count) false rest := by
  induction count generalizing column with
  | zero => rfl
  | succ count ih =>
      rw [blanks_succ, List.cons_append, skipFrom, if_neg (by decide), if_neg (by decide),
        if_pos (by decide), ih, Nat.add_right_comm, Nat.add_assoc]

theorem skipFrom_token {line column : Nat} {c : Char} (begins : beginsToken c = true) (rest : Text) :
    skipFrom line column false (c :: rest) = ⟨line, column, c :: rest⟩ := by
  simp only [beginsToken, Bool.and_eq_true, bne_iff_ne, Bool.not_eq_true'] at begins
  obtain ⟨⟨blank, number⟩, unbroken⟩ := begins
  simp [skipFrom, blank, number, unbroken]

theorem next_token {line column : Nat} {c : Char} (begins : beginsToken c = true) (count : Nat)
    (rest : Text) :
    (⟨line, column, blanks count ++ c :: rest⟩ : Cursor).next = ⟨line, column + count, c :: rest⟩ := by
  rw [next, skipFrom_blanks, skipFrom_token begins]

theorem next_line {c : Char} {indent : Nat} {more : Text} (begins : beginsToken c = true)
    (broken : cursor.rest = '\n' :: (blanks indent ++ c :: more)) :
    cursor.next = ⟨cursor.line + 1, indent, c :: more⟩ := by
  rw [next, broken, skipFrom, if_pos (by decide), skipFrom_blanks, skipFrom_token begins, Nat.zero_add]

theorem next_done (broken : cursor.rest = ['\n']) : cursor.next = ⟨cursor.line + 1, 0, []⟩ := by
  rw [next, broken]
  rfl

end Cursor

end Schemata.Yaml
