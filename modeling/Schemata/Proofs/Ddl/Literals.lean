import Schemata.Ddl.ColumnDefinition
import Schemata.Proofs.Reader.Readings

/-!
Texts whose literals are emptied. Emptying keeps what stands outside of the literals, never makes a text
longer, and shortens it wherever a literal has something in it.
-/

namespace Schemata.Ddl

open Text Reader

variable {text left rest other : Text} {c : Char}

/-! ### Ends of literals -/

theorem afterLiteral_eq_none_iff : afterLiteral text = none ↔ '\'' ∉ text := by
  fun_induction afterLiteral text with
  | case1 => simp
  | case2 rest ih => simp
  | case3 rest _ => simp
  | case4 c rest _ other ih => simp [ih, Ne.symm other]

theorem exists_of_afterLiteral (found : afterLiteral text = some left) : ∃ inside, text = inside ++ '\'' :: left := by
  fun_induction afterLiteral text with
  | case1 => cases found
  | case2 rest ih =>
      cases later : afterLiteral rest with
      | none =>
          rw [later] at found
          obtain rfl := Option.some.inj found
          exact ⟨[], rfl⟩
      | some after =>
          rw [later] at found
          obtain rfl := Option.some.inj found
          obtain ⟨inside, rfl⟩ := ih later
          exact ⟨'\'' :: '\'' :: inside, rfl⟩
  | case3 rest _ =>
      obtain rfl := Option.some.inj found
      exact ⟨[], rfl⟩
  | case4 c rest _ _ ih =>
      obtain ⟨inside, rfl⟩ := ih found
      exact ⟨c :: inside, rfl⟩

/-- A literal that ends in one of two texts ends where it does in the first alone, or in the second. -/
theorem afterLiteral_append (apart : other.head? ≠ some '\'') (found : afterLiteral (text ++ other) = some left) :
    (∃ behind, left = behind ++ other ∧ afterLiteral text = some behind) ∨ ∃ before, other = before ++ '\'' :: left := by
  fun_induction afterLiteral text with
  | case1 => exact .inr (exists_of_afterLiteral found)
  | case2 rest ih =>
      rw [List.cons_append, List.cons_append, afterLiteral] at found
      cases later : afterLiteral (rest ++ other) with
      | none =>
          rw [later] at found
          obtain rfl := Option.some.inj found
          have closed : afterLiteral rest = none := by
            rw [afterLiteral_eq_none_iff, List.mem_append, not_or] at later
            exact afterLiteral_eq_none_iff.mpr later.1
          exact .inl ⟨'\'' :: rest, rfl, by rw [closed]; rfl⟩
      | some after =>
          rw [later] at found
          obtain rfl := Option.some.inj found
          exact (ih later).imp_left fun ⟨behind, split, closed⟩ => ⟨behind, split, by rw [closed]; rfl⟩
  | case3 rest single =>
      refine .inl ⟨rest, ?_, rfl⟩
      rw [List.cons_append, afterLiteral] at found
      · exact (Option.some.inj found).symm
      · intro after same
        cases rest with
        | nil => exact apart (congrArg List.head? same)
        | cons d rest =>
            obtain ⟨rfl, _⟩ := List.cons.inj same
            exact single rest rfl
  | case4 c rest pair single ih =>
      rw [List.cons_append, afterLiteral] at found
      · exact ih found
      · intro after same _
        exact single same
      · exact single

/-! ### Emptied literals -/

theorem first_literal (rest : Text) : literal.first ('\'' :: rest) = (afterLiteral rest).map fun left => ((), left) := by
  rw [first, ways, literal]
  cases afterLiteral rest <;> rfl

theorem refuses_literal (plain : c ≠ '\'') : literal.Refuses (c :: rest) := by
  rw [Refuses, literal]
  intro after quoted
  exact plain (List.cons.inj quoted).1

theorem refuses_literal_open (unclosed : afterLiteral rest = none) : literal.Refuses ('\'' :: rest) := by
  rw [Refuses, literal, unclosed]
  rfl

theorem exists_of_mem_literal {way : Unit × Text} (member : way ∈ literal text) :
    ∃ rest, text = '\'' :: rest ∧ afterLiteral rest = some way.2 := by
  match text with
  | [] => cases member
  | c :: rest =>
      by_cases quote : c = '\''
      · subst quote
        rw [literal, Option.mem_toList] at member
        obtain ⟨after, closed, rfl⟩ := Option.map_eq_some_iff.mp member
        exact ⟨rest, rfl, closed⟩
      · rw [refuses_literal quote] at member
        cases member

theorem literal_shortens : literal.Shortens := by
  intro text way member
  obtain ⟨rest, rfl, closed⟩ := exists_of_mem_literal member
  obtain ⟨inside, rfl⟩ := exists_of_afterLiteral closed
  simp
  omega

theorem withoutLiterals_cons (plain : c ≠ '\'') (rest : Text) :
    withoutLiterals (c :: rest) = c :: withoutLiterals rest :=
  (refuses_literal plain).replaced_eq

theorem withoutLiterals_open (unclosed : afterLiteral rest = none) :
    withoutLiterals ('\'' :: rest) = '\'' :: withoutLiterals rest :=
  (refuses_literal_open unclosed).replaced_eq

theorem withoutLiterals_closed (closed : afterLiteral rest = some left) :
    withoutLiterals ('\'' :: rest) = '\'' :: '\'' :: withoutLiterals left := by
  refine literal_shortens.replaced_of_first (a := ()) ?_
  rw [first_literal, closed]
  rfl

/-- What holds of a text is carried over characters outside of literals, over a quote that opens none, and
over literals as a whole. -/
@[elab_as_elim]
theorem literalInduction {motive : Text → Prop} (nil : motive [])
    (plain : ∀ c rest, c ≠ '\'' → motive rest → motive (c :: rest))
    (unclosed : ∀ rest, afterLiteral rest = none → motive rest → motive ('\'' :: rest))
    (closed : ∀ inside left, afterLiteral (inside ++ '\'' :: left) = some left → motive left →
      motive ('\'' :: (inside ++ '\'' :: left)))
    (text : Text) : motive text := by
  induction text using literal_shortens.replacedInduction with
  | nil => exact nil
  | passed c rest refuses ih =>
      by_cases quote : c = '\''
      · subst quote
        have none' := refuses.first
        rw [first_literal, Option.map_eq_none_iff] at none'
        exact unclosed rest none' ih
      · exact plain c rest quote ih
  | read text a left read ih =>
      obtain ⟨rest, rfl, found⟩ := exists_of_mem_literal (List.mem_of_mem_head? read)
      obtain ⟨inside, rfl⟩ := exists_of_afterLiteral found
      exact closed inside left found ih

theorem withoutLiterals_of_not_mem (unquoted : '\'' ∉ text) : withoutLiterals text = text := by
  induction text with
  | nil => rfl
  | cons c text ih =>
      obtain ⟨plain, further⟩ := not_or.mp (mt List.mem_cons.mpr unquoted)
      rw [withoutLiterals_cons (Ne.symm plain), ih further]

theorem withoutLiterals_append_left (unquoted : '\'' ∉ text) (rest : Text) :
    withoutLiterals (text ++ rest) = text ++ withoutLiterals rest := by
  induction text with
  | nil => rfl
  | cons c text ih =>
      obtain ⟨plain, further⟩ := not_or.mp (mt List.mem_cons.mpr unquoted)
      rw [List.cons_append, withoutLiterals_cons (Ne.symm plain), ih further, List.cons_append]

theorem count_withoutLiterals_le (c : Char) (text : Text) : (withoutLiterals text).count c ≤ text.count c := by
  induction text using literalInduction with
  | nil => exact Nat.le_refl _
  | plain d rest other ih =>
      rw [withoutLiterals_cons other, List.count_cons, List.count_cons]
      omega
  | unclosed rest open' ih =>
      rw [withoutLiterals_open open', List.count_cons, List.count_cons]
      omega
  | closed inside left closed ih =>
      rw [withoutLiterals_closed closed]
      simp only [List.count_cons, List.count_append]
      omega

theorem mem_of_mem_withoutLiterals (member : c ∈ withoutLiterals text) : c ∈ text :=
  List.count_pos_iff.mp (Nat.lt_of_lt_of_le (List.count_pos_iff.mpr member) (count_withoutLiterals_le c text))

theorem length_withoutLiterals_le (text : Text) : (withoutLiterals text).length ≤ text.length := by
  induction text using literalInduction with
  | nil => exact Nat.le_refl _
  | plain c rest other ih =>
      rw [withoutLiterals_cons other]
      exact Nat.succ_le_succ ih
  | unclosed rest open' ih =>
      rw [withoutLiterals_open open']
      exact Nat.succ_le_succ ih
  | closed inside left closed ih =>
      rw [withoutLiterals_closed closed]
      simp only [List.length_cons, List.length_append]
      omega

/-- A text that is not shortened has nothing in its literals. -/
theorem withoutLiterals_eq_of_length_le (kept : text.length ≤ (withoutLiterals text).length) :
    withoutLiterals text = text := by
  induction text using literalInduction with
  | nil => rfl
  | plain c rest other ih =>
      rw [withoutLiterals_cons other] at kept ⊢
      rw [ih (Nat.le_of_succ_le_succ kept)]
  | unclosed rest open' ih =>
      rw [withoutLiterals_open open'] at kept ⊢
      rw [ih (Nat.le_of_succ_le_succ kept)]
  | closed inside left closed ih =>
      have shorter := length_withoutLiterals_le left
      rw [withoutLiterals_closed closed] at kept ⊢
      simp only [List.length_cons, List.length_append] at kept
      obtain rfl : inside = [] := List.eq_nil_of_length_eq_zero (by omega)
      rw [ih (by omega)]
      rfl

theorem head?_withoutLiterals (text : Text) : (withoutLiterals text).head? = text.head? := by
  induction text using literalInduction with
  | nil => rfl
  | plain c rest other _ => rw [withoutLiterals_cons other]; rfl
  | unclosed rest open' _ => rw [withoutLiterals_open open']; rfl
  | closed inside left closed _ => rw [withoutLiterals_closed closed]; rfl

theorem getLast?_withoutLiterals (text : Text) : (withoutLiterals text).getLast? = text.getLast? := by
  induction text using literalInduction with
  | nil => rfl
  | plain c rest other ih => rw [withoutLiterals_cons other, List.getLast?_cons, List.getLast?_cons, ih]
  | unclosed rest open' ih => rw [withoutLiterals_open open', List.getLast?_cons, List.getLast?_cons, ih]
  | closed inside left closed ih =>
      rw [withoutLiterals_closed closed, List.getLast?_cons_cons, List.getLast?_cons, ih]
      simp [List.getLast?_cons, List.getLast?_append]

/-- A text in front of another one is emptied on its own, unless a literal reaches from the one into the
other. -/
theorem withoutLiterals_append (apart : other.head? ≠ some '\'') (text : Text) :
    withoutLiterals (text ++ other) = withoutLiterals text ++ withoutLiterals other ∨
      ∃ front before behind, other = before ++ '\'' :: behind ∧
        withoutLiterals (text ++ other) = front ++ '\'' :: '\'' :: withoutLiterals behind ∧
        (∀ c ∈ front, c ∈ text) ∧ front.count '\'' < text.count '\'' := by
  -- The induction is on the length, since a closed literal leaves a text that is shorter by more than one character.
  induction size : text.length using Nat.strong_induction_on generalizing text with
  | h size ih =>
  subst size
  cases text with
  | nil => exact .inl rfl
  | cons c rest =>
      have onward := ih rest.length (Nat.lt_succ_self _) rest rfl
      by_cases quote : c = '\''
      · subst quote
        cases found : afterLiteral (rest ++ other) with
        | none =>
            have unclosed : afterLiteral rest = none := by
              rw [afterLiteral_eq_none_iff, List.mem_append, not_or] at found
              exact afterLiteral_eq_none_iff.mpr found.1
            rw [List.cons_append, withoutLiterals_open found, withoutLiterals_open unclosed]
            refine onward.imp (congrArg ('\'' :: ·)) fun ⟨front, before, behind, split, made, inside, fewer⟩ => ?_
            exact ⟨'\'' :: front, before, behind, split, congrArg ('\'' :: ·) made,
              List.cons_subset_cons _ inside, by simpa using fewer⟩
        | some left =>
            rw [List.cons_append, withoutLiterals_closed found]
            rcases afterLiteral_append apart found with ⟨behind, rfl, closed⟩ | ⟨before, split⟩
            · obtain ⟨inside, rfl⟩ := exists_of_afterLiteral closed
              rw [withoutLiterals_closed closed]
              refine (ih behind.length (by simp; omega) behind rfl).imp (congrArg ('\'' :: '\'' :: ·))
                fun ⟨front, before, behind', split, made, within, fewer⟩ => ?_
              refine ⟨'\'' :: '\'' :: front, before, behind', split, congrArg ('\'' :: '\'' :: ·) made, ?_, ?_⟩
              · intro d member
                have further := within d
                simp only [List.mem_cons, List.mem_append] at member ⊢
                tauto
              · simp only [List.count_cons, List.count_append]
                omega
            · exact .inr ⟨[], before, left, split, rfl, List.forall_mem_nil _, by simp⟩
      · rw [List.cons_append, withoutLiterals_cons quote, withoutLiterals_cons quote]
        refine onward.imp (congrArg (c :: ·)) fun ⟨front, before, behind, split, made, inside, fewer⟩ => ?_
        exact ⟨c :: front, before, behind, split, congrArg (c :: ·) made, List.cons_subset_cons _ inside,
          by simpa [List.count_cons_of_ne quote] using fewer⟩

theorem withoutLiterals_append_right (unquoted : '\'' ∉ other) (text : Text) :
    withoutLiterals (text ++ other) = withoutLiterals text ++ other := by
  have apart : other.head? ≠ some '\'' := fun same => unquoted (List.mem_of_mem_head? same)
  rcases withoutLiterals_append apart text with separate | ⟨_, _, _, rfl, _⟩
  · rw [separate, withoutLiterals_of_not_mem unquoted]
  · simp at unquoted

theorem trim_withoutLiterals (text : Text) : trim (withoutLiterals text) = withoutLiterals (trim text) := by
  obtain ⟨gap, trail, split, before, after, first, last⟩ := exists_trim text
  have unquoted : ∀ {side : Text}, (∀ c ∈ side, isBlank c = true) → '\'' ∉ side := fun blank member =>
    absurd (blank _ member) (by decide)
  have whole : withoutLiterals text = gap ++ (withoutLiterals (trim text) ++ trail) := by
    rw [congrArg withoutLiterals split, withoutLiterals_append_left (unquoted before),
      withoutLiterals_append_right (unquoted after)]
  have first' : Ends isBlank (withoutLiterals (trim text)) := by rwa [Ends, head?_withoutLiterals]
  have last' : Ends isBlank (withoutLiterals (trim text)).reverse := by
    rw [Ends, List.head?_reverse] at last ⊢
    rwa [getLast?_withoutLiterals]
  rw [whole, trim_append before after first' last']

/-- A text has something in its literals if it does without the blanks round it. -/
theorem withoutLiterals_eq_of_trim (kept : withoutLiterals (trim text) = trim text) : withoutLiterals text = text := by
  obtain ⟨gap, trail, split, before, after, _⟩ := exists_trim text
  have unquoted : ∀ {side : Text}, (∀ c ∈ side, isBlank c = true) → '\'' ∉ side := fun blank member =>
    absurd (blank _ member) (by decide)
  rw [split, withoutLiterals_append_left (unquoted before), withoutLiterals_append_right (unquoted after), kept]

end Schemata.Ddl
