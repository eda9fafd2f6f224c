import Schemata.Proofs.Reader.Settled

/-!
All readings of a text, and texts in which they are replaced. A reader that leaves less than it is given can be
tried at each place of a text, so the number of steps that a text allows does not show in what comes out: a
reading at the beginning is the first of all, and characters that begin none are passed over.
-/

namespace Schemata.Reader

open Text

variable {α : Type} {reader : Reader α} {replacement text left rest cs : Text} {c : Char} {a : α}

/-- Each reading leaves less than the text. -/
def Shortens (reader : Reader α) : Prop :=
  ∀ text way, way ∈ reader text → way.2.length < text.length

theorem Shortens.captured (shortens : reader.Shortens) : (Reader.captured reader).Shortens := by
  rintro text ⟨span, left⟩ member
  obtain ⟨_, a, read⟩ := mem_captured.mp member
  exact shortens text (a, left) read

/-- What goes on behind each reading, and behind each character that begins none, takes no more steps than the
text has characters. -/
theorem Shortens.steps_eq (shortens : reader.Shortens) {β : Type} {run : Nat → Text → β} (done : β)
    (passed : Char → β → β) (taken : α → β → β) (nil : ∀ count, run count [] = done)
    (cons : ∀ count c rest, run (count + 1) (c :: rest) = match reader.first (c :: rest) with
      | none => passed c (run count rest)
      | some way => taken way.1 (run count way.2))
    {count other : Nat} (enough : text.length ≤ count) (enough' : text.length ≤ other) :
    run count text = run other text := by
  induction count generalizing text other with
  | zero =>
      obtain rfl := List.length_eq_zero_iff.mp (Nat.le_zero.mp enough)
      rw [nil, nil]
  | succ count ih =>
      cases text with
      | nil => rw [nil, nil]
      | cons c rest =>
          obtain _ | other := other
          · cases enough'
          · have below : rest.length ≤ count := Nat.le_of_succ_le_succ enough
            have below' : rest.length ≤ other := Nat.le_of_succ_le_succ enough'
            rw [cons, cons]
            cases read : reader.first (c :: rest) with
            | none => exact congrArg (passed c) (ih below below')
            | some way =>
                have shorter : way.2.length ≤ rest.length :=
                  Nat.le_of_lt_succ (shortens _ _ (List.mem_of_mem_head? read))
                exact congrArg (taken way.1) (ih (shorter.trans below) (shorter.trans below'))

/-- Any number of steps that is not less than the length of the text finds the same. -/
theorem Shortens.scan_eq (shortens : reader.Shortens) {count other : Nat} (enough : text.length ≤ count)
    (enough' : text.length ≤ other) : reader.scan count text = reader.scan other text := by
  refine shortens.steps_eq [] (fun _ found => found) List.cons (fun count => ?_) (fun count c rest => ?_) enough enough'
  · cases count <;> rfl
  · rw [scan]
    cases reader.first (c :: rest) <;> rfl

/-- What is read first comes first, and the others are those of the rest. -/
theorem Shortens.all_of_first (shortens : reader.Shortens) (read : reader.first text = some (a, left)) :
    reader.all text = a :: reader.all left := by
  have shorter : left.length < text.length := shortens _ _ (List.mem_of_mem_head? read)
  cases text with
  | nil => cases shorter
  | cons c rest =>
      rw [all, List.length_cons, scan, read]
      exact congrArg (a :: ·) (shortens.scan_eq (Nat.le_of_lt_succ shorter) (Nat.le_refl _))

theorem Refuses.all_eq (refuses : reader.Refuses (c :: rest)) : reader.all (c :: rest) = reader.all rest := by
  rw [all, List.length_cons, scan, refuses.first]
  rfl

theorem Begins.refuses {starts : Char → Prop} (begins : reader.Begins starts) (other : ¬ starts c) :
    reader.Refuses (c :: rest) := by
  refine List.eq_nil_iff_forall_not_mem.mpr fun way member => ?_
  obtain ⟨d, head, start⟩ := begins _ _ member
  obtain rfl := Option.some.inj head
  exact other start

/-- Characters that begin no reading are passed over. -/
theorem Begins.all_append {starts : Char → Prop} (begins : reader.Begins starts) (others : ∀ c ∈ cs, ¬ starts c)
    (rest : Text) : reader.all (cs ++ rest) = reader.all rest := by
  induction cs with
  | nil => rfl
  | cons c cs ih =>
      obtain ⟨here, further⟩ := List.forall_mem_cons.mp others
      rw [List.cons_append, (begins.refuses here).all_eq, ih further]

/-! ### Replacements -/

/-- What holds of a text is carried over each character at which nothing is read, and over what is read. -/
@[elab_as_elim]
theorem Shortens.replacedInduction (shortens : reader.Shortens) {motive : Text → Prop} (nil : motive [])
    (passed : ∀ c rest, reader.Refuses (c :: rest) → motive rest → motive (c :: rest))
    (read : ∀ text a left, reader.first text = some (a, left) → motive left → motive text) (text : Text) :
    motive text := by
  induction size : text.length using Nat.strong_induction_on generalizing text with
  | h size ih =>
  subst size
  cases text with
  | nil => exact nil
  | cons c rest =>
      cases found : reader.first (c :: rest) with
      | none => exact passed c rest (List.head?_eq_none_iff.mp found) (ih _ (Nat.lt_succ_self _) rest rfl)
      | some way =>
          have shorter := shortens _ _ (List.mem_of_mem_head? found)
          exact read _ way.1 way.2 found (ih _ shorter way.2 rfl)

/-- A replacement takes no more steps than the text has characters. -/
theorem Shortens.replaceUpTo_eq (shortens : reader.Shortens) {count other : Nat} (enough : text.length ≤ count)
    (enough' : text.length ≤ other) :
    reader.replaceUpTo replacement count text = reader.replaceUpTo replacement other text := by
  refine shortens.steps_eq [] List.cons (fun _ left => replacement ++ left) (fun count => ?_) (fun count c rest => ?_)
    enough enough'
  · cases count <;> rfl
  · rw [replaceUpTo]
    cases reader.first (c :: rest) <;> rfl

theorem Shortens.replaced_of_first (shortens : reader.Shortens) (read : reader.first text = some (a, left)) :
    reader.replaced replacement text = replacement ++ reader.replaced replacement left := by
  have shorter : left.length < text.length := shortens _ _ (List.mem_of_mem_head? read)
  cases text with
  | nil => cases shorter
  | cons c rest =>
      rw [replaced, List.length_cons, replaceUpTo, read]
      exact congrArg (replacement ++ ·) (shortens.replaceUpTo_eq (Nat.le_of_lt_succ shorter) (Nat.le_refl _))

theorem Refuses.replaced_eq (refuses : reader.Refuses (c :: rest)) :
    reader.replaced replacement (c :: rest) = c :: reader.replaced replacement rest := by
  rw [replaced, List.length_cons, replaceUpTo, refuses.first]
  rfl

end Schemata.Reader
