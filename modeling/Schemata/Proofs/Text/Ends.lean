import Schemata.Proofs.Text.Folded
import Mathlib.Data.List.TakeWhile

/-!
Where runs of characters end in a text that is known in parts.
-/

namespace Schemata.Text

theorem toNat_lt_of_isAlpha {c : Char} (alpha : c.isAlpha = true) : c.toNat < 128 := by
  have letter : (decide ('A'.val ≤ c.val ∧ c.val ≤ 'Z'.val) || ('a'.val ≤ c.val && c.val ≤ 'z'.val)) = true := alpha
  simp only [Bool.or_eq_true, Bool.and_eq_true, decide_eq_true_eq, UInt32.le_iff_toNat_le] at letter
  have value : c.toNat = c.val.toNat := rfl
  have upper : 'Z'.val.toNat = 90 := rfl
  have lower : 'z'.val.toNat = 122 := rfl
  omega

/-- A property of each blank in turn is one of all blanks. -/
theorem of_isBlank (property : Char → Prop) (each : ∀ code ∈ blankCodes, property (Char.ofNat code)) {c : Char}
    (blank : isBlank c = true) : property c := by
  have here := each c.toNat (List.contains_iff_mem.mp blank)
  rwa [Char.ofNat_toNat] at here

theorem not_isWordChar_of_isBlank {c : Char} : isBlank c = true → isWordChar c = false :=
  of_isBlank (isWordChar · = false) (by decide +kernel)

theorem forall_bne_iff {c : Char} {text : Text} : (∀ d ∈ text, (d != c) = true) ↔ c ∉ text := by
  simp only [bne_iff_ne]
  exact ⟨fun others member => others c member rfl, fun free d member same => free (same ▸ member)⟩

/-- The text does not begin with a character that a property accepts. -/
def Ends (accepted : Char → Bool) (text : Text) : Prop :=
  ∀ c ∈ text.head?, accepted c = false

variable {accepted : Char → Bool} {text gap core trail rest : Text}

theorem ends_nil : Ends accepted [] := by
  intro c member
  cases member

theorem ends_cons {c : Char} : Ends accepted (c :: rest) ↔ accepted c = false := by
  simp [Ends]

theorem startsWithWord_eq_false_iff : startsWithWord text = false ↔ Ends isWordChar text := by
  cases text <;> simp [startsWithWord, Ends]

/-- A word does not begin with a blank. -/
theorem ends_isBlank_of_word (starts : startsWithWord text = true) : Ends isBlank text := by
  cases text with
  | nil => exact ends_nil
  | cons c rest =>
      cases blank : isBlank c with
      | false => exact ends_cons.mpr blank
      | true =>
          have outside := not_isWordChar_of_isBlank blank
          rw [show isWordChar c = true from starts] at outside
          cases outside

theorem Ends.append (ends : Ends accepted text) (some' : text ≠ []) (rest : Text) : Ends accepted (text ++ rest) := by
  intro c member
  rw [List.head?_append_of_ne_nil _ some'] at member
  exact ends c member

theorem ends_reverse_append (some' : rest ≠ []) : Ends accepted (text ++ rest).reverse ↔ Ends accepted rest.reverse := by
  rw [Ends, Ends, List.reverse_append, List.head?_append_of_ne_nil _ (by simpa using some')]

theorem ends_reverse_cons {c : Char} :
    Ends accepted (c :: text).reverse ↔ (text = [] → accepted c = false) ∧ Ends accepted text.reverse := by
  cases text with
  | nil => simp [ends_cons, ends_nil]
  | cons d text =>
      rw [← List.singleton_append, ends_reverse_append (List.cons_ne_nil _ _)]
      simp

theorem Ends.dropWhile_eq (ends : Ends accepted text) : text.dropWhile accepted = text := by
  cases text with
  | nil => rfl
  | cons c rest => exact List.dropWhile_cons_of_neg (by simp [ends_cons.mp ends])

theorem ends_dropWhile (accepted : Char → Bool) (text : Text) : Ends accepted (text.dropWhile accepted) := by
  induction text with
  | nil => exact ends_nil
  | cons c rest ih =>
      cases ok : accepted c with
      | true =>
          rw [List.dropWhile_cons_of_pos ok]
          exact ih
      | false =>
          rw [List.dropWhile_cons_of_neg (by simp [ok])]
          exact ends_cons.mpr ok

theorem trimLeft_append (blank : ∀ c ∈ gap, isBlank c = true) (ends : Ends isBlank rest) :
    trimLeft (gap ++ rest) = rest :=
  (List.dropWhile_append_of_pos blank).trans ends.dropWhile_eq

/-- Trimming takes what is blank on either side. -/
theorem trim_append (before : ∀ c ∈ gap, isBlank c = true) (after : ∀ c ∈ trail, isBlank c = true)
    (first : Ends isBlank core) (last : Ends isBlank core.reverse) : trim (gap ++ (core ++ trail)) = core := by
  by_cases empty : core = []
  · subst empty
    have all : ∀ c ∈ gap ++ trail, isBlank c = true := List.forall_mem_append.mpr ⟨before, after⟩
    have left : trimLeft (gap ++ trail) = [] := by
      have whole := trimLeft_append all ends_nil
      rwa [List.append_nil] at whole
    rw [List.nil_append, trim, left]
    rfl
  · have right : (trail.reverse ++ core.reverse).dropWhile isBlank = core.reverse :=
      trimLeft_append (fun c member => after c (List.mem_reverse.mp member)) last
    rw [trim, trimLeft_append before (first.append empty trail), trimRight, List.reverse_append, right,
      List.reverse_reverse]

/-- Behind what is left of a text that is trimmed on one side stand the blanks that trimming the other one takes. -/
theorem exists_trimLeft (text : Text) : ∃ trail, trimLeft text = trim text ++ trail ∧ ∀ c ∈ trail, isBlank c = true := by
  refine ⟨((trimLeft text).reverse.takeWhile isBlank).reverse, ?_, fun c member => ?_⟩
  · rw [trim, trimRight, ← List.reverse_append, List.takeWhile_append_dropWhile, List.reverse_reverse]
  · exact List.mem_takeWhile_imp (List.mem_reverse.mp member)

/-- A text is its trimmed form with blanks on either side. -/
theorem exists_trim (text : Text) :
    ∃ gap trail, text = gap ++ (trim text ++ trail) ∧ (∀ c ∈ gap, isBlank c = true) ∧
      (∀ c ∈ trail, isBlank c = true) ∧ Ends isBlank (trim text) ∧ Ends isBlank (trim text).reverse := by
  obtain ⟨trail, right, after⟩ := exists_trimLeft text
  have left : text = text.takeWhile isBlank ++ trimLeft text := List.takeWhile_append_dropWhile.symm
  have first : Ends isBlank (trim text) := by
    intro c member
    have starts := ends_dropWhile isBlank text c
    rw [show text.dropWhile isBlank = trimLeft text from rfl, right, List.head?_append, member] at starts
    exact starts rfl
  refine ⟨text.takeWhile isBlank, trail, ?_, fun c member => List.mem_takeWhile_imp member, after, first, ?_⟩
  · rw [← right]
    exact left
  · rw [trim, trimRight, List.reverse_reverse]
    exact ends_dropWhile isBlank (trimLeft text).reverse

theorem trim_eq_self (first : Ends isBlank core) (last : Ends isBlank core.reverse) : trim core = core := by
  have whole := trim_append (List.forall_mem_nil _) (List.forall_mem_nil _) first last
  rwa [List.nil_append, List.append_nil] at whole

@[simp] theorem trim_trim (text : Text) : trim (trim text) = trim text := by
  obtain ⟨_, _, _, _, _, first, last⟩ := exists_trim text
  exact trim_eq_self first last

theorem trim_sublist (text : Text) : (trim text).Sublist text := by
  obtain ⟨gap, trail, split, _⟩ := exists_trim text
  have inside := (List.sublist_append_left (trim text) trail).trans (List.sublist_append_right gap (trim text ++ trail))
  rwa [← split] at inside

/-- What stands in front of a character that is not blank stays when blanks at the end are taken. -/
theorem trimRight_append (last : Ends isBlank core.reverse) (rest : Text) :
    trimRight (core ++ rest) = core ++ trimRight rest := by
  rw [trimRight, trimRight, List.reverse_append, List.dropWhile_append]
  split
  · rename_i empty
    rw [List.isEmpty_iff.mp empty, last.dropWhile_eq, List.reverse_reverse, List.reverse_nil, List.append_nil]
  · rw [List.reverse_append, List.reverse_reverse]

theorem exists_trimRight (text : Text) : ∃ trail, text = trimRight text ++ trail := by
  refine ⟨(text.reverse.takeWhile isBlank).reverse, ?_⟩
  rw [trimRight, ← List.reverse_append, List.takeWhile_append_dropWhile, List.reverse_reverse]

theorem Ends.trimRight (ends : Ends accepted text) : Ends accepted (Text.trimRight text) := by
  obtain ⟨trail, split⟩ := exists_trimRight text
  intro c member
  refine ends c ?_
  rw [split, List.head?_append, member]
  rfl

/-- A text without its end is not longer than the text when both are trimmed. -/
theorem length_trim_le (text rest : Text) : (trim text).length ≤ (trim (text ++ rest)).length := by
  obtain ⟨gap, trail, split, before, _, first, last⟩ := exists_trim text
  by_cases empty : trim text = []
  · rw [empty]
    exact Nat.zero_le _
  · have left : trimLeft (text ++ rest) = trim text ++ (trail ++ rest) := by
      rw [congrArg (· ++ rest) split, List.append_assoc, List.append_assoc,
        trimLeft_append before (first.append empty (trail ++ rest))]
    rw [trim.eq_def (text ++ rest), left, trimRight_append last, List.length_append]
    exact Nat.le_add_right _ _

end Schemata.Text
