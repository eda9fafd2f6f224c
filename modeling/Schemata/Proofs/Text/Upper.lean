import Schemata.Proofs.Text.Ends
import Schemata.Text.CodePoint

/-!
Upper case makes the letters of `CHECK`, blanks and an opening parenthesis of nothing but themselves. So a
text that has them at its beginning in capitals has them in either case.
-/

namespace Schemata.Text

/-- The codes of what stands at the head of a check: the letters of the word, blanks and the parenthesis. -/
def checkCodes : List Nat :=
  "CHECK(".toList.map Char.toNat ++ blankCodes

/-- The images of a range lie beside a code. -/
def CaseShift.misses (shift : CaseShift) (code : Nat) : Bool :=
  Nat.blt code ((shift.first : Int) + shift.offset).toNat || Nat.blt ((shift.last : Int) + shift.offset).toNat code

theorem upperShifts_miss : (upperShifts.all fun shift => decide (0 ≤ (shift.first : Int) + shift.offset) &&
    checkCodes.all shift.misses) = true := by
  decide +kernel

/-- What a character becomes that becomes several does not begin the head of a check, or leaves it at once. -/
theorem upperExpansions_miss : (upperExpansions.all fun image =>
    match image.2 with
    | code :: next :: _ => code != '('.toNat && (!checkCodes.contains code || !checkCodes.contains next)
    | _ => false) = true := by
  decide +kernel

variable {c d : Char} {text word rest : Text}

theorem exists_of_lookup {code : Nat} {codes : List Nat} (found : upperExpansions.lookup code = some codes) :
    ∃ first next later, codes = first :: next :: later ∧ first ≠ '('.toNat ∧
      (first ∉ checkCodes ∨ next ∉ checkCodes) := by
  obtain ⟨before, after, split, _⟩ := List.lookup_eq_some_iff.mp found
  have misses := List.all_eq_true.mp upperExpansions_miss (code, codes) (by rw [split]; simp)
  obtain _ | ⟨first, _ | ⟨next, later⟩⟩ := codes
  · cases misses
  · cases misses
  · simp only [Bool.and_eq_true, Bool.or_eq_true, Bool.not_eq_true', bne_iff_ne, List.contains_eq_mem,
      decide_eq_false_iff_not] at misses
    exact ⟨first, next, later, rfl, misses⟩

theorem eq_toNat_of_mem {code : Nat} (member : (Char.ofNat code).toNat ∈ checkCodes) : (Char.ofNat code).toNat = code := by
  by_cases valid : code.isValidChar
  · exact toNat_ofNat valid
  · have none' : Char.ofNat code = '\x00' := by
      rw [Char.ofNat, dif_neg valid]
      rfl
    rw [none'] at member
    exact absurd member (by decide)

/-- The first character of an image is the character itself in capitals, unless what follows it in the image
stands at the head of no check. -/
theorem upperChar_eq_cons {more : Text} (member : d.toNat ∈ checkCodes) (image : upperChar c = d :: more) :
    (more = [] ∧ c.toLower = d.toLower) ∨ (d ≠ '(' ∧ ∃ e later, more = e :: later ∧ e.toNat ∉ checkCodes) := by
  unfold upperChar at image
  split at image
  · rename_i ascii
    have all : ∀ n : Fin 128, (Char.ofNat n).toUpper.toLower = (Char.ofNat n).toLower := by decide
    have same := all ⟨c.toNat, ascii⟩
    simp only [Char.ofNat_toNat] at same
    obtain ⟨rfl, rfl⟩ := List.cons.inj image
    exact .inl ⟨rfl, same.symm⟩
  · split at image
    · rename_i codes found
      obtain ⟨first, next, later, rfl, opening, apart⟩ := exists_of_lookup found
      obtain ⟨rfl, rfl⟩ := List.cons.inj image
      have code := eq_toNat_of_mem member
      rw [code] at member
      refine .inr ⟨fun same => opening (code.symm.trans (congrArg Char.toNat same)), Char.ofNat next,
        later.map Char.ofNat, rfl, fun listed => ?_⟩
      rw [eq_toNat_of_mem listed] at listed
      exact apart.elim (absurd member) (absurd listed)
    · obtain ⟨rfl, rfl⟩ := List.cons.inj image
      unfold shifted at member ⊢
      split at member
      · rename_i shift found
        have misses := List.all_eq_true.mp upperShifts_miss shift (List.mem_of_find?_eq_some found)
        have covered := List.find?_some (p := fun shift : CaseShift => shift.covers c) found
        have code : (shift.apply c).toNat = ((c.toNat : Int) + shift.offset).toNat := eq_toNat_of_mem member
        rw [Bool.and_eq_true, decide_eq_true_eq] at misses
        have apart := List.all_eq_true.mp misses.2 _ member
        simp only [CaseShift.misses, Bool.or_eq_true, Nat.blt_eq, code] at apart
        simp only [CaseShift.covers, Bool.and_eq_true, decide_eq_true_eq] at covered
        omega
      · exact .inl ⟨rfl, rfl⟩

theorem upperChar_ne_nil (c : Char) : upperChar c ≠ [] := by
  unfold upperChar
  split
  · exact List.cons_ne_nil _ _
  · split
    · rename_i codes found
      obtain ⟨first, next, later, rfl, _⟩ := exists_of_lookup found
      exact List.cons_ne_nil _ _
    · exact List.cons_ne_nil _ _

theorem exists_of_upper_eq_cons (capitals : upper text = d :: rest) :
    ∃ c left more, text = c :: left ∧ upperChar c = d :: more ∧ more ++ upper left = rest := by
  cases text with
  | nil => cases capitals
  | cons c left =>
      obtain ⟨e, more, image⟩ := List.exists_cons_of_ne_nil (upperChar_ne_nil c)
      rw [upper, List.flatMap_cons, image] at capitals
      obtain ⟨rfl, behind⟩ := List.cons.inj capitals
      exact ⟨c, left, more, rfl, image, behind⟩

/-- What stands at the head of a check in capitals stands there in either case. -/
theorem exists_of_upper_eq (watched : ∀ d ∈ word, d.toNat ∈ checkCodes) (capitals : upper text = word ++ '(' :: rest) :
    ∃ first left, text = first ++ '(' :: left ∧ folded first = folded word := by
  have opening : Caseless '(' := rfl
  induction word generalizing text with
  | nil =>
      obtain ⟨c, left, more, rfl, image, _⟩ := exists_of_upper_eq_cons capitals
      rcases upperChar_eq_cons (by decide) image with ⟨_, same⟩ | ⟨other, _⟩
      · obtain rfl := opening.toLower_eq_iff.mp (same.trans (opening.toLower_eq_iff.mpr rfl))
        exact ⟨[], left, rfl, rfl⟩
      · exact absurd rfl other
  | cons d word ih =>
      obtain ⟨here, further⟩ := List.forall_mem_cons.mp watched
      obtain ⟨c, left, more, rfl, image, behind⟩ := exists_of_upper_eq_cons capitals
      rcases upperChar_eq_cons here image with ⟨rfl, same⟩ | ⟨_, e, later, rfl, apart⟩
      · obtain ⟨first, left, rfl, alike⟩ := ih further behind
        exact ⟨c :: first, left, rfl, congrArg₂ List.cons same alike⟩
      · -- What an image adds to `d` would have to be the next character of the head.
        refine absurd ?_ apart
        cases word with
        | nil =>
            rw [show e = '(' from (List.cons.inj behind).1]
            decide
        | cons f word =>
            rw [show e = f from (List.cons.inj behind).1]
            exact further f (List.mem_cons_self ..)

end Schemata.Text
