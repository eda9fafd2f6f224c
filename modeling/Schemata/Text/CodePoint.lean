import Schemata.Text.Range

/-!
Code points as characters. The halves of surrogate pairs are no characters, but a text may be made
of any code points, so a half is held as the private character `0x100000` further on. It follows that no text holds
one of these private characters, `0x10d800` to `0x10dfff`, as itself.
-/

namespace Schemata.Text

/-- The code points of the halves of surrogate pairs. -/
def isHalf (n : Nat) : Bool :=
  0xd800 ≤ n && n < 0xe000

/-- The character that stands for a code point. -/
def charOf (n : Nat) : Char :=
  if isHalf n then Char.ofNat (n + 0x100000) else Char.ofNat n

/-- A character that stands for half of a surrogate pair. -/
def standsForHalf (c : Char) : Bool :=
  0x10d800 ≤ c.toNat && c.toNat < 0x10e000

/-- The code point that a character stands for. -/
def codeOf (c : Char) : Nat :=
  if standsForHalf c then c.toNat - 0x100000 else c.toNat

theorem toNat_ofNat {n : Nat} (valid : n.isValidChar) : (Char.ofNat n).toNat = n := by
  rw [Char.ofNat, dif_pos valid]
  rfl

/-- Every code point below the private characters in use is told apart. -/
theorem codeOf_charOf {n : Nat} (low : n < 0x10d800) : codeOf (charOf n) = n := by
  unfold charOf
  split
  · rename_i half
    simp only [isHalf, Bool.and_eq_true, decide_eq_true_eq] at half
    have valid : (n + 0x100000).isValidChar := .inr ⟨by omega, by omega⟩
    simp only [codeOf, standsForHalf, toNat_ofNat valid, Bool.and_eq_true, decide_eq_true_eq]
    rw [if_pos ⟨by omega, by omega⟩]
    omega
  · rename_i whole
    simp only [isHalf, Bool.and_eq_true, decide_eq_true_eq] at whole
    have valid : n.isValidChar := by
      by_cases below : n < 0xd800
      · exact .inl below
      · exact .inr ⟨by omega, by omega⟩
    simp only [codeOf, standsForHalf, toNat_ofNat valid, Bool.and_eq_true, decide_eq_true_eq]
    rw [if_neg (by omega)]

theorem codeOf_injective {a b : Char} (same : codeOf a = codeOf b) : a = b := by
  have valid : ∀ c : Char, c.toNat < 0xd800 ∨ 0xdfff < c.toNat ∧ c.toNat < 0x110000 := fun c => c.valid
  have left := valid a
  have right := valid b
  simp only [codeOf, standsForHalf, Bool.and_eq_true, decide_eq_true_eq] at same
  refine Char.toNat_inj.mp ?_
  split at same <;> split at same <;> omega

end Schemata.Text
