import Mathlib.Data.List.Basic
import Schemata.Text.CodePoint

/-!
Texts in units of sixteen bits: a code point beyond them stands as the two halves of a surrogate pair.
-/

namespace Schemata.Text

theorem codeOf_le_toNat (c : Char) : codeOf c ≤ c.toNat := by
  rw [codeOf]
  split
  · exact Nat.sub_le _ _
  · exact Nat.le_refl _

/-- The units of a character, each a character of its own. -/
def halvesOf (c : Char) : Text :=
  if codeOf c < 0x10000 then [c]
  else [charOf (0xd800 + (codeOf c - 0x10000) / 0x400), charOf (0xdc00 + (codeOf c - 0x10000) % 0x400)]

def halved (s : Text) : Text :=
  s.flatMap halvesOf

theorem halvesOf_of_small {c : Char} (small : codeOf c < 0x10000) : halvesOf c = [c] :=
  if_pos small

theorem length_halvesOf_of_large {c : Char} (large : 0x10000 ≤ codeOf c) : (halvesOf c).length = 2 := by
  rw [halvesOf, if_neg (Nat.not_lt.mpr large)]
  rfl

theorem halved_cons (c : Char) (rest : Text) : halved (c :: rest) = halvesOf c ++ halved rest :=
  List.flatMap_cons

theorem length_le_halved (s : Text) : s.length ≤ (halved s).length := by
  induction s with
  | nil => exact Nat.le_refl 0
  | cons c rest ih =>
      rw [halved_cons, List.length_append, List.length_cons]
      by_cases small : codeOf c < 0x10000
      · rw [halvesOf_of_small small, List.length_singleton]
        omega
      · rw [length_halvesOf_of_large (Nat.not_lt.mp small)]
        omega

/-- Nothing is split in a text without code points beyond sixteen bits, and only there. -/
theorem halved_eq_self_iff {s : Text} : halved s = s ↔ ∀ c ∈ s, codeOf c < 0x10000 := by
  induction s with
  | nil => simp [halved]
  | cons c rest ih =>
      rw [halved_cons, List.forall_mem_cons]
      by_cases small : codeOf c < 0x10000
      · rw [halvesOf_of_small small, List.singleton_append, List.cons_inj_right, ih]
        exact (and_iff_right small).symm
      · refine iff_of_false (fun same => ?_) fun both => small both.1
        have lengths := congrArg List.length same
        rw [List.length_append, length_halvesOf_of_large (Nat.not_lt.mp small), List.length_cons] at lengths
        have longer := length_le_halved rest
        omega

theorem halved_eq_nil_iff {s : Text} : halved s = [] ↔ s = [] := by
  constructor
  · intro empty
    have length := length_le_halved s
    rw [empty] at length
    exact List.length_eq_zero_iff.mp (Nat.le_zero.mp length)
  · rintro rfl
    rfl

end Schemata.Text
