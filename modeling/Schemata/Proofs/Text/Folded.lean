import Schemata.Text.Blank
import Schemata.Text.Case
import Schemata.Text.Word
import Mathlib.Data.List.Basic

/-!
Texts without regard to the case of ASCII letters. A text is folded by writing these letters small; what
does not see their case is the same for a text and the folded one.
-/

namespace Schemata.Text

/-- The text with its ASCII letters in lower case. -/
def folded (text : Text) : Text :=
  text.map Char.toLower

@[simp] theorem folded_nil : folded [] = [] := rfl

@[simp] theorem folded_cons (c : Char) (rest : Text) : folded (c :: rest) = c.toLower :: folded rest := rfl

@[simp] theorem folded_append (left right : Text) : folded (left ++ right) = folded left ++ folded right :=
  List.map_append

@[simp] theorem length_folded (text : Text) : (folded text).length = text.length :=
  List.length_map _

@[simp] theorem isEmpty_folded (text : Text) : (folded text).isEmpty = text.isEmpty := by
  cases text <;> rfl

theorem take_folded (text : Text) (count : Nat) : (folded text).take count = folded (text.take count) :=
  List.map_take.symm

theorem drop_folded (text : Text) (count : Nat) : (folded text).drop count = folded (text.drop count) :=
  List.map_drop.symm

/-! What is said of the characters of a text is decided on the text, without a search among all
characters. -/

instance decidableForallMem (property : Char → Prop) [DecidablePred property] (text : Text) :
    Decidable (∀ c ∈ text, property c) :=
  List.decidableBAll property text

instance decidableExistsMem (property : Char → Prop) [DecidablePred property] (mark : Option Char) :
    Decidable (∃ c ∈ mark, property c) :=
  mark.decidableExistsMem

def capitals : List Char :=
  "ABCDEFGHIJKLMNOPQRSTUVWXYZ".toList

theorem toLower_eq_or_capital (c : Char) : c.toLower = c ∨ c ∈ capitals := by
  by_cases ascii : c.toNat < 128
  · have all : ∀ n : Fin 128, (Char.ofNat n).toLower = Char.ofNat n ∨ Char.ofNat n ∈ capitals := by
      decide +kernel
    simpa only [Char.ofNat_toNat] using all ⟨c.toNat, ascii⟩
  · refine .inl ?_
    unfold Char.toLower
    split
    · rename_i capital
      have small : c.toNat ≤ 90 := capital.2
      omega
    · rfl

/-- A property of characters that does not see the case of ASCII letters. -/
def CaseBlind {β : Type} (property : Char → β) : Prop :=
  ∀ c : Char, property c.toLower = property c

theorem caseBlind_of_capitals {β : Type} {property : Char → β}
    (agree : ∀ c ∈ capitals, property c.toLower = property c) : CaseBlind property := by
  intro c
  rcases toLower_eq_or_capital c with same | capital
  · rw [same]
  · exact agree c capital

theorem toLower_toLower : CaseBlind Char.toLower :=
  caseBlind_of_capitals (by decide)

theorem isAlpha_caseBlind : CaseBlind Char.isAlpha :=
  caseBlind_of_capitals (by decide)

theorem isAlpha_of_capital : ∀ c ∈ capitals, c.isAlpha = true := by
  decide

/-- A character that is no ASCII letter. -/
def Caseless (c : Char) : Prop :=
  c.isAlpha = false

theorem Caseless.toLower_eq_iff {c d : Char} (caseless : Caseless c) : d.toLower = c ↔ d = c := by
  rcases toLower_eq_or_capital d with same | capital
  · rw [same]
  · have letter := isAlpha_of_capital d capital
    constructor
    · rintro rfl
      exact absurd (letter.symm.trans ((isAlpha_caseBlind d).symm.trans caseless)) (by decide)
    · rintro rfl
      exact absurd (letter.symm.trans caseless) (by decide)

theorem Caseless.toLower_beq {c : Char} (caseless : Caseless c) (d : Char) : (d.toLower == c) = (d == c) := by
  rw [Bool.eq_iff_iff, beq_iff_eq, beq_iff_eq, caseless.toLower_eq_iff]

/-! ### Blanks and words -/

theorem isBlank_caseBlind : CaseBlind isBlank :=
  caseBlind_of_capitals (by decide)

theorem isWordChar_caseBlind : CaseBlind isWordChar :=
  caseBlind_of_capitals (by decide)

theorem startsWithWord_folded (text : Text) : startsWithWord (folded text) = startsWithWord text := by
  cases text with
  | nil => rfl
  | cons c rest => exact isWordChar_caseBlind c

theorem dropWhile_folded {p : Char → Bool} (blind : CaseBlind p) (text : Text) :
    (folded text).dropWhile p = folded (text.dropWhile p) := by
  rw [folded, List.dropWhile_map, show p ∘ Char.toLower = p from funext blind]
  rfl

theorem trimLeft_folded (text : Text) : trimLeft (folded text) = folded (trimLeft text) :=
  dropWhile_folded isBlank_caseBlind text

theorem reverse_folded (text : Text) : (folded text).reverse = folded text.reverse :=
  List.map_reverse.symm

theorem trim_folded (text : Text) : trim (folded text) = folded (trim text) := by
  rw [trim, trim, trimLeft_folded, trimRight, trimRight, reverse_folded, dropWhile_folded isBlank_caseBlind,
    reverse_folded]

/-! ### Case mappings -/

theorem isCased_caseBlind : CaseBlind isCased :=
  caseBlind_of_capitals (by decide)

theorem codes_of_capital : ∀ c ∈ capitals,
    (65 ≤ c.toNat ∧ c.toNat ≤ 90) ∧ 97 ≤ c.toLower.toNat ∧ c.toLower.toNat ≤ 122 := by
  decide

/-- Ranges without ASCII letters do not see their case. -/
theorem inRanges_caseBlind {ranges : List CodeRange}
    (apart : ∀ range ∈ ranges, range.2 < 65 ∨ (90 < range.1 ∧ range.2 < 97) ∨ 122 < range.1) :
    CaseBlind (inRanges ranges) := by
  refine caseBlind_of_capitals fun c capital => ?_
  obtain ⟨big, small⟩ := codes_of_capital c capital
  rw [Bool.eq_iff_iff, inRanges_iff, inRanges_iff]
  constructor
  · rintro ⟨range, member, low, high⟩
    have outside := apart range member
    omega
  · rintro ⟨range, member, low, high⟩
    have outside := apart range member
    omega

theorem isCaseIgnorable_caseBlind : CaseBlind isCaseIgnorable :=
  inRanges_caseBlind (by decide +kernel)

theorem startsCased_folded (text : Text) : startsCased (folded text) = startsCased text := by
  unfold startsCased
  rw [dropWhile_folded isCaseIgnorable_caseBlind]
  cases text.dropWhile isCaseIgnorable with
  | nil => rfl
  | cons c rest => exact isCased_caseBlind c

theorem lowerChar_caseBlind : CaseBlind lowerChar :=
  caseBlind_of_capitals (by decide)

theorem lowerAt_folded (before : Text) (c : Char) (rest : Text) :
    lowerAt (folded before) c.toLower (folded rest) = lowerAt before c rest := by
  have sigma : Caseless 'Σ' := rfl
  have dotted : Caseless 'İ' := rfl
  simp only [lowerAt, sigma.toLower_eq_iff, dotted.toLower_eq_iff, startsCased_folded, lowerChar_caseBlind c]

/-- Lower case does not depend on the case of ASCII letters. -/
@[simp] theorem lower_folded (text : Text) : lower (folded text) = lower text := by
  suffices general : ∀ before, lowerFrom (folded before) (folded text) = lowerFrom before text from general []
  induction text with
  | nil => exact fun _ => rfl
  | cons c rest ih =>
      intro before
      rw [folded_cons, lowerFrom, lowerFrom, lowerAt_folded, ← folded_cons, ih]

theorem upperChar_caseBlind : CaseBlind upperChar :=
  caseBlind_of_capitals (by decide)

@[simp] theorem upper_folded (text : Text) : upper (folded text) = upper text := by
  rw [upper, folded, List.flatMap_map]
  exact congrArg (text.flatMap ·) (funext upperChar_caseBlind)

/-- Keywords are read in either case. -/
theorem sameLetter_caseBlind (letter : Char) : CaseBlind (sameLetter letter) := by
  intro c
  have dotless : Caseless 'ı' := rfl
  have dotted : Caseless 'İ' := rfl
  have long : Caseless 'ſ' := rfl
  have kelvin : Caseless '\u212a' := rfl
  unfold sameLetter
  rw [toLower_toLower c]
  split
  · rw [dotless.toLower_beq, dotted.toLower_beq]
  · rw [long.toLower_beq]
  · rw [kelvin.toLower_beq]
  · rfl

end Schemata.Text
