import Schemata.Proofs.Text.Ends
import Schemata.Text.CodePoint

/-!
Putting a text into lower case settles it: a second time changes nothing. The images of the case
table are checked range by range against all ranges of the table. What has no case, such as signs and
blanks, is neither made nor taken away.
-/

namespace Schemata.Text

/-- The ranges of characters that a lower-case mapping changes: those of the table, the capitals of
ASCII and the dotted capital I. -/
def changedRanges : List CaseShift :=
  ⟨0x41, 0x5a, 1, 32⟩ :: ⟨0x130, 0x130, 1, 0⟩ :: lowerShifts

/-- A character that is in lower case already, or has no case. -/
def IsSettled (c : Char) : Prop :=
  ∀ range ∈ changedRanges, range.covers c = false

/-- The images of one range lie beside another: below it, above it, or in its gaps. -/
def CaseShift.imagesAvoid (shift range : CaseShift) : Bool :=
  let low := ((shift.first : Int) + shift.offset).toNat
  let high := ((shift.last : Int) + shift.offset).toNat
  Nat.blt range.last low || (Nat.blt high range.first ||
    (Nat.beq range.stride 2 && (Nat.beq shift.stride 2 || Nat.beq shift.first shift.last) &&
      !Nat.beq (low % 2) (range.first % 2)))

def CaseShift.isSettling (shift : CaseShift) : Bool :=
  0 ≤ (shift.first : Int) + shift.offset && 128 ≤ shift.first && changedRanges.all shift.imagesAvoid

theorem lowerShifts_settling : lowerShifts.all CaseShift.isSettling = true := by
  decide +kernel

theorem CaseShift.not_covers_image {shift range : CaseShift} {c d : Char}
    (nonnegative : 0 ≤ (shift.first : Int) + shift.offset)
    (avoids : shift.imagesAvoid range = true) (covered : shift.covers c = true)
    (image : d.toNat = ((c.toNat : Int) + shift.offset).toNat) : range.covers d = false := by
  simp only [covers, Bool.and_eq_true, decide_eq_true_eq, beq_iff_eq] at covered
  obtain ⟨⟨low, high⟩, step⟩ := covered
  simp only [imagesAvoid, Bool.or_eq_true, Bool.and_eq_true, Nat.blt_eq, Nat.beq_eq,
    Bool.not_eq_true', ← Bool.not_eq_true] at avoids
  rw [Bool.eq_false_iff]
  intro inside
  simp only [covers, Bool.and_eq_true, decide_eq_true_eq, beq_iff_eq, image] at inside
  obtain ⟨⟨above, below⟩, inStep⟩ := inside
  rcases avoids with early | late | ⟨⟨gaps, single⟩, parity⟩
  · omega
  · omega
  · rw [gaps] at inStep
    rcases single with double | alone
    · rw [double] at step
      omega
    · omega

theorem not_covers_of_lt {range : CaseShift} {c : Char} (below : c.toNat < range.first) :
    range.covers c = false := by
  simp [CaseShift.covers, Nat.not_le_of_lt below]

theorem first_of_mem_lowerShifts {shift : CaseShift} (member : shift ∈ lowerShifts) :
    128 ≤ shift.first := by
  have settling := List.all_eq_true.mp lowerShifts_settling shift member
  simp only [CaseShift.isSettling, Bool.and_eq_true, decide_eq_true_eq] at settling
  exact settling.1.2

theorem isSettled_of_ascii {c : Char} (ascii : c.toNat < 128)
    (small : ¬ (0x41 ≤ c.toNat ∧ c.toNat ≤ 0x5a)) : IsSettled c := by
  intro range member
  simp only [changedRanges, List.mem_cons] at member
  rcases member with rfl | rfl | member
  · simp only [CaseShift.covers, Bool.and_eq_false_iff, decide_eq_false_iff_not]
    omega
  · exact not_covers_of_lt (Nat.lt_trans ascii (by decide))
  · exact not_covers_of_lt (Nat.lt_of_lt_of_le ascii (first_of_mem_lowerShifts member))

theorem isSettled_apply {shift : CaseShift} {c : Char} (member : shift ∈ lowerShifts)
    (covered : shift.covers c = true) : IsSettled (shift.apply c) := by
  have settling := List.all_eq_true.mp lowerShifts_settling shift member
  simp only [CaseShift.isSettling, Bool.and_eq_true, decide_eq_true_eq] at settling
  by_cases valid : ((c.toNat : Int) + shift.offset).toNat.isValidChar
  · intro range changed
    refine CaseShift.not_covers_image settling.1.1 (List.all_eq_true.mp settling.2 range changed)
      covered ?_
    rw [CaseShift.apply, toNat_ofNat valid]
  · have none : shift.apply c = '\x00' := by
      rw [CaseShift.apply, Char.ofNat, dif_neg valid]
      rfl
    rw [none]
    exact isSettled_of_ascii (by decide) (by decide)

theorem toLower_ascii {c : Char} (ascii : c.toNat < 128) :
    c.toLower.toNat < 128 ∧ ¬ (0x41 ≤ c.toLower.toNat ∧ c.toLower.toNat ≤ 0x5a) := by
  have all : ∀ n : Fin 128, (Char.ofNat n).toLower.toNat < 128 ∧
      ¬ (0x41 ≤ (Char.ofNat n).toLower.toNat ∧ (Char.ofNat n).toLower.toNat ≤ 0x5a) := by decide
  simpa only [Char.ofNat_toNat] using all ⟨c.toNat, ascii⟩

theorem isSettled_lowerChar {c : Char} (undotted : c ≠ 'İ') : IsSettled (lowerChar c) := by
  unfold lowerChar
  split
  · rename_i ascii
    exact isSettled_of_ascii (toLower_ascii ascii).1 (toLower_ascii ascii).2
  · rename_i beyond
    unfold shifted
    split
    · rename_i shift found
      exact isSettled_apply (List.mem_of_find?_eq_some found)
        (List.find?_some (p := fun shift : CaseShift => shift.covers c) found)
    · rename_i missing
      intro range member
      simp only [changedRanges, List.mem_cons] at member
      rcases member with rfl | rfl | member
      · simp only [CaseShift.covers, Bool.and_eq_false_iff, decide_eq_false_iff_not]
        omega
      · have other : c.toNat ≠ 0x130 := by
          intro same
          exact undotted (by rw [← Char.ofNat_toNat c, same])
        simp only [CaseShift.covers, Bool.and_eq_false_iff, decide_eq_false_iff_not]
        omega
      · simpa using List.find?_eq_none.mp missing range member

theorem IsSettled.lowerChar_eq {c : Char} (settled : IsSettled c) : lowerChar c = c := by
  unfold lowerChar
  split
  · rename_i ascii
    have small := settled ⟨0x41, 0x5a, 1, 32⟩ (by simp [changedRanges])
    simp only [CaseShift.covers, Nat.mod_one, BEq.rfl, Bool.and_true, Bool.and_eq_false_iff,
      decide_eq_false_iff_not] at small
    have all : ∀ n : Fin 128, ¬ 0x41 ≤ n.val ∨ ¬ n.val ≤ 0x5a →
        (Char.ofNat n).toLower = Char.ofNat n := by decide
    simpa only [Char.ofNat_toNat] using all ⟨c.toNat, ascii⟩ small
  · unfold shifted
    rw [List.find?_eq_none.mpr]
    intro shift member
    simpa using settled shift (by simp [changedRanges, member])

/-- A settled character stays whatever stands round it. -/
theorem IsSettled.lowerAt_eq {c : Char} (settled : IsSettled c) (before rest : Text) :
    lowerAt before c rest = [c] := by
  have sigma : c ≠ 'Σ' := by
    rintro rfl
    exact absurd settled.lowerChar_eq (by decide)
  have undotted : c ≠ 'İ' := by
    rintro rfl
    have changed := settled ⟨0x130, 0x130, 1, 0⟩ (by simp [changedRanges])
    exact absurd changed (by decide)
  rw [lowerAt, if_neg sigma, if_neg undotted, settled.lowerChar_eq]

theorem lowerFrom_of_settled {text : Text} (settled : ∀ c ∈ text, IsSettled c) (before : Text) :
    lowerFrom before text = text := by
  induction text generalizing before with
  | nil => rfl
  | cons c rest ih =>
      rw [lowerFrom, (settled c (by simp)).lowerAt_eq, ih fun d member => settled d (by simp [member])]
      rfl

theorem isSettled_of_lowerChar_eq {c : Char} (undotted : c ≠ 'İ') (same : lowerChar c = c) :
    IsSettled c :=
  same ▸ isSettled_lowerChar undotted

theorem isSettled_of_mem_lowerAt {before rest : Text} {c d : Char}
    (member : d ∈ lowerAt before c rest) : IsSettled d := by
  unfold lowerAt at member
  split at member
  · split at member
    · obtain rfl := List.mem_singleton.mp member
      exact isSettled_of_lowerChar_eq (by decide) (by decide)
    · obtain rfl := List.mem_singleton.mp member
      exact isSettled_of_lowerChar_eq (by decide) (by decide)
  · split at member
    · simp only [List.mem_cons, List.not_mem_nil, or_false] at member
      rcases member with rfl | rfl
      · exact isSettled_of_lowerChar_eq (by decide) (by decide)
      · exact isSettled_of_lowerChar_eq (by decide) (by decide)
    · rename_i undotted
      obtain rfl := List.mem_singleton.mp member
      exact isSettled_lowerChar undotted

theorem isSettled_of_mem_lower {text : Text} {c : Char} (member : c ∈ lower text) : IsSettled c := by
  suffices general : ∀ before, c ∈ lowerFrom before text → IsSettled c from general [] member
  clear member
  induction text with
  | nil => simp [lowerFrom]
  | cons first rest ih =>
      intro before member
      rw [lowerFrom, List.mem_append] at member
      rcases member with here | later
      · exact isSettled_of_mem_lowerAt here
      · exact ih _ later

/-- Lower case is reached in one step. -/
@[simp] theorem lower_lower (text : Text) : lower (lower text) = lower text :=
  lowerFrom_of_settled (fun _ member => isSettled_of_mem_lower member) []

/-! ### Numbers of characters -/

/-- Only the dotted capital I becomes two characters. -/
theorem length_lower (text : Text) : (lower text).length = text.length + text.count 'İ' := by
  suffices general : ∀ before, (lowerFrom before text).length = text.length + text.count 'İ' from general []
  induction text with
  | nil => exact fun _ => rfl
  | cons c rest ih =>
      intro before
      have here : (lowerAt before c rest).length = 1 + if c = 'İ' then 1 else 0 := by
        unfold lowerAt
        split
        · rename_i sigma
          rw [sigma]
          rfl
        · split <;> rfl
      rw [lowerFrom, List.length_append, here, ih, List.length_cons, List.count_cons]
      simp only [beq_iff_eq]
      omega

/-! ### Characters without case -/

/-- The shift neither takes the code point nor gives it. -/
def CaseShift.Misses (shift : CaseShift) (code : Nat) : Prop :=
  (code < shift.first ∨ shift.last < code) ∧
    ((code : Int) < shift.first + shift.offset ∨ shift.last + shift.offset < (code : Int))

instance (shift : CaseShift) (code : Nat) : Decidable (shift.Misses code) :=
  inferInstanceAs (Decidable (_ ∧ _))

/-- A character that lower case leaves as it is and makes of no other one. -/
structure IsNeutral (c : Char) : Prop where
  caseless : Caseless c
  unshifted : ∀ shift ∈ lowerShifts, shift.Misses c.toNat
  special : c ∉ ['\x00', 'Σ', 'σ', 'ς', 'İ', 'i', '\u0307']

instance (c : Char) : Decidable (IsNeutral c) :=
  decidable_of_iff ((c.isAlpha = false ∧ ∀ shift ∈ lowerShifts, shift.Misses c.toNat) ∧
      c ∉ ['\x00', 'Σ', 'σ', 'ς', 'İ', 'i', '\u0307'])
    ⟨fun ⟨⟨caseless, unshifted⟩, special⟩ => ⟨caseless, unshifted, special⟩,
      fun neutral => ⟨⟨neutral.caseless, neutral.unshifted⟩, neutral.special⟩⟩

namespace IsNeutral

variable {c d : Char} {before rest : Text}

theorem lowerChar_eq_iff (neutral : IsNeutral c) : lowerChar d = c ↔ d = c := by
  have positive : c.toNat ≠ 0 := by
    intro zero
    refine neutral.special ?_
    rw [← Char.ofNat_toNat c, zero]
    exact List.mem_cons_self ..
  unfold lowerChar
  split
  · exact neutral.caseless.toLower_eq_iff
  · unfold shifted
    split
    · rename_i shift found
      obtain ⟨apart, apart'⟩ := neutral.unshifted shift (List.mem_of_find?_eq_some found)
      have covered := List.find?_some (p := fun shift : CaseShift => shift.covers d) found
      simp only [CaseShift.covers, Bool.and_eq_true, decide_eq_true_eq] at covered
      obtain ⟨⟨low, high⟩, _⟩ := covered
      constructor
      · intro image
        rw [CaseShift.apply] at image
        by_cases valid : ((d.toNat : Int) + shift.offset).toNat.isValidChar
        · have code := toNat_ofNat valid
          rw [image] at code
          omega
        · rw [Char.ofNat, dif_neg valid] at image
          exact absurd (image ▸ List.mem_cons_self ..) neutral.special
      · rintro rfl
        omega
    · rfl

theorem lowerAt_eq (neutral : IsNeutral c) (before rest : Text) : lowerAt before c rest = [c] := by
  have sigma : c ≠ 'Σ' := by
    rintro rfl
    exact neutral.special (by decide)
  have dotted : c ≠ 'İ' := by
    rintro rfl
    exact neutral.special (by decide)
  rw [lowerAt, if_neg sigma, if_neg dotted, neutral.lowerChar_eq_iff.mpr rfl]

theorem eq_of_mem_lowerAt (neutral : IsNeutral c) (member : c ∈ lowerAt before d rest) : d = c := by
  have others : ∀ images : List Char, c ∈ images → images ⊆ ['\x00', 'Σ', 'σ', 'ς', 'İ', 'i', '\u0307'] → d = c :=
    fun _ inside special => absurd (special inside) neutral.special
  unfold lowerAt at member
  split at member
  · split at member
    · exact others _ member (by decide)
    · exact others _ member (by decide)
  · split at member
    · exact others _ member (by decide)
    · exact neutral.lowerChar_eq_iff.mp (List.mem_singleton.mp member).symm

end IsNeutral

/-- Lower case leaves the neutral characters of a text where they are among each other. -/
theorem filter_lower {p : Char → Bool} (neutral : ∀ c, p c = true → IsNeutral c) (text : Text) :
    (lower text).filter p = text.filter p := by
  suffices general : ∀ before, (lowerFrom before text).filter p = text.filter p from general []
  induction text with
  | nil => exact fun _ => rfl
  | cons c rest ih =>
      intro before
      have here : (lowerAt before c rest).filter p = [c].filter p := by
        cases kept : p c with
        | true => rw [(neutral c kept).lowerAt_eq]
        | false =>
            rw [List.filter_singleton, kept, List.filter_eq_nil_iff.mpr]
            · rfl
            · intro d member held
              obtain rfl := (neutral d held).eq_of_mem_lowerAt member
              exact Bool.false_ne_true (kept.symm.trans held)
      rw [lowerFrom, List.filter_append, here, ih, ← List.filter_append]
      rfl

/-- Lower case makes no sequence of neutral characters and takes none away. -/
theorem sublist_lower_iff {signs : Text} (neutral : ∀ c ∈ signs, IsNeutral c) (text : Text) :
    signs.Sublist (lower text) ↔ signs.Sublist text := by
  let kept : Char → Bool := fun c => signs.contains c
  have all : signs.filter kept = signs := List.filter_eq_self.mpr fun c member => List.contains_iff_mem.mpr member
  have same : (lower text).filter kept = text.filter kept :=
    filter_lower (fun c member => neutral c (List.contains_iff_mem.mp member)) text
  have among : ∀ text : Text, signs.Sublist text ↔ signs.Sublist (text.filter kept) := fun text =>
    ⟨fun sublist => all ▸ sublist.filter kept, fun sublist => sublist.trans List.filter_sublist⟩
  rw [among, same, ← among]

/-- Characters between the blanks and the small letters that are no letters. -/
structure IsSign (c : Char) : Prop where
  low : 0x20 < c.toNat
  high : c.toNat ≤ 0x60
  caseless : Caseless c

instance (c : Char) : Decidable (IsSign c) :=
  decidable_of_iff ((0x20 < c.toNat ∧ c.toNat ≤ 0x60) ∧ c.isAlpha = false)
    ⟨fun ⟨⟨low, high⟩, caseless⟩ => ⟨low, high, caseless⟩, fun sign => ⟨⟨sign.low, sign.high⟩, sign.caseless⟩⟩

theorem lowerShifts_high :
    (lowerShifts.all fun shift => decide ((0x60 : Int) < shift.first + shift.offset)) = true := by
  decide +kernel

theorem IsSign.isNeutral {sign : Char} (isSign : IsSign sign) : IsNeutral sign where
  caseless := isSign.caseless
  unshifted shift member := by
    have below := isSign.high
    have first := first_of_mem_lowerShifts member
    have image := List.all_eq_true.mp lowerShifts_high shift member
    rw [decide_eq_true_eq] at image
    exact ⟨.inl (by omega), .inl (by omega)⟩
  special member := by
    have apart : ∀ c ∈ ['\x00', 'Σ', 'σ', 'ς', 'İ', 'i', '\u0307'], ¬ (0x20 < c.toNat ∧ c.toNat ≤ 0x60) := by decide
    exact apart sign member ⟨isSign.low, isSign.high⟩

theorem IsSign.count_lower {sign : Char} (isSign : IsSign sign) (text : Text) :
    (lower text).count sign = text.count sign := by
  have neutral : ∀ c, (c == sign) = true → IsNeutral c := fun c same => beq_iff_eq.mp same ▸ isSign.isNeutral
  rw [List.count, List.countP_eq_length_filter, filter_lower neutral, ← List.countP_eq_length_filter]

/-! ### Blanks -/

theorem isNeutral_of_isBlank {c : Char} : isBlank c = true → IsNeutral c :=
  of_isBlank IsNeutral (by decide +kernel)

theorem not_isBlank_of_mem_lowerAt {before rest : Text} {c d : Char} (unblank : isBlank c = false)
    (member : d ∈ lowerAt before c rest) : isBlank d = false := by
  refine Bool.eq_false_iff.mpr fun blank => ?_
  obtain rfl := (isNeutral_of_isBlank blank).eq_of_mem_lowerAt member
  exact Bool.false_ne_true (unblank.symm.trans blank)

theorem lowerAt_ne_nil (before rest : Text) (c : Char) : lowerAt before c rest ≠ [] := by
  unfold lowerAt
  split
  · exact List.cons_ne_nil _ _
  · split <;> exact List.cons_ne_nil _ _

theorem ends_lower {text : Text} (first : Ends isBlank text) : Ends isBlank (lower text) := by
  cases text with
  | nil => exact first
  | cons c rest =>
      have here : Ends isBlank (lowerAt [] c rest) := fun d member =>
        not_isBlank_of_mem_lowerAt (ends_cons.mp first) (List.mem_of_mem_head? member)
      exact here.append (lowerAt_ne_nil _ _ _) _

theorem ends_reverse_lower {text : Text} (last : Ends isBlank text.reverse) : Ends isBlank (lower text).reverse := by
  suffices general : ∀ before, Ends isBlank (lowerFrom before text).reverse from general []
  induction text with
  | nil => exact fun _ => ends_nil
  | cons c rest ih =>
      intro before
      obtain ⟨only, further⟩ := ends_reverse_cons.mp last
      rw [lowerFrom]
      by_cases empty : rest = []
      · rw [empty, lowerFrom, List.append_nil]
        intro d member
        exact not_isBlank_of_mem_lowerAt (only empty) (List.mem_reverse.mp (List.mem_of_mem_head? member))
      · obtain ⟨d, later, rfl⟩ := List.exists_cons_of_ne_nil empty
        have some' : lowerFrom (c :: before) (d :: later) ≠ [] := fun none' =>
          lowerAt_ne_nil _ _ _ (List.append_eq_nil_iff.mp none').1
        exact (ends_reverse_append some').mpr (ih further _)

/-- A trimmed text stays trimmed in lower case. -/
theorem trim_lower_trim (text : Text) : trim (lower (trim text)) = lower (trim text) := by
  obtain ⟨_, _, _, _, _, first, last⟩ := exists_trim text
  exact trim_eq_self (ends_lower first) (ends_reverse_lower last)

end Schemata.Text
