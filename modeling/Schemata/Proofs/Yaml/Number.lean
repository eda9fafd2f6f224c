import Schemata.Proofs.Reader.Settled
import Schemata.Proofs.Yaml.Plain

/-!
The words that documents are written with: whole numbers, truth values and null. Each reads as the value
that it was written for.
-/

namespace Schemata

namespace Reader

variable {α β : Type}

/-- A text without the character cannot be read. -/
def Needs (c : Char) (reader : Reader α) : Prop :=
  ∀ text way, way ∈ reader text → c ∈ text

theorem needs_left {c : Char} {reader : Reader α} (needs : Needs c reader) (next : α → Reader β) :
    Needs c (reader >>= next) := by
  rintro text ⟨b, left⟩ member
  obtain ⟨a, middle, here, _⟩ := mem_bind.mp member
  exact needs text _ here

theorem needs_right {c : Char} {reader : Reader α} {next : α → Reader β} (leaves : LeavesEnd reader)
    (needs : ∀ a, Needs c (next a)) : Needs c (reader >>= next) := by
  rintro text ⟨b, left⟩ member
  obtain ⟨a, middle, here, there⟩ := mem_bind.mp member
  exact (leaves text _ here).subset (needs a middle _ there)

theorem needs_either {c : Char} {one other : Reader α} (first : Needs c one) (second : Needs c other) :
    Needs c (either one other) := by
  intro text way member
  exact (mem_either.mp member).elim (first text way) (second text way)

theorem needs_char (c : Char) : Needs c (char (· == c)) := by
  intro text way member
  cases text with
  | nil => cases member
  | cons d rest =>
      rw [char] at member
      split at member
      · rename_i same
        exact beq_iff_eq.mp same ▸ List.mem_cons_self ..
      · cases member

theorem needs_exactly (c : Char) (rest : Text) : Needs c (exactly (c :: rest)) :=
  needs_left (needs_char c) _

end Reader

namespace Yaml

open Reader

theorem leavesEnd_one (accepted : Char → Bool) : LeavesEnd (one accepted) :=
  leavesEnd_bind (leavesEnd_char accepted) fun _ => leavesEnd_pure ()

theorem leavesEnd_optional {reader : Reader Unit} (leaves : LeavesEnd reader) :
    LeavesEnd (optional reader) :=
  leavesEnd_bind (leavesEnd_maybe leaves) fun _ => leavesEnd_pure ()

theorem leavesEnd_oneSixtyAtLeast : LeavesEnd oneSixtyAtLeast := by
  have digits : LeavesEnd (do optional (one fun c => '0' ≤ c && c ≤ '5'); one isDigit) :=
    leavesEnd_bind (leavesEnd_optional (leavesEnd_one _)) fun _ => leavesEnd_one isDigit
  refine leavesEnd_bind (leavesEnd_one _) fun _ => leavesEnd_bind
    (leavesEnd_optional (leavesEnd_one _)) fun _ => leavesEnd_bind (leavesEnd_one _) fun _ => ?_
  exact leavesEnd_repeated (leavesEnd_bind (leavesEnd_one _) fun _ => digits)

/-- Every number with a fraction has a point. -/
theorem needs_float : Needs '.' float := by
  have sign : LeavesEnd (optional (one isSign)) := leavesEnd_optional (leavesEnd_one _)
  have whole : LeavesEnd (one isDigit) := leavesEnd_one _
  have digits : LeavesEnd (run isDigitOrMark) := leavesEnd_run _
  have point : Needs '.' (exactly ".".toList) := needs_exactly '.' []
  refine needs_either ?pointed (needs_either ?fractional
    (needs_either ?sexagesimal (needs_either ?infinity ?notANumber)))
  case pointed =>
    exact needs_right sign fun _ => needs_right whole fun _ => needs_right digits fun _ =>
      needs_left point _
  case fractional => exact needs_left point _
  case sexagesimal =>
    exact needs_right sign fun _ => needs_right whole fun _ => needs_right digits fun _ =>
      needs_right leavesEnd_oneSixtyAtLeast fun _ => needs_left point _
  case infinity =>
    exact needs_right sign fun _ => needs_either (needs_exactly '.' _)
      (needs_either (needs_exactly '.' _) (needs_exactly '.' _))
  case notANumber =>
    exact needs_either (needs_exactly '.' _) (needs_either (needs_exactly '.' _) (needs_exactly '.' _))

theorem not_fits_of_needs {reader : Reader Unit} {c : Char} (needs : Needs c reader) {s : Text}
    (without : c ∉ s) : fits reader s = false := by
  unfold fits wholly
  have none : reader.ways s = [] := by
    rw [List.eq_nil_iff_forall_not_mem]
    exact fun way member => without (needs s way member)
  rw [none]
  rfl

theorem fits_of_mem {reader : Reader Unit} {s : Text} (read : ((), []) ∈ reader s) :
    fits reader s = true := by
  rw [fits, wholly, Option.isSome_map, List.find?_isSome]
  exact ⟨_, read, rfl⟩

/-! ### Whole numbers -/

theorem isDigit_of_mem_digits {n : Nat} {c : Char} (member : c ∈ Nat.toDigits 10 n) : c.isDigit = true :=
  Nat.isDigit_of_mem_toDigits (by decide) (by decide) member

theorem integerText_natCast (n : Nat) : Value.integerText n = Nat.toDigits 10 n := by
  simp [Value.integerText]

theorem digits_filled (n : Nat) : Nat.toDigits 10 n ≠ [] := by
  rw [Nat.toDigits_eq_if (by decide)]
  split <;> simp

theorem hexValue_digitChar : ∀ d < 10, Text.hexValue d.digitChar = d := by
  decide

theorem inBase_digits (n : Nat) : Text.inBase 10 (Nat.toDigits 10 n) = n := by
  induction n using Nat.strongRecOn with
  | _ n ih =>
      by_cases small : n < 10
      · rw [Nat.toDigits_of_lt_base small]
        have value := Text.inBase_concat 10 [] n.digitChar
        rw [List.nil_append] at value
        rw [value, hexValue_digitChar n small]
        simp
      · have large : 10 ≤ n := Nat.le_of_not_lt small
        rw [Nat.toDigits_of_base_le (by decide) large, Text.inBase_concat, ih (n / 10) (by omega),
          hexValue_digitChar _ (Nat.mod_lt n (by decide)), Nat.div_add_mod']

/-- No zeros stand before a number. -/
theorem startsPositive_digits {n : Nat} (positive : 0 < n) :
    ∃ c rest, Nat.toDigits 10 n = c :: rest ∧ startsPositive c = true := by
  have checked : ∀ d < 10, 0 < d → startsPositive d.digitChar = true := by decide
  induction n using Nat.strongRecOn with
  | _ n ih =>
      by_cases small : n < 10
      · exact ⟨_, [], Nat.toDigits_of_lt_base small, checked n small positive⟩
      · have large : 10 ≤ n := Nat.le_of_not_lt small
        obtain ⟨c, rest, digits, starts⟩ := ih (n / 10) (by omega) (by omega)
        rw [Nat.toDigits_of_base_le (by decide) large, digits]
        exact ⟨c, _, rfl, starts⟩

theorem mem_optional (reader : Reader Unit) (text : Text) : ((), text) ∈ optional reader text :=
  mem_bind.mpr ⟨none, text, mem_either.mpr (Or.inr (List.mem_singleton_self _)), List.mem_singleton_self _⟩

theorem fits_integer (n : Nat) : fits integer (Nat.toDigits 10 n) = true := by
  have decimal : ((), []) ∈ decimalInteger (Nat.toDigits 10 n) := by
    cases n with
    | zero => exact mem_either.mpr (Or.inl (by decide))
    | succ n =>
        obtain ⟨c, rest, digits, starts⟩ := startsPositive_digits (Nat.succ_pos n)
        have digital : ∀ d ∈ rest, isDigitOrMark d = true := by
          intro d member
          have digit := isDigit_of_mem_digits (n := n + 1) (digits ▸ List.mem_cons_of_mem c member)
          rw [isDigitOrMark, digit, Bool.true_or]
        rw [digits]
        refine mem_either.mpr (Or.inr (mem_bind.mpr ⟨(), rest, ?_, ?_⟩))
        · refine mem_bind.mpr ⟨c, rest, ?_, List.mem_singleton_self _⟩
          rw [char, if_pos starts]
          exact List.mem_singleton_self _
        · exact mem_run.mpr ⟨rest, (List.append_nil rest).symm, digital⟩
  refine fits_of_mem (mem_bind.mpr ⟨(), _, mem_optional _ _, ?_⟩)
  exact mem_either.mpr (Or.inr (mem_either.mpr (Or.inr (mem_either.mpr (Or.inl decimal)))))

theorem not_isOneOf_digits {words : List String}
    (letters : ∀ word ∈ words, word.toList.any fun c => !c.isDigit) (n : Nat) :
    isOneOf words (Nat.toDigits 10 n) = false := by
  rw [isOneOf, List.any_eq_false]
  intro word member same
  obtain ⟨c, inside, letter⟩ := List.any_eq_true.mp (letters word member)
  rw [beq_iff_eq.mp same] at inside
  simp [isDigit_of_mem_digits inside] at letter

theorem implicitKind?_digits (n : Nat) : implicitKind? (Nat.toDigits 10 n) = some .integer := by
  have pointless : '.' ∉ Nat.toDigits 10 n := fun member =>
    absurd (isDigit_of_mem_digits member) (by decide)
  rw [implicitKind?, not_isOneOf_digits (by decide), not_isOneOf_digits (by decide),
    not_fits_of_needs needs_float pointless, fits_integer]
  rfl

theorem splitSign_digits (n : Nat) : splitSign (Nat.toDigits 10 n) = (false, Nat.toDigits 10 n) := by
  have unmarked : (Nat.toDigits 10 n).filter (· != '_') = Nat.toDigits 10 n := by
    rw [List.filter_eq_self]
    intro c member
    rw [bne_iff_ne]
    rintro rfl
    exact absurd (isDigit_of_mem_digits member) (by decide)
  unfold splitSign
  rw [unmarked]
  split
  · rename_i digits
    exact absurd (isDigit_of_mem_digits (n := n) (digits ▸ List.mem_cons_self ..)) (by decide)
  · rename_i digits
    exact absurd (isDigit_of_mem_digits (n := n) (digits ▸ List.mem_cons_self ..)) (by decide)
  · rfl

theorem digitsValue_digits {n : Nat} (short : n < 10 ^ Text.digitLimit) :
    digitsValue 10 (Nat.toDigits 10 n) = .ok n := by
  have length : (Nat.toDigits 10 n).length ≤ Text.digitLimit :=
    (Nat.length_toDigits_le_iff (by decide) (by decide)).mpr short
  rw [digitsValue, if_neg (by simp), if_neg fun long => Nat.not_le.mpr long.2 length,
    inBase_digits]
  rfl

/-- Without a colon there is one group of sixty. -/
theorem inSixties_digits {n : Nat} (short : n < 10 ^ Text.digitLimit) :
    inSixties ((Nat.toDigits 10 n).splitOn ':') = .ok n := by
  have colon : ':' ∉ Nat.toDigits 10 n := fun member =>
    absurd (isDigit_of_mem_digits member) (by decide)
  rw [List.splitOn_eq_singleton colon, inSixties, List.foldlM_cons, digitsValue_digits short]
  simp [bind, Except.bind, pure, Except.pure]

theorem integerValue_digits {n : Nat} (short : n < 10 ^ Text.digitLimit) :
    integerValue (Nat.toDigits 10 n) = .ok (n : Int) := by
  have sixties := inSixties_digits short
  rw [integerValue, splitSign_digits]
  dsimp only
  cases n with
  | zero => rfl
  | succ n =>
      obtain ⟨c, rest, digits, starts⟩ := startsPositive_digits (Nat.succ_pos n)
      have positive : c ≠ '0' := by
        rintro rfl
        exact absurd starts (by decide)
      rw [digits] at sixties ⊢
      split
      · rename_i same
        exact absurd (List.cons.inj same).1 positive
      · rename_i same
        exact absurd (List.cons.inj same).1 positive
      · rename_i same
        exact absurd (List.cons.inj same).1 positive
      · rw [sixties]
        rfl

/-- A number in decimal digits reads as the number, unless it has more digits than are read. -/
theorem plainValue_digits {n : Nat} (short : n < 10 ^ Text.digitLimit) :
    plainValue (Nat.toDigits 10 n) = .ok (.int n) := by
  rw [plainValue, implicitKind?_digits, integerValue_digits short]
  rfl

/-! ### Words -/

theorem plainValue_null : plainValue "null".toList = .ok .null := by
  have kind : implicitKind? "null".toList = some .null := by decide
  rw [plainValue, kind]
  rfl

theorem plainValue_bool (b : Bool) :
    plainValue (if b then "true".toList else "false".toList) = .ok (.bool b) := by
  have kind : implicitKind? (if b then "true".toList else "false".toList) = some .truth := by
    cases b <;> decide
  rw [plainValue, kind]
  cases b <;> rfl

theorem plainValue_text {s : Text} (unknown : implicitKind? s = none) :
    plainValue s = .ok (.text s) := by
  rw [plainValue, unknown]
  rfl

theorem isNameChar_of_isDigit {c : Char} (digit : c.isDigit = true) : isNameChar c = true := by
  simp only [Char.isDigit, ge_iff_le, Bool.and_eq_true, decide_eq_true_eq, UInt32.le_iff_toNat_le] at digit
  have low : 48 ≤ c.toNat := digit.1
  have high : c.toNat ≤ 57 := digit.2
  simp [isNameChar, low, high]

/-- The words that are not texts. -/
theorem isNameChar_of_word (b : Bool) (n : Nat) :
    (∀ c ∈ "null".toList, isNameChar c = true) ∧
      (∀ c ∈ if b then "true".toList else "false".toList, isNameChar c = true) ∧
      ∀ c ∈ Nat.toDigits 10 n, isNameChar c = true :=
  ⟨List.all_eq_true.mp (by decide), List.all_eq_true.mp (by cases b <;> decide),
    fun _ member => isNameChar_of_isDigit (isDigit_of_mem_digits member)⟩

end Yaml

end Schemata
