import Schemata.Proofs.Yaml.Plain

/-!
Quoted scalars as they are written and read. Blanks are read in runs, so a text is taken apart with
the blanks that stand before it.
-/

namespace Schemata.Yaml

/-- Inside quotes this character is neither white space nor the end of a line. -/
def isSolid (c : Char) : Bool :=
  c != ' ' && c != '\t' && !isBreak c

theorem isSolid_of_shown {c : Char} (shown : needsEscape c = false) (filled : c ≠ ' ')
    (inside : c ≠ '\n') : isSolid c = true := by
  have unbroken := not_isBreak_of_ne shown inside
  have tab : c ≠ '\t' := by
    rintro rfl
    exact absurd shown (by decide)
  simp [isSolid, filled, tab, unbroken]

theorem quotedGap_blanks {c : Char} (solid : isSolid c = true) (count : Nat) (rest : Text) :
    quotedGap (blanks count ++ c :: rest) = some (blanks count, c :: rest) := by
  simp only [isSolid, Bool.and_eq_true, bne_iff_ne, Bool.not_eq_true'] at solid
  rw [quotedGap, span_blanks (by decide) (by simp [solid])]
  simp [solid]

theorem quotedLines_blanks {c : Char} (solid : isSolid c = true) (count : Nat) (rest : Text) :
    quotedLines false (blanks count ++ c :: rest) = some ([], c :: rest) := by
  simp only [isSolid, Bool.and_eq_true, bne_iff_ne, Bool.not_eq_true'] at solid
  induction count with
  | zero => simp [blanks, quotedLines, solid]
  | succ count ih =>
      rw [blanks_succ, List.cons_append, quotedLines, if_neg (by simp), if_pos (by simp), ih]

/-- A line that is indented goes on at its first character. -/
theorem quotedLines_indented {c : Char} (solid : isSolid c = true) (indent : Nat) (rest : Text) :
    quotedLines true (blanks (indent + 1) ++ c :: rest) = some ([], c :: rest) := by
  rw [blanks_succ, List.cons_append, quotedLines, startsMarker_blank, if_neg (by simp),
    if_pos (by simp), quotedLines_blanks solid]

theorem quotedLines_break {rest breaks left : Text} (lines : quotedLines true rest = some (breaks, left)) :
    quotedLines true ('\n' :: rest) = some ('\n' :: breaks, left) := by
  have unmarked : startsMarker ('\n' :: rest) = false := rfl
  rw [quotedLines, unmarked, if_neg (by simp), if_neg (by decide), if_pos (by decide), lines]
  rfl

theorem quotedGap_break (rest : Text) :
    quotedGap ('\n' :: rest) =
      (quotedLines true rest).map fun (breaks, left) => (foldedBreaks '\n' breaks, left) := rfl

/-! ### Double quotes -/

/-- What follows a double quote reads as a text, before what is left. -/
def DoubleReads (written s left : Text) : Prop :=
  ∀ count, written.length < count → doubleParts count written = .ok (s, left)

namespace DoubleReads

variable {written s left : Text} {c : Char}

theorem close (left : Text) : DoubleReads ('"' :: left) [] left := by
  intro count enough
  obtain ⟨count, rfl⟩ := Nat.exists_eq_add_of_le' (Nat.le_trans (Nat.le_add_left 1 _) enough)
  rw [doubleParts, if_pos rfl]
  rfl

theorem char (reads : DoubleReads written s left) (solid : isSeparator c = false)
    (quote : c ≠ '"') (backslash : c ≠ '\\') : DoubleReads (c :: written) (c :: s) left := by
  intro count enough
  obtain ⟨count, rfl⟩ := Nat.exists_eq_add_of_le' (Nat.le_trans (Nat.le_add_left 1 _) enough)
  rw [doubleParts, if_neg quote, if_neg backslash, solid, if_neg Bool.false_ne_true]
  have rest := reads count (Nat.lt_of_succ_lt_succ enough)
  simp only [pure, Except.pure, bind, Except.bind, rest]
  rfl

theorem escape {name part : Text} (reads : DoubleReads written s left)
    (read : readEscape (name ++ written) = .ok (part, written)) :
    DoubleReads ('\\' :: name ++ written) (part ++ s) left := by
  intro count enough
  obtain ⟨count, rfl⟩ := Nat.exists_eq_add_of_le' (Nat.le_trans (Nat.le_add_left 1 _) enough)
  have shorter : written.length < count := by
    rw [List.length_append, List.length_cons] at enough
    omega
  rw [List.cons_append, doubleParts, if_neg (by decide), if_pos rfl, read]
  simp only [pure, Except.pure, bind, Except.bind, reads count shorter]

/-- Blanks on one line read as they are. -/
theorem blanks (reads : DoubleReads (c :: written) s left) (solid : isSolid c = true) (count : Nat) :
    DoubleReads (blanks count ++ c :: written) (blanks count ++ s) left := by
  cases count with
  | zero => exact reads
  | succ extra =>
      intro count enough
      obtain ⟨count, rfl⟩ := Nat.exists_eq_add_of_le' (Nat.le_trans (Nat.le_add_left 1 _) enough)
      have shorter : (c :: written).length < count := by
        rw [List.length_append, Yaml.blanks, List.length_replicate] at enough
        omega
      have gap := quotedGap_blanks solid (extra + 1) written
      rw [blanks_succ, List.cons_append] at gap ⊢
      rw [doubleParts, if_neg (by decide), if_neg (by decide), if_pos (by decide), gap]
      simp only [ReadError.required, pure, Except.pure, bind, Except.bind, reads count shorter]

/-- An escaped line break and the indentation after it stand for nothing. -/
theorem fold (reads : DoubleReads (c :: written) s left) (solid : isSolid c = true) (indent : Nat) :
    DoubleReads ('\\' :: lineAt (indent + 1) ++ c :: written) s left := by
  have lines := quotedLines_indented solid indent written
  have read : readEscape (lineAt (indent + 1) ++ c :: written) = .ok ([], c :: written) := by
    change ReadError.required (quotedLines true (Yaml.blanks (indent + 1) ++ c :: written)) = _
    rw [lines]
    rfl
  exact reads.escape read

theorem blankEscape (reads : DoubleReads written s left) :
    DoubleReads ('\\' :: ' ' :: written) (' ' :: s) left := by
  have read : readEscape ([' '] ++ written) = .ok ([' '], written) := rfl
  exact reads.escape read

end DoubleReads

/-! ### Escapes -/

/-- Numbers are written with as many hexadecimal digits as asked for. -/
structure SpellsHex (digit : Nat → Char) (digits : Nat → Nat → Text) : Prop where
  nil : ∀ n, digits 0 n = []
  snoc : ∀ count n, digits (count + 1) n = digits count (n / 16) ++ [digit (n % 16)]
  checked : ∀ n < 16, Text.isHexDigit (digit n) = true ∧ Text.hexValue (digit n) = n ∧
    needsEscape (digit n) = false

theorem spellsHex_upperHex : SpellsHex upperHexDigit upperHex :=
  ⟨fun _ => rfl, fun _ _ => rfl, by decide⟩

namespace SpellsHex

variable {digit : Nat → Char} {digits : Nat → Nat → Text} (spells : SpellsHex digit digits)
include spells

theorem length (count n : Nat) : (digits count n).length = count := by
  induction count generalizing n with
  | zero => rw [spells.nil, List.length_nil]
  | succ count ih => rw [spells.snoc, List.length_append, ih, List.length_singleton]

theorem mem_digits {count n : Nat} {c : Char} (member : c ∈ digits count n) : ∃ d < 16, c = digit d := by
  induction count generalizing n with
  | zero =>
      rw [spells.nil] at member
      cases member
  | succ count ih =>
      rw [spells.snoc, List.mem_append, List.mem_singleton] at member
      rcases member with before | last
      · exact ih before
      · exact ⟨n % 16, Nat.mod_lt n (by decide), last⟩

theorem inBase {count n : Nat} (small : n < 16 ^ count) : Text.inBase 16 (digits count n) = n := by
  induction count generalizing n with
  | zero =>
      rw [spells.nil]
      exact (Nat.lt_one_iff.mp small).symm
  | succ count ih =>
      have quotient : n / 16 < 16 ^ count := by
        rw [Nat.div_lt_iff_lt_mul (by decide), ← Nat.pow_succ]
        exact small
      obtain ⟨_, value, _⟩ := spells.checked (n % 16) (Nat.mod_lt n (by decide))
      rw [spells.snoc, Text.inBase_concat, ih quotient, value, Nat.div_add_mod']

/-- An escape by its digits reads as the code point that they spell. -/
theorem readEscape {count n : Nat} {letter : Char} (mark : (letter, count) ∈ [('x', 2), ('u', 4), ('U', 8)])
    (small : n < 16 ^ count) (valid : n ≤ 0x10ffff) (left : Text) :
    readEscape (letter :: digits count n ++ left) = .ok ([Text.charOf n], left) := by
  have digital : (digits count n).all Text.isHexDigit = true := by
    refine List.all_eq_true.mpr fun c member => ?_
    obtain ⟨d, small, rfl⟩ := spells.mem_digits member
    exact (spells.checked d small).1
  have read : hexNumber count (digits count n ++ left) = some (n, left) := by
    have length := spells.length count n
    simp [hexNumber, length, digital, spells.inBase small]
  have code : codeEscape count (digits count n ++ left) = .ok ([Text.charOf n], left) := by
    rw [codeEscape, read]
    simp only [ReadError.required, pure, Except.pure, bind, Except.bind]
    rw [if_neg (by omega), if_neg (by omega)]
  simp only [List.mem_cons, Prod.mk.injEq, List.not_mem_nil, or_false] at mark
  rcases mark with ⟨rfl, rfl⟩ | ⟨rfl, rfl⟩ | ⟨rfl, rfl⟩ <;> exact code

end SpellsHex

theorem readEscape_letter {n : Nat} {letter : Char} (found : letterEscapes.lookup n = some letter)
    (left : Text) : readEscape (letter :: left) = .ok ([Text.charOf n], left) := by
  have checked : ∀ entry ∈ letterEscapes, letterEscape? entry.2 = some entry.1 := by decide
  obtain ⟨before, after, split, _⟩ := List.lookup_eq_some_iff.mp found
  have member : (n, letter) ∈ letterEscapes := by simp [split]
  rw [readEscape, checked _ member]
  rfl

theorem codeOf_le (c : Char) : Text.codeOf c ≤ 0x10ffff := by
  have valid : c.toNat ≤ 0x10ffff := by
    have bounds := c.valid
    rcases bounds with low | ⟨_, high⟩
    · exact Nat.le_of_lt (Nat.lt_of_lt_of_le low (by decide))
    · exact Nat.le_of_lt_succ high
  unfold Text.codeOf
  split
  · omega
  · exact valid

theorem charOf_codeOf (c : Char) : Text.charOf (Text.codeOf c) = c := by
  unfold Text.codeOf
  split
  · rename_i half
    simp only [Text.standsForHalf, Bool.and_eq_true, decide_eq_true_eq] at half
    have shifted : Text.isHalf (c.toNat - 0x100000) = true := by
      simp only [Text.isHalf, Bool.and_eq_true, decide_eq_true_eq]
      omega
    rw [Text.charOf, if_pos shifted, Nat.sub_add_cancel (by omega), Char.ofNat_toNat]
  · have whole : Text.isHalf c.toNat = false := by
      rw [Text.isHalf, Bool.and_eq_false_iff, decide_eq_false_iff_not, decide_eq_false_iff_not]
      rcases c.valid with low | ⟨high, _⟩
      · exact Or.inl (Nat.not_le.mpr low)
      · exact Or.inr (Nat.not_lt.mpr high)
    rw [Text.charOf, if_neg (by simp [whole]), Char.ofNat_toNat]

/-- An escape without its backslash reads as its code point. -/
theorem readEscape_escape {n : Nat} (valid : n ≤ 0x10ffff) :
    ∃ name, escape n = '\\' :: name ∧
      ∀ left, readEscape (name ++ left) = .ok ([Text.charOf n], left) := by
  refine ⟨_, rfl, fun left => ?_⟩
  cases found : letterEscapes.lookup n with
  | some letter => exact readEscape_letter found left
  | none =>
      dsimp only
      split
      · exact spellsHex_upperHex.readEscape (by simp) (by omega) valid left
      · split
        · exact spellsHex_upperHex.readEscape (by simp) (by omega) valid left
        · exact spellsHex_upperHex.readEscape (by simp) (by omega) valid left

theorem exists_escape (n : Nat) : ∃ name, escape n = '\\' :: name := ⟨_, rfl⟩

theorem DoubleReads.escaped {written s left : Text} (reads : DoubleReads written s left) (c : Char)
    (count : Nat) :
    DoubleReads (Yaml.blanks count ++ (Yaml.escape (Text.codeOf c) ++ written))
      (Yaml.blanks count ++ c :: s) left := by
  obtain ⟨name, named, read⟩ := readEscape_escape (codeOf_le c)
  rw [charOf_codeOf] at read
  rw [named]
  exact (reads.escape (read written)).blanks (by decide) count

/-- What is not escaped is a character of its own inside double quotes. -/
theorem ne_of_not_isEscaped {c : Char} (shown : isEscaped c = false) :
    needsEscape c = false ∧ c ≠ '\n' ∧ c ≠ '"' ∧ c ≠ '\\' := by
  simp only [isEscaped, Bool.or_eq_false_iff, beq_eq_false_iff_ne, Bool.not_eq_false'] at shown
  obtain ⟨⟨quote, backslash⟩, printed⟩ := shown
  refine ⟨by rw [needsEscape, printed, Bool.or_true, Bool.not_true], ?_, quote, backslash⟩
  rintro rfl
  exact absurd printed (by decide)

theorem DoubleReads.shown {written s left : Text} {c : Char} (reads : DoubleReads written s left)
    (shown : isEscaped c = false) (filled : c ≠ ' ') : DoubleReads (c :: written) (c :: s) left := by
  obtain ⟨printed, inside, quote, backslash⟩ := ne_of_not_isEscaped shown
  exact reads.char (not_isSeparator printed inside filled) quote backslash

variable {indent : Nat}

/-- The first character that is written is a blank only if the text begins with one. -/
theorem doubleFrom_cons {c : Char} (filled : c ≠ ' ') (indent column : Nat) (fresh first : Bool) (s : Text) :
    ∃ d written, doubleFrom indent column fresh first (c :: s) = d :: written ∧ isSolid d = true := by
  rw [doubleFrom]
  obtain ⟨name, named⟩ := exists_escape (Text.codeOf c)
  have backslash : isSolid '\\' = true := by decide
  dsimp only
  rw [named]
  split
  · split
    · split
      · exact ⟨_, _, rfl, backslash⟩
      · exact ⟨_, _, rfl, backslash⟩
    · exact ⟨_, _, rfl, backslash⟩
  · rename_i shown
    obtain ⟨printed, inside, _, _⟩ := ne_of_not_isEscaped (Bool.eq_false_iff.mpr shown)
    split
    · exact ⟨_, _, rfl, backslash⟩
    · exact ⟨_, _, rfl, isSolid_of_shown printed filled inside⟩

theorem blanks_append (count : Nat) (rest : Text) :
    blanks count ++ ' ' :: rest = blanks (count + 1) ++ rest := by
  rw [blanks, blanks, List.replicate_succ', List.append_assoc]
  rfl

/-- A blank at the beginning of a new line stays on it. -/
theorem doubleFrom_blank (room : indent < width) (s : Text) :
    doubleFrom indent (indent + 1) true false (' ' :: s) =
      ' ' :: doubleFrom indent (indent + 2) false false s := by
  have narrow : ¬ width < indent + 1 := by omega
  rw [doubleFrom]
  simp [isEscaped, narrow]

/-- A text in double quotes reads as it was, wherever on a line it stands, together with the blanks
before it. -/
def TextReads (indent : Nat) (left s : Text) : Prop :=
  ∀ column fresh first count,
    DoubleReads (blanks count ++ (doubleFrom indent column fresh first s ++ '"' :: left))
      (blanks count ++ s) left

namespace TextReads

variable {left rest : Text} {c : Char}

theorem alone (reads : TextReads indent left rest) (column : Nat) (fresh first : Bool) :
    DoubleReads (doubleFrom indent column fresh first rest ++ '"' :: left) rest left :=
  reads column fresh first 0

/-- An escape. Where the line is broken behind it, a blank that comes next is escaped too. -/
theorem escaped (special : isEscaped c = true) (room : indent + 1 < width)
    (reads : TextReads (indent + 1) left rest) (further : TextReads (indent + 1) left rest.tail) :
    TextReads (indent + 1) left (c :: rest) := by
  intro column fresh first count
  rw [doubleFrom]
  dsimp only
  rw [if_pos special]
  split
  · rename_i folds
    split
    · rename_i blank
      obtain ⟨more, rfl⟩ : ∃ more, rest = ' ' :: more := List.head?_eq_some_iff.mp blank
      rw [doubleFrom_blank room]
      have blankRead := (further.alone (indent + 1 + 2) false false).blankEscape
      simpa [List.append_assoc] using (blankRead.fold (by decide) indent).escaped c count
    · rename_i filled
      obtain ⟨d, more, rfl⟩ : ∃ d more, rest = d :: more := by
        cases rest with
        | nil => simp at folds
        | cons d more => exact ⟨d, more, rfl⟩
      obtain ⟨e, written, begins, solid⟩ := doubleFrom_cons (by simpa using filled)
        (indent + 1) (indent + 1) true false more
      have restRead := reads.alone (indent + 1) true false
      rw [begins] at restRead ⊢
      simpa [List.append_assoc] using (restRead.fold solid indent).escaped c count
  · simpa [List.append_assoc] using (reads.alone _ true false).escaped c count

/-- A character that stands for itself. Where the line is broken at a blank, the blank is escaped. -/
theorem shown (printed : isEscaped c = false) (reads : TextReads (indent + 1) left rest) :
    TextReads (indent + 1) left (c :: rest) := by
  intro column fresh first count
  obtain ⟨needless, inside, _, _⟩ := ne_of_not_isEscaped printed
  rw [doubleFrom]
  dsimp only
  rw [printed, if_neg Bool.false_ne_true]
  split
  · split
    · rename_i blank
      subst blank
      have blankRead := (reads.alone (indent + 1 + 2) false false).blankEscape
      simpa [List.append_assoc] using (blankRead.fold (by decide) indent).blanks (by decide) count
    · rename_i filled
      have charRead := (reads.alone (indent + 1 + 1) false false).shown printed filled
      simpa [List.append_assoc] using
        (charRead.fold (isSolid_of_shown needless filled inside) indent).blanks (by decide) count
  · by_cases blank : c = ' '
    · subst blank
      have blanksRead := reads (column + 1) false false (count + 1)
      rwa [← blanks_append, ← blanks_append] at blanksRead
    · exact ((reads.alone (column + 1) false false).shown printed blank).blanks
        (isSolid_of_shown needless blank inside) count

end TextReads

theorem textReads (room : indent + 1 < width) (left s : Text) :
    TextReads (indent + 1) left s ∧ TextReads (indent + 1) left s.tail := by
  induction s with
  | nil =>
      have closes : TextReads (indent + 1) left [] := fun _ _ _ count =>
        (DoubleReads.close left).blanks (by decide) count
      exact ⟨closes, closes⟩
  | cons c rest ih =>
      refine ⟨?_, ih.1⟩
      cases special : isEscaped c with
      | true => exact .escaped special room ih.1 ih.2
      | false => exact .shown special ih.1

/-! ### Single quotes -/

/-- What follows a single quote reads as a text, before what is left. -/
def SingleReads (written s left : Text) : Prop :=
  ∀ count, written.length < count → singleParts count written = .ok (s, left)

namespace SingleReads

variable {written s left : Text} {c : Char}

theorem close (alone : left.head? ≠ some '\'') : SingleReads ('\'' :: left) [] left := by
  intro count enough
  obtain ⟨count, rfl⟩ := Nat.exists_eq_add_of_le' (Nat.le_trans (Nat.le_add_left 1 _) enough)
  unfold singleParts
  rw [if_pos rfl]
  cases left with
  | nil => rfl
  | cons c rest =>
      split
      · rename_i same
        exact absurd (congrArg List.head? same) alone
      · rfl

theorem char (reads : SingleReads written s left) (solid : isSeparator c = false) (quote : c ≠ '\'') :
    SingleReads (c :: written) (c :: s) left := by
  intro count enough
  obtain ⟨count, rfl⟩ := Nat.exists_eq_add_of_le' (Nat.le_trans (Nat.le_add_left 1 _) enough)
  have rest := reads count (Nat.lt_of_succ_lt_succ enough)
  unfold singleParts
  rw [if_neg quote, solid, if_neg Bool.false_ne_true, rest]
  rfl

theorem quote (reads : SingleReads written s left) :
    SingleReads ('\'' :: '\'' :: written) ('\'' :: s) left := by
  intro count enough
  obtain ⟨count, rfl⟩ := Nat.exists_eq_add_of_le' (Nat.le_trans (Nat.le_add_left 1 _) enough)
  have shorter : written.length < count := by
    rw [List.length_cons, List.length_cons] at enough
    omega
  unfold singleParts
  rw [if_pos rfl]
  simp only [reads count shorter]
  rfl

/-- White space reads as `quotedGap` gives it. -/
theorem gap {space : Char} {rest gap : Text} (reads : SingleReads written s left)
    (separates : isSeparator space = true) (read : quotedGap (space :: rest) = some (gap, written))
    (shorter : written.length ≤ rest.length) : SingleReads (space :: rest) (gap ++ s) left := by
  intro count enough
  obtain ⟨count, rfl⟩ := Nat.exists_eq_add_of_le' (Nat.le_trans (Nat.le_add_left 1 _) enough)
  have quote : space ≠ '\'' := by
    rintro rfl
    exact absurd separates (by decide)
  have others := reads count (Nat.lt_of_le_of_lt shorter (Nat.lt_of_succ_lt_succ enough))
  unfold singleParts
  rw [if_neg quote, if_pos separates, read]
  simp only [ReadError.required, pure, Except.pure, bind, Except.bind, others]

theorem blanks (reads : SingleReads (c :: written) s left) (solid : isSolid c = true) (count : Nat) :
    SingleReads (blanks count ++ c :: written) (blanks count ++ s) left := by
  cases count with
  | zero => exact reads
  | succ count => exact reads.gap (by decide) (quotedGap_blanks solid (count + 1) written) (by simp)

/-- A line break with a line's indentation reads as a blank. -/
theorem fold (reads : SingleReads (c :: written) s left) (solid : isSolid c = true) (indent : Nat) :
    SingleReads (lineAt (indent + 1) ++ c :: written) (' ' :: s) left := by
  have read : quotedGap ('\n' :: (Yaml.blanks (indent + 1) ++ c :: written)) =
      some ([' '], c :: written) := by
    rw [quotedGap_break, quotedLines_indented solid]
    rfl
  exact reads.gap (by decide) read (by simp)

end SingleReads

/-- What may stand in single quotes after a character. -/
structure GoesSingle (before : Option Char) (s : Text) : Prop where
  shown : ∀ c ∈ s, needsEscape c = false
  blankBreak : hasNeighbours isSpace isBreak (before.toList ++ s) = false
  breakBlank : hasNeighbours isBreak isSpace (before.toList ++ s) = false

namespace GoesSingle

variable {before : Option Char} {c : Char} {rest : Text}

theorem tail (goes : GoesSingle before (c :: rest)) : GoesSingle (some c) rest where
  shown := fun d member => goes.shown d (List.mem_cons_of_mem c member)
  blankBreak := by
    cases before with
    | none => exact goes.blankBreak
    | some b => exact (Bool.or_eq_false_iff.mp goes.blankBreak).2
  breakBlank := by
    cases before with
    | none => exact goes.breakBlank
    | some b => exact (Bool.or_eq_false_iff.mp goes.breakBlank).2

theorem not_break (goes : GoesSingle (some ' ') (c :: rest)) : c ≠ '\n' := by
  rintro rfl
  exact absurd (Bool.or_eq_false_iff.mp goes.blankBreak).1 (by decide)

theorem not_blank (goes : GoesSingle (some '\n') (c :: rest)) : c ≠ ' ' := by
  rintro rfl
  exact absurd (Bool.or_eq_false_iff.mp goes.breakBlank).1 (by decide)

end GoesSingle

/-- What is written after a line break of a text in single quotes. -/
def singleLine (indent : Nat) (s : Text) : Text :=
  (if s.head? = some '\n' then [] else blanks indent) ++ singleFrom indent indent (some '\n') s

theorem singleFrom_break (indent column : Nat) {before : Option Char} (first : before ≠ some '\n')
    (s : Text) :
    singleFrom indent column before ('\n' :: s) = '\n' :: '\n' :: singleLine indent s := by
  rw [singleFrom, if_pos rfl, if_neg first]
  rfl

theorem singleFrom_breaks (indent column : Nat) (s : Text) :
    singleFrom indent column (some '\n') ('\n' :: s) = '\n' :: singleLine indent s := by
  rw [singleFrom, if_pos rfl, if_pos rfl]
  rfl

theorem singleFrom_cons {c : Char} (filled : c ≠ ' ') (inside : c ≠ '\n')
    (shown : needsEscape c = false) (indent column : Nat) (before : Option Char) (s : Text) :
    ∃ d written, singleFrom indent column before (c :: s) = d :: written ∧ isSolid d = true := by
  rw [singleFrom, if_neg inside]
  split
  · exact ⟨_, _, rfl, by decide⟩
  · have single : isSingleBlank (before == some ' ') c s = false := by simp [isSingleBlank, filled]
    rw [single]
    exact ⟨_, _, rfl, isSolid_of_shown shown filled inside⟩

theorem length_of_quotedLines {atStart : Bool} {s breaks written : Text}
    (lines : quotedLines atStart s = some (breaks, written)) : written.length ≤ s.length := by
  induction s generalizing atStart breaks with
  | nil =>
      cases lines
      exact Nat.le_refl 0
  | cons c rest ih =>
      rw [quotedLines] at lines
      split at lines
      · cases lines
      · split at lines
        · exact Nat.le_succ_of_le (ih lines)
        · split at lines
          · obtain ⟨⟨breaks, left⟩, found, same⟩ := Option.map_eq_some_iff.mp lines
            cases same
            exact Nat.le_succ_of_le (ih found)
          · cases lines
            exact Nat.le_refl _

/-- What a text in single quotes reads as on its line, after `count` blanks. -/
def LineReads (indent : Nat) (left s : Text) : Prop :=
  ∀ before column count, GoesSingle before s → (before = some '\n' → s.head? ≠ some '\n') →
    (0 < count → before = some ' ') →
    SingleReads (blanks count ++ (singleFrom indent column before s ++ '\'' :: left))
      (blanks count ++ s) left

/-- What a text in single quotes reads as after a line break: the breaks that follow at once, and
then the rest. -/
def BreakReads (indent : Nat) (left s : Text) : Prop :=
  GoesSingle (some '\n') s →
    ∃ breaks rest written, s = breaks ++ rest ∧
      quotedLines true (singleLine indent s ++ '\'' :: left) = some (breaks, written) ∧
      SingleReads written rest left

theorem BreakReads.lineFeed {rest left : Text} (afterBreak : BreakReads (indent + 1) left rest)
    {before : Option Char} (goes : GoesSingle before ('\n' :: rest)) (first : before ≠ some '\n')
    (column : Nat) :
    SingleReads (singleFrom (indent + 1) column before ('\n' :: rest) ++ '\'' :: left)
      ('\n' :: rest) left := by
  obtain ⟨breaks, others, written, rfl, lines, reads⟩ := afterBreak goes.tail
  have further := quotedLines_break lines
  have gap : quotedGap ('\n' :: '\n' :: (singleLine (indent + 1) (breaks ++ others) ++ '\'' :: left)) =
      some ('\n' :: breaks, written) := by
    rw [quotedGap_break, further]
    rfl
  rw [singleFrom_break _ _ first]
  exact reads.gap (by decide) gap (length_of_quotedLines further)

/-- A single blank at which the line is broken. -/
theorem LineReads.fold {rest left : Text} (inLine : LineReads (indent + 1) left rest) {before : Option Char}
    (goes : GoesSingle before (' ' :: rest)) (filled : rest ≠ []) (next : rest.head? ≠ some ' ') :
    SingleReads (lineAt (indent + 1) ++ (singleFrom (indent + 1) (indent + 1) (some ' ') rest ++ '\'' :: left))
      (' ' :: rest) left := by
  obtain ⟨d, more, rfl⟩ := List.exists_cons_of_ne_nil filled
  obtain ⟨e, written, begins, solid⟩ := singleFrom_cons (by simpa using next) goes.tail.not_break
    (goes.tail.shown d (List.mem_cons_self ..)) (indent + 1) (indent + 1) (some ' ') more
  have reads : SingleReads (singleFrom (indent + 1) (indent + 1) (some ' ') (d :: more) ++ '\'' :: left)
      (d :: more) left :=
    inLine (some ' ') (indent + 1) 0 goes.tail (fun same => nomatch same) (by simp)
  rw [begins] at reads ⊢
  exact reads.fold solid indent

theorem LineReads.cons {c : Char} {rest left : Text} (inLine : LineReads (indent + 1) left rest)
    (afterBreak : BreakReads (indent + 1) left rest) : LineReads (indent + 1) left (c :: rest) := by
  intro before column count goes notBoth pending
  have shown := goes.shown c (List.mem_cons_self ..)
  have alone (apart : before ≠ some ' ') : count = 0 := by
    by_contra more
    exact apart (pending (Nat.pos_of_ne_zero more))
  by_cases inside : c = '\n'
  · subst inside
    obtain rfl := alone fun same => (same ▸ goes).not_break rfl
    exact afterBreak.lineFeed goes (fun same => notBoth same rfl) column
  · have reads (column : Nat) :
        SingleReads (singleFrom (indent + 1) column (some c) rest ++ '\'' :: left) rest left :=
      inLine (some c) column 0 goes.tail (fun same => absurd (Option.some.inj same) inside) (by simp)
    rw [singleFrom, if_neg inside]
    split
    · rename_i quote
      subst quote
      exact (reads (column + 2)).quote.blanks (by decide) count
    · rename_i quote
      split
      · rename_i folds
        simp only [isSingleBlank, Bool.and_eq_true, beq_iff_eq, Bool.not_eq_true', beq_eq_false_iff_ne,
          bne_iff_ne] at folds
        obtain ⟨⟨⟨⟨⟨rfl, apart⟩, next⟩, _⟩, _⟩, filled⟩ := folds
        obtain rfl := alone apart
        rw [List.append_assoc]
        exact inLine.fold goes (by simpa using filled) next
      · by_cases blank : c = ' '
        · subst blank
          have pendingReads := inLine (some ' ') (column + 1) (count + 1) goes.tail (by simp) (by simp)
          rwa [← blanks_append, ← blanks_append] at pendingReads
        · exact ((reads (column + 1)).char (not_isSeparator shown inside blank) quote).blanks
            (isSolid_of_shown shown blank inside) count

theorem BreakReads.cons {c : Char} {rest left : Text} (whole : LineReads (indent + 1) left (c :: rest))
    (afterBreak : BreakReads (indent + 1) left rest) : BreakReads (indent + 1) left (c :: rest) := by
  intro goes
  by_cases inside : c = '\n'
  · subst inside
    obtain ⟨breaks, others, written, rfl, lines, reads⟩ := afterBreak goes.tail
    refine ⟨'\n' :: breaks, others, written, rfl, ?_, reads⟩
    rw [singleLine, List.head?_cons, if_pos rfl, List.nil_append, singleFrom_breaks]
    exact quotedLines_break lines
  · have filled := goes.not_blank
    obtain ⟨d, written, begins, solid⟩ := singleFrom_cons filled inside
      (goes.shown c (List.mem_cons_self ..)) (indent + 1) (indent + 1) (some '\n') rest
    have reads := whole (some '\n') (indent + 1) 0 goes (fun _ same => inside (Option.some.inj same)) (by simp)
    refine ⟨[], c :: rest, _, rfl, ?_, reads⟩
    rw [singleLine, List.head?_cons, if_neg (by simpa using inside), begins, List.append_assoc]
    exact quotedLines_indented solid indent _

/-- A text in single quotes reads as it was. -/
theorem lineReads_singleFrom {left : Text} (alone : left.head? ≠ some '\'') (s : Text) :
    LineReads (indent + 1) left s ∧ BreakReads (indent + 1) left s := by
  induction s with
  | nil =>
      have closes := SingleReads.close alone
      refine ⟨fun before column count _ _ _ => closes.blanks (by decide) count, fun _ => ?_⟩
      have read : quotedLines true (singleLine (indent + 1) [] ++ '\'' :: left) = some ([], '\'' :: left) := by
        rw [singleLine, singleFrom, List.append_nil]
        exact quotedLines_indented (by decide) indent left
      exact ⟨[], [], _, rfl, read, closes⟩
  | cons c rest ih =>
      have whole : LineReads (indent + 1) left (c :: rest) := ih.1.cons ih.2
      exact ⟨whole, .cons whole ih.2⟩

theorem mayBeSingleQuoted_of_styleOf {s : Text} (style : styleOf s = .singleQuoted) :
    mayBeSingleQuoted s = true := by
  by_contra other
  rw [styleOf, if_neg other] at style
  split at style <;> cases style

theorem readQuoted_singleFrom {left : Text} (alone : left.head? ≠ some '\'') {s : Text}
    (single : mayBeSingleQuoted s = true) (column : Nat) :
    readQuoted '\'' (singleFrom (indent + 1) column none s ++ '\'' :: left) = .ok (s, left) := by
  simp only [mayBeSingleQuoted, Bool.and_eq_true, Bool.not_eq_true'] at single
  obtain ⟨⟨shown, blankBreak⟩, breakBlank⟩ := single
  have goes : GoesSingle none s :=
    ⟨fun c member => by simpa using List.any_eq_false.mp shown c member, blankBreak, breakBlank⟩
  exact (lineReads_singleFrom alone s).1 none column 0 goes (by simp) (by simp) _ (Nat.lt_succ_self _)

theorem readQuoted_doubleFrom (room : indent + 1 < width) (left : Text) (s : Text) (column : Nat) :
    readQuoted '"' (doubleFrom (indent + 1) column false true s ++ '"' :: left) = .ok (s, left) :=
  (textReads room left s).1 column false true 0 _ (Nat.lt_succ_self _)

end Schemata.Yaml
