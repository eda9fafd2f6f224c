import Mathlib.Algebra.Group.Nat.Defs
import Mathlib.Data.List.TakeDrop
import Schemata.Proofs.Yaml.Place
import Schemata.Yaml.ReadScalar

/-!
Plain scalars as they are written and read. A line that is filled ends at a blank without blanks
beside it, which the line break then stands for.
-/

namespace Schemata.Yaml

/-! ### White space -/

theorem span_blanks {blank : Char → Bool} {c : Char} {rest : Text} (space : blank ' ' = true)
    (filled : blank c = false) (count : Nat) :
    (blanks count ++ c :: rest).span blank = (blanks count, c :: rest) := by
  have all : ∀ d ∈ blanks count, blank d = true := by
    intro d member
    rw [List.eq_of_mem_replicate member, space]
  rw [List.span_eq_takeWhile_dropWhile, List.takeWhile_append_of_pos all, List.dropWhile_append_of_pos all,
    List.takeWhile_cons_of_neg (by simp [filled]), List.dropWhile_cons_of_neg (by simp [filled]),
    List.append_nil]

theorem emptyLines_blanks {c : Char} {rest : Text} (begins : beginsToken c = true) (column count : Nat) :
    emptyLines (column + 1) (blanks count ++ c :: rest) = some ([], c :: rest, column + 1 + count) := by
  simp only [beginsToken, Bool.and_eq_true, bne_iff_ne, Bool.not_eq_true'] at begins
  induction count generalizing column with
  | zero => simp [blanks, emptyLines, begins]
  | succ count ih =>
      rw [blanks_succ, List.cons_append, emptyLines, if_neg (by simp), if_pos rfl, ih,
        Nat.add_right_comm (column + 1) 1 count]
      rfl

/-- The lines up to a token that stands on a line of its own. -/
theorem emptyLines_line {indent : Nat} {c : Char} {rest : Text} (begins : beginsToken c = true)
    (unmarked : startsMarker (blanks indent ++ c :: rest) = false) :
    emptyLines 0 (blanks indent ++ c :: rest) = some ([], c :: rest, indent) := by
  have token := begins
  simp only [beginsToken, Bool.and_eq_true, bne_iff_ne, Bool.not_eq_true'] at begins
  cases indent with
  | zero =>
      rw [blanks, List.replicate_zero, List.nil_append] at unmarked ⊢
      simp [emptyLines, unmarked, begins]
  | succ count =>
      rw [blanks_succ, List.cons_append] at unmarked ⊢
      rw [emptyLines, unmarked, if_neg (by simp), if_pos rfl, emptyLines_blanks token, Nat.zero_add,
        Nat.add_comm 1 count]

theorem startsMarker_blank (rest : Text) : startsMarker (' ' :: rest) = false := rfl

theorem plainGap_break (tail : Text) :
    plainGap ('\n' :: tail) =
      match emptyLines 0 tail with
      | some (breaks, left, column) => ⟨foldedBreaks '\n' breaks, left, some column⟩
      | none => ⟨[], tail.dropWhile fun c => c == ' ' || isBreak c, some 0⟩ := rfl

/-- The break that ends a block ends its last scalar too. -/
theorem plainGap_outside {bound : Nat} {tail : Text} (positive : 0 < bound)
    (outside : Outside bound tail) :
    ∃ column, (plainGap ('\n' :: tail)).column = some column ∧ column < bound := by
  cases outside with
  | done => exact ⟨0, rfl, positive⟩
  | line before begins unmarked =>
      rw [plainGap_break, emptyLines_line begins unmarked]
      exact ⟨_, rfl, before⟩

theorem plainGap_blanks {c : Char} {rest : Text} (begins : beginsToken c = true) (count : Nat) :
    plainGap (blanks count ++ c :: rest) = ⟨blanks count, c :: rest, none⟩ := by
  simp only [beginsToken, Bool.and_eq_true, bne_iff_ne, Bool.not_eq_true'] at begins
  rw [plainGap, span_blanks (by decide) (by simp [begins])]
  simp [begins]

theorem plainGap_fold {c : Char} {rest : Text} (begins : beginsToken c = true) (indent : Nat) :
    plainGap (lineAt (indent + 1) ++ c :: rest) = ⟨[' '], c :: rest, some (indent + 1)⟩ := by
  change plainGap ('\n' :: (blanks (indent + 1) ++ c :: rest)) = _
  rw [plainGap_break, emptyLines_line begins]
  · rfl
  · exact startsMarker_blank (blanks indent ++ c :: rest)

/-! ### Parts -/

/-- A plain scalar ends before this white space. -/
def Gap.ends (gap : Gap) (inFlow : Bool) (limit : Int) : Bool :=
  gap.text.isEmpty ||
    match gap.column with
    | some column => !inFlow && (column : Int) < limit
    | none => false

/-- The rest of a plain scalar after one of its parts. -/
def plainRest (inFlow : Bool) (limit : Int) (count : Nat) (part after : Text) : Text × Text :=
  let gap := plainGap after
  if gap.ends inFlow limit then (part, after)
  else
    let (others, left) := plainParts inFlow limit count gap.left
    if others.isEmpty then (part, after) else (part ++ gap.text ++ others, left)

theorem plainParts_run {inFlow : Bool} {limit : Int} {s part after : Text} (count : Nat)
    (uncommented : s.head? ≠ some '#') (runs : plainRun inFlow s = (part, after)) (filled : part ≠ []) :
    plainParts inFlow limit (count + 1) s = plainRest inFlow limit count part after := by
  rw [plainParts, if_neg uncommented, runs]
  dsimp only
  rw [if_neg (by simpa using filled)]
  rfl

theorem plainRest_cons (inFlow : Bool) (limit : Int) (count : Nat) (c : Char) (part after : Text) :
    plainRest inFlow limit count (c :: part) after =
      (c :: (plainRest inFlow limit count part after).1,
        (plainRest inFlow limit count part after).2) := by
  unfold plainRest
  dsimp only
  by_cases ends : (plainGap after).ends inFlow limit = true
  · rw [if_pos ends, if_pos ends]
  · rw [if_neg ends, if_neg ends]
    by_cases alone : (plainParts inFlow limit count (plainGap after).left).1.isEmpty = true
    · rw [if_pos alone, if_pos alone]
    · rw [if_neg alone, if_neg alone]
      rfl

theorem plainRest_outside {bound : Nat} {tail : Text} (positive : 0 < bound)
    (outside : Outside bound tail) (count : Nat) (part : Text) :
    plainRest false (bound : Int) count part ('\n' :: tail) = (part, '\n' :: tail) := by
  obtain ⟨column, found, before⟩ := plainGap_outside positive outside
  have ends : (plainGap ('\n' :: tail)).ends false bound = true := by
    simp [Gap.ends, found, before]
  unfold plainRest
  dsimp only
  rw [if_pos ends]

/-- The rest of a scalar that goes on behind white space. -/
theorem plainRest_inside {inFlow : Bool} {limit : Int} {count : Nat} {part after others left : Text}
    (goes : (plainGap after).ends inFlow limit = false)
    (read : plainParts inFlow limit count (plainGap after).left = (others, left)) (filled : others ≠ []) :
    plainRest inFlow limit count part after = (part ++ (plainGap after).text ++ others, left) := by
  unfold plainRest
  dsimp only
  rw [goes, if_neg Bool.false_ne_true, read]
  dsimp only
  rw [if_neg (by simpa using filled)]

/-! ### Writing -/

theorem plainFrom_filled {c : Char} (filled : c ≠ ' ') (indent column : Nat) (afterBlank : Bool)
    (rest : Text) :
    plainFrom indent column afterBlank (c :: rest) = c :: plainFrom indent (column + 1) false rest := by
  have blank : (c == ' ') = false := beq_eq_false_iff_ne.mpr filled
  simp [plainFrom, isSingleBlank, blank]

theorem plainFrom_afterBlank {d : Char} (filled : d ≠ ' ') (indent column count : Nat) (more : Text) :
    plainFrom indent column true (blanks count ++ d :: more) =
      blanks count ++ plainFrom indent (column + count) false (d :: more) := by
  induction count generalizing column with
  | zero =>
      change plainFrom indent column true (d :: more) = plainFrom indent column false (d :: more)
      rw [plainFrom_filled filled, plainFrom_filled filled]
  | succ count ih =>
      rw [blanks_succ, List.cons_append, plainFrom, if_neg (by simp [isSingleBlank]),
        beq_self_eq_true, ih, Nat.add_right_comm column 1 count]
      rfl

/-- White space that reads as `text` wherever a token follows it. -/
structure GapReads (limit : Int) (written text : Text) : Prop where
  separates : ∀ rest, plainRun false (written ++ rest) = ([], written ++ rest)
  text : ∀ d rest, beginsToken d = true → (plainGap (written ++ d :: rest)).text = text
  left : ∀ d rest, beginsToken d = true → (plainGap (written ++ d :: rest)).left = d :: rest
  goes : ∀ d rest, beginsToken d = true → (plainGap (written ++ d :: rest)).ends false limit = false

theorem plainRun_separator {c : Char} (separates : isSeparator c = true) (inFlow : Bool) (rest : Text) :
    plainRun inFlow (c :: rest) = ([], c :: rest) := by
  rw [plainRun, separates, if_pos (by simp)]

theorem gapReads_blanks (limit : Int) (count : Nat) :
    GapReads limit (blanks (count + 1)) (blanks (count + 1)) where
  separates := fun rest => plainRun_separator (by decide) false (blanks count ++ rest)
  text := fun d rest begins => by rw [plainGap_blanks begins]
  left := fun d rest begins => by rw [plainGap_blanks begins]
  goes := fun d rest begins => by
    rw [plainGap_blanks begins]
    rfl

theorem gapReads_fold {limit : Int} {indent : Nat} (wide : limit ≤ (indent + 1 : Nat)) :
    GapReads limit (lineAt (indent + 1)) [' '] where
  separates := fun rest => plainRun_separator (by decide) false (blanks (indent + 1) ++ rest)
  text := fun d rest begins => by rw [plainGap_fold begins]
  left := fun d rest begins => by rw [plainGap_fold begins]
  goes := fun d rest begins => by
    rw [plainGap_fold begins]
    simpa [Gap.ends] using wide

/-- White space inside a plain scalar reads as it was, also where it is written as a line break. -/
theorem plainFrom_gap {limit : Int} {indent : Nat} (wide : limit ≤ (indent + 1 : Nat)) {d : Char}
    (filled : d ≠ ' ') (column count : Nat) (more : Text) :
    ∃ gap place, GapReads limit gap (blanks (count + 1)) ∧
      plainFrom (indent + 1) column false (blanks (count + 1) ++ d :: more) =
        gap ++ plainFrom (indent + 1) place false (d :: more) := by
  rw [blanks_succ, List.cons_append, plainFrom]
  split
  · rename_i fold
    have single : count = 0 := by
      cases count with
      | zero => rfl
      | succ count => simp [isSingleBlank, blanks_succ] at fold
    subst single
    exact ⟨_, _, gapReads_fold wide, congrArg (lineAt (indent + 1) ++ ·)
      (plainFrom_afterBlank filled (indent + 1) (indent + 1) 0 more)⟩
  · exact ⟨_, _, gapReads_blanks limit count, congrArg (' ' :: ·)
      (plainFrom_afterBlank filled (indent + 1) (column + 1) count more)⟩

/-! ### Reading what was written -/

/-- A part of a plain scalar ends before this character. -/
def endsPart (inFlow : Bool) (c : Char) (rest : Text) : Bool :=
  isSeparator c || (c == ':' && (separatedNext rest || (inFlow && flowMarkNext rest))) ||
    (inFlow && (isFlowMark c || c == '?'))

theorem plainRun_cons {inFlow : Bool} {c : Char} {rest part left : Text}
    (goes : endsPart inFlow c rest = false) (runs : plainRun inFlow rest = (part, left)) :
    plainRun inFlow (c :: rest) = (c :: part, left) := by
  rw [plainRun]
  change (if endsPart inFlow c rest = true then _ else _) = _
  rw [goes, if_neg Bool.false_ne_true, runs]

theorem plainRun_nil {inFlow : Bool} {c : Char} {rest : Text} (ends : endsPart inFlow c rest = true) :
    plainRun inFlow (c :: rest) = ([], c :: rest) := by
  rw [plainRun]
  change (if endsPart inFlow c rest = true then _ else _) = _
  rw [ends, if_pos rfl]

/-- In a block only white space and a colon before it end a part. -/
theorem endsPart_block {c : Char} {rest : Text} (solid : isSeparator c = false)
    (colon : (c == ':' && separatedNext rest) = false) : endsPart false c rest = false := by
  rw [endsPart, solid, Bool.false_and, Bool.or_false, Bool.false_and, Bool.or_false, colon]
  rfl

theorem not_isSeparator {c : Char} (shown : needsEscape c = false) (inside : c ≠ '\n')
    (filled : c ≠ ' ') : isSeparator c = false := by
  have unbroken := not_isBreak_of_ne shown inside
  simp only [isSeparator, unbroken, Bool.or_false, Bool.or_eq_false_iff, beq_eq_false_iff_ne]
  refine ⟨⟨filled, ?_⟩, ?_⟩ <;> rintro rfl <;> exact absurd shown (by decide)

/-- Blanks inside a text stand before another character. -/
theorem exists_blanks {rest : Text} (last : (' ' :: rest).getLast? ≠ some ' ') :
    ∃ count d more, ' ' :: rest = blanks (count + 1) ++ d :: more ∧ d ≠ ' ' := by
  induction rest with
  | nil => exact absurd rfl last
  | cons d more ih =>
      by_cases blank : d = ' '
      · subst blank
        obtain ⟨count, e, others, split, filled⟩ := ih (by simpa using last)
        exact ⟨count + 1, e, others, congrArg (' ' :: ·) split, filled⟩
      · exact ⟨0, d, more, rfl, blank⟩

/-- What may stand in a plain scalar from a character of a word on. -/
structure GoesPlain (before : Bool) (s : Text) : Prop where
  filled : s ≠ []
  first : s.head? ≠ some ' '
  last : s.getLast? ≠ some ' '
  flat : ∀ c ∈ s, needsEscape c = false ∧ c ≠ '\n'
  quiet : holdsIndicator before s = false

theorem holdsIndicator_blanks {before : Bool} {count : Nat} {s : Text}
    (quiet : holdsIndicator before (blanks (count + 1) ++ s) = false) :
    holdsIndicator true s = false := by
  induction count generalizing before with
  | zero => exact (Bool.or_eq_false_iff.mp quiet).2
  | succ count ih => exact ih (Bool.or_eq_false_iff.mp quiet).2

namespace GoesPlain

/-- A word inside a plain scalar does not begin a comment. -/
theorem beginsToken {c : Char} {rest : Text} (plain : GoesPlain true (c :: rest)) :
    beginsToken c = true := by
  obtain ⟨shown, inside⟩ := plain.flat c (List.mem_cons_self ..)
  have quiet := plain.quiet
  rw [holdsIndicator, Bool.or_eq_false_iff, Bool.or_eq_false_iff, Bool.and_true] at quiet
  have blank : c ≠ ' ' := fun same => plain.first (congrArg some same)
  simp [Yaml.beginsToken, blank, not_isBreak_of_ne shown inside, bne, quiet.1.2]

theorem tail {before : Bool} {c d : Char} {more : Text} (plain : GoesPlain before (c :: d :: more))
    (filled : d ≠ ' ') : GoesPlain (isSeparator c) (d :: more) where
  filled := by simp
  first := by simpa using filled
  last := by simpa using plain.last
  flat := fun e member => plain.flat e (List.mem_cons_of_mem c member)
  quiet := (Bool.or_eq_false_iff.mp plain.quiet).2

theorem afterBlanks {before : Bool} {c d : Char} {count : Nat} {more : Text}
    (plain : GoesPlain before (c :: (blanks (count + 1) ++ d :: more))) (filled : d ≠ ' ') :
    GoesPlain true (d :: more) where
  filled := by simp
  first := by simpa using filled
  last := by
    have last := plain.last
    rw [← List.cons_append, List.getLast?_append, Option.or_of_isSome (by simp)] at last
    exact last
  flat := fun e member => plain.flat e
    (List.mem_cons_of_mem c (List.mem_append_right (blanks (count + 1)) member))
  quiet := holdsIndicator_blanks (Bool.or_eq_false_iff.mp plain.quiet).2

end GoesPlain

/-- What is written before `tail` reads as `s`, of which the first part is a word. -/
def WordReads (inFlow : Bool) (limit : Int) (tail written s : Text) : Prop :=
  ∃ part left, plainRun inFlow (written ++ tail) = (part, left) ∧ part ≠ [] ∧
    ∀ count, written.length ≤ count → plainRest inFlow limit count part left = (s, tail)

namespace WordReads

variable {inFlow : Bool} {limit : Int} {tail written s : Text} {c : Char}

theorem last (goes : endsPart inFlow c tail = false) (stops : plainRun inFlow tail = ([], tail))
    (rests : ∀ count, plainRest inFlow limit count [c] tail = ([c], tail)) :
    WordReads inFlow limit tail [c] [c] :=
  ⟨[c], tail, plainRun_cons goes stops, by simp, fun count _ => rests count⟩

theorem cons (reads : WordReads inFlow limit tail written s)
    (goes : endsPart inFlow c (written ++ tail) = false) :
    WordReads inFlow limit tail (c :: written) (c :: s) := by
  obtain ⟨part, left, runs, _, rests⟩ := reads
  refine ⟨c :: part, left, plainRun_cons goes runs, by simp, fun count enough => ?_⟩
  rw [plainRest_cons, rests count (Nat.le_of_succ_le enough)]

theorem plainParts (reads : WordReads inFlow limit tail written s) (uncommented : written.head? ≠ some '#')
    (filled : written ≠ []) {count : Nat} (enough : written.length ≤ count) :
    plainParts inFlow limit (count + 1) (written ++ tail) = (s, tail) := by
  obtain ⟨part, left, runs, partFilled, rests⟩ := reads
  have first : (written ++ tail).head? = written.head? := by
    rw [List.head?_append, Option.or_of_isSome (List.isSome_head?.mpr filled)]
  rw [plainParts_run count (first ▸ uncommented) runs partFilled, rests count enough]

theorem readPlain (reads : WordReads inFlow limit (c :: tail) written s) (filled : written ≠ [])
    (uncommented : written.head? ≠ some '#') :
    readPlain inFlow limit (written ++ c :: tail) = (s, c :: tail) := by
  rw [Yaml.readPlain, List.length_append, List.length_cons, ← Nat.add_assoc]
  exact reads.plainParts uncommented filled (Nat.le_add_right ..)

theorem gap {d : Char} {gap text : Text} (reads : WordReads false limit tail (d :: written) s)
    (filled : s ≠ []) (begins : beginsToken d = true) (gapReads : GapReads limit gap text)
    (goes : endsPart false c (gap ++ d :: written ++ tail) = false) :
    WordReads false limit tail (c :: (gap ++ d :: written)) (c :: (text ++ s)) := by
  refine ⟨[c], gap ++ d :: written ++ tail, plainRun_cons goes ?_, by simp, fun count enough => ?_⟩
  · change plainRun false (gap ++ d :: written ++ tail) = _
    rw [List.append_assoc]
    exact gapReads.separates _
  · rw [List.length_cons, List.length_append] at enough
    obtain ⟨count, rfl⟩ := Nat.exists_eq_add_of_le' (Nat.le_trans (Nat.le_add_left 1 _) enough)
    have uncommented : (d :: written).head? ≠ some '#' := by
      rintro same
      cases same
      exact absurd begins (by decide)
    have read := reads.plainParts uncommented (by simp) (by omega : (d :: written).length ≤ count)
    rw [List.append_assoc, List.cons_append]
    rw [plainRest_inside (gapReads.goes d _ begins) (by rw [gapReads.left d _ begins]; exact read) filled,
      gapReads.text d _ begins]
    rfl

end WordReads

variable {bound indent : Nat} {tail : Text}

/-- A character stands before a separator where it stood before one in the text. -/
theorem separatedNext_plainFrom (indent column : Nat) (afterBlank : Bool) (s tail : Text) :
    separatedNext (plainFrom indent column afterBlank s ++ '\n' :: tail) = separatedNext s := by
  cases s with
  | nil => rfl
  | cons c rest =>
      by_cases blank : c = ' '
      · subst blank
        rw [plainFrom]
        split <;> rfl
      · rw [plainFrom_filled blank]
        rfl

/-- A plain scalar reads as it was, word by word. -/
theorem wordReads_plainFrom (wide : bound ≤ indent + 1) (positive : 0 < bound)
    (outside : Outside bound tail) (size : Nat) {before : Bool} {s : Text} (plain : GoesPlain before s)
    (small : s.length ≤ size) (column : Nat) (afterBlank : Bool) :
    WordReads false bound ('\n' :: tail) (plainFrom (indent + 1) column afterBlank s) s := by
  -- `size` bounds the length: behind a gap of several blanks the next word is shorter by more than one character.
  induction size generalizing before s column afterBlank with
  | zero => exact absurd (List.length_eq_zero_iff.mp (Nat.le_zero.mp small)) plain.filled
  | succ size ih =>
      obtain ⟨c, rest, rfl⟩ := List.exists_cons_of_ne_nil plain.filled
      obtain ⟨shown, inside⟩ := plain.flat c (List.mem_cons_self ..)
      have blank : c ≠ ' ' := fun same => plain.first (congrArg some same)
      have solid := not_isSeparator shown inside blank
      have colon : (c == ':' && separatedNext rest) = false :=
        (Bool.or_eq_false_iff.mp (Bool.or_eq_false_iff.mp plain.quiet).1).1
      rw [plainFrom_filled blank]
      cases rest with
      | nil =>
          exact .last (endsPart_block solid colon) (plainRun_separator (by decide) false tail) fun count =>
            plainRest_outside positive outside count _
      | cons d more =>
          by_cases space : d = ' '
          · subst space
            have alone : (c == ':') = false := by simpa [separatedNext, isSeparator] using colon
            obtain ⟨count, d, others, split, filled⟩ := exists_blanks (by simpa using plain.last)
            rw [split] at plain small ⊢
            have word := plain.afterBlanks filled
            obtain ⟨gap, place, gapReads, written⟩ :=
              plainFrom_gap (Int.ofNat_le.mpr wide) filled (column + 1) count others
            have shorter : (d :: others).length ≤ size := by
              rw [List.length_cons, List.length_append] at small
              omega
            have reads := ih word shorter place false
            rw [plainFrom_filled filled] at written reads
            rw [written]
            exact reads.gap (by simp) word.beginsToken gapReads
              (endsPart_block solid (by rw [alone, Bool.false_and]))
          · have reads := ih (plain.tail space) (Nat.le_of_succ_le_succ small) (column + 1) false
            exact reads.cons (endsPart_block solid (by rw [separatedNext_plainFrom, colon]))

theorem mayBePlain_of_styleOf {s : Text} (style : styleOf s = .plain) : mayBePlain s = true := by
  by_contra other
  rw [styleOf, if_neg other] at style
  split at style <;> cases style

/-- A text that may be plain goes so from its first character on. -/
theorem goesPlain_of_mayBePlain {s : Text} (plain : mayBePlain s = true) : GoesPlain true s := by
  simp only [mayBePlain, Bool.and_eq_true, Bool.not_eq_true', bne_iff_ne] at plain
  obtain ⟨⟨⟨⟨⟨⟨filled, shown⟩, unbroken⟩, first⟩, last⟩, unmarked⟩, _⟩ := plain
  rw [List.any_eq_false] at shown unbroken
  refine ⟨by simpa using filled, first, last, fun c member => ⟨by simpa using shown c member, ?_⟩, ?_⟩
  · rintro rfl
    exact unbroken _ member (by decide)
  · cases s with
    | nil => rfl
    | cons c rest =>
        simp only [hasIndicator, startsWithIndicator, Bool.or_eq_false_iff] at unmarked
        obtain ⟨⟨_, indicator, mark⟩, further⟩ := unmarked
        have number : (c == '#') = false := by
          rw [beq_eq_false_iff_ne]
          rintro rfl
          exact absurd indicator (by decide)
        rw [holdsIndicator, number, further, Bool.false_and, Bool.or_false, Bool.or_false]
        cases colon : c == ':'
        · rfl
        · simpa [colon] using mark

/-- A plain scalar up to the break that ends its block. -/
theorem readPlain_plainFrom (wide : bound ≤ indent + 1) (positive : 0 < bound)
    (outside : Outside bound tail) {s : Text} (plain : mayBePlain s = true) (column : Nat) :
    readPlain false bound (plainFrom (indent + 1) column false s ++ '\n' :: tail) = (s, '\n' :: tail) := by
  have goes := goesPlain_of_mayBePlain plain
  have reads := wordReads_plainFrom wide positive outside s.length goes (Nat.le_refl _) column false
  obtain ⟨c, rest, rfl⟩ := List.exists_cons_of_ne_nil goes.filled
  rw [plainFrom_filled fun same => goes.first (congrArg some same)] at reads ⊢
  refine reads.readPlain (by simp) fun same => ?_
  cases Option.some.inj same
  exact absurd goes.beginsToken (by decide)

/-! ### Words -/

/-- Small letters, digits and underscores, which are never indicators. -/
def isNameChar (c : Char) : Bool :=
  (97 ≤ c.toNat && c.toNat ≤ 122) || (48 ≤ c.toNat && c.toNat ≤ 57) || c == '_'

/-- A property of a name character holds if it holds of each in turn. -/
theorem of_isNameChar (holds : Char → Bool)
    (checked : ∀ n < 128, isNameChar (Char.ofNat n) = true → holds (Char.ofNat n) = true) {c : Char}
    (letter : isNameChar c = true) : holds c = true := by
  have low : c.toNat < 128 := by
    simp only [isNameChar, Bool.or_eq_true, Bool.and_eq_true, decide_eq_true_eq, beq_iff_eq] at letter
    rcases letter with (⟨_, high⟩ | ⟨_, high⟩) | rfl
    · omega
    · omega
    · decide
  rw [← Char.ofNat_toNat c] at letter ⊢
  exact checked c.toNat low letter

theorem needsEscape_of_isNameChar {c : Char} (letter : isNameChar c = true) :
    needsEscape c = false ∧ c ≠ '\n' := by
  have checked := of_isNameChar (fun c => !needsEscape c && c != '\n') (by decide) letter
  simpa using checked

theorem endsPart_name {c : Char} (letter : isNameChar c = true) (inFlow : Bool) (rest : Text) :
    endsPart inFlow c rest = false := by
  have checked := of_isNameChar
    (fun c => !isSeparator c && c != ':' && !isFlowMark c && c != '?') (by decide) letter
  simp only [Bool.and_eq_true, Bool.not_eq_true', bne_iff_ne] at checked
  simp [endsPart, checked]

theorem beginsToken_of_isNameChar {c : Char} (letter : isNameChar c = true) : beginsToken c = true :=
  of_isNameChar beginsToken (by decide) letter

variable {inFlow : Bool} {limit : Int}

/-- A word reads as itself before whatever ends it. -/
theorem wordReads_name {name : Text} (filled : name ≠ []) (letters : ∀ c ∈ name, isNameChar c = true)
    (stops : plainRun inFlow tail = ([], tail))
    (rests : ∀ count part, plainRest inFlow limit count part tail = (part, tail)) :
    WordReads inFlow limit tail name name := by
  induction name with
  | nil => exact absurd rfl filled
  | cons c rest ih =>
      rw [List.forall_mem_cons] at letters
      cases rest with
      | nil => exact .last (endsPart_name letters.1 inFlow tail) stops fun count => rests count _
      | cons d more => exact (ih (by simp) letters.2).cons (endsPart_name letters.1 inFlow _)

theorem head?_ne_of_letters {name : Text} {d : Char} (letters : ∀ c ∈ name, isNameChar c = true)
    (other : isNameChar d = false) : name.head? ≠ some d := by
  intro first
  have letter := letters d (List.mem_of_head? first)
  exact Bool.false_ne_true (other.symm.trans letter)

/-- A scalar ends before a character that is neither white space nor a line end. -/
theorem plainRest_token {c : Char} (begins : beginsToken c = true) (rest : Text) (count : Nat)
    (part : Text) : plainRest inFlow limit count part (c :: rest) = (part, c :: rest) := by
  have gap : plainGap (c :: rest) = ⟨[], c :: rest, none⟩ := plainGap_blanks begins 0
  unfold plainRest
  rw [gap]
  rfl

/-- A name before its colon. -/
theorem readPlain_key {name rest : Text} (filled : name ≠ [])
    (letters : ∀ c ∈ name, isNameChar c = true) (separated : separatedNext rest = true) :
    readPlain false limit (name ++ ':' :: rest) = (name, ':' :: rest) :=
  (wordReads_name filled letters (plainRun_nil (by simp [endsPart, separated]))
    (plainRest_token (by decide) rest)).readPlain filled (head?_ne_of_letters letters (by decide))

/-- A word up to the break that ends its block. -/
theorem readPlain_word (positive : 0 < bound) (outside : Outside bound tail) {name : Text}
    (filled : name ≠ []) (letters : ∀ c ∈ name, isNameChar c = true) :
    readPlain false bound (name ++ '\n' :: tail) = (name, '\n' :: tail) :=
  (wordReads_name filled letters (plainRun_separator (by decide) false tail)
    (plainRest_outside positive outside)).readPlain filled (head?_ne_of_letters letters (by decide))

end Schemata.Yaml
