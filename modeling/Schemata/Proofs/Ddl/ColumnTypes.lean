import Schemata.Ddl.ColumnDefinition
import Schemata.Proofs.Ddl.Identifiers
import Schemata.Proofs.Ddl.Literals
import Schemata.Proofs.Script.Separated

/-!
The type of a column. Its first word is extended to the end of a list of parameters only while the word has
more parentheses that open than ones that close, those within literals counted too. So a list is cut at its
first blank if enough of its literals hold a closing parenthesis before it.
-/

namespace Schemata.Script

variable {inside : Text}

/-- What a pair of parentheses encloses if the second one closes the first, whatever follows. -/
theorem enclosed_of_matchingParen (closes : matchingParen ('(' :: inside ++ [')']) 0 = some (inside.length + 1))
    (rest : Text) : enclosed ('(' :: inside ++ ')' :: rest) = some (inside, rest) := by
  have close : closing none 0 ('(' :: inside ++ [')']) = some (inside.length + 1) := by
    obtain ⟨close, found, same⟩ := Option.map_eq_some_iff.mp closes
    rw [List.drop_zero] at found
    rw [found, ← same, Nat.zero_add]
  have further := closing_append_of_some close rest
  rw [List.append_assoc, List.singleton_append] at further
  rw [enclosed, matchingParen, List.drop_zero, further]
  simp

end Schemata.Script

namespace Schemata.Ddl

open Text Script Reader

variable {name gap word inside type core rest after definition : Text}

/-! ### Columns -/

theorem trim_column (identified : IsIdentifier name) (some' : core ≠ []) (last : Ends isBlank core.reverse)
    (rest : Text) : trim (name ++ ' ' :: (core ++ rest)) = name ++ ' ' :: (core ++ trimRight rest) := by
  have left : trimLeft (name ++ ' ' :: (core ++ rest)) = name ++ ' ' :: core ++ rest := by
    rw [trimLeft, (identified.ends.append identified.some' _).dropWhile_eq]
    simp
  have last' : Ends isBlank (name ++ ' ' :: core).reverse := by
    rw [List.reverse_append, List.reverse_cons]
    exact ((last.append (by simpa using some') _).append (by simp) _)
  rw [trim, left, trimRight_append last']
  simp

/-- A column is read from its name, the first word of its type, and what its type leaves. -/
theorem readColumn_of_split (identified : IsIdentifier name) (blank : ∀ c ∈ gap, isBlank c = true) (distinct : gap ≠ [])
    (some' : word ≠ []) (unblank : ∀ c ∈ word, isBlank c = false) (ends : Ends (fun c => !isBlank c) rest)
    (trimmed : trim definition = name ++ (gap ++ (word ++ rest))) (split : splitType word rest = (type, after)) :
    readColumn definition = .ok (readColumnConstraints (normalizeIdentifier name) type (withoutLiterals after)) := by
  have unblank' : ∀ c ∈ word, (!isBlank c) = true := fun c member => by rw [unblank c member]; rfl
  have solid : Ends isBlank (word ++ rest) :=
    Ends.append (fun c member => unblank c (List.mem_of_mem_head? member)) some' rest
  have apart : Ends continuesName (gap ++ (word ++ rest)) := by
    obtain ⟨c, more, rfl⟩ := List.exists_cons_of_ne_nil distinct
    exact ends_cons.mpr (of_isBlank (continuesName · = false) (by decide +kernel) (blank c (List.mem_cons_self ..)))
  have read : columnHead.first (trim definition) =
      some ((⟨trim definition, gap ++ (word ++ rest)⟩, ⟨word ++ rest, rest⟩), rest) := by
    rw [trimmed]
    refine first_bind (first_captured (identified.first apart)) ?_
    refine first_bind (first_blanks1 blank distinct solid) ?_
    exact first_bind (first_captured (first_run1 unblank' some' ends)) (first_pure ..)
  have written : Span.text ⟨trim definition, gap ++ (word ++ rest)⟩ = name := by rw [trimmed, Span.text_append]
  simp only [readColumn, read, written, Span.text_append, split]
  rfl

/-! ### Types -/

/-- The first blank of the list stands where no more parentheses have been closed than opened, or there is
none. -/
def KeepsList (inside : Text) : Prop :=
  let front := inside.takeWhile fun c => !isBlank c
  front = inside ∨ front.count ')' ≤ front.count '('

instance (inside : Text) : Decidable (KeepsList inside) :=
  inferInstanceAs (Decidable (_ ∨ _))

/-- A word that a list of parameters can follow. -/
structure IsTypeWord (word : Text) : Prop where
  some' : word ≠ []
  unblank : ∀ c ∈ word, isBlank c = false
  unopened : '(' ∉ word
  unclosed : ')' ∉ word

/-- The parameters of a type, between parentheses of which the second closes the first. -/
def IsList (inside : Text) : Prop :=
  matchingParen ('(' :: inside ++ [')']) 0 = some (inside.length + 1)

/-- A type that is read whole, be it a word in which no parenthesis is left open or a word with a list. -/
inductive IsType : Text → Prop
  | word {word : Text} (some' : word ≠ []) (unblank : ∀ c ∈ word, isBlank c = false)
      (closed : word.count '(' ≤ word.count ')') : IsType word
  | list {word inside : Text} (isWord : IsTypeWord word) (closes : IsList inside) (kept : KeepsList inside) :
      IsType (word ++ '(' :: inside ++ [')'])

/-- Where more parentheses are open than closed, a list is read up to the parenthesis that closes it. -/
theorem splitType_list {first left : Text} (isWord : IsTypeWord word) (closes : IsList inside)
    (joined : first ++ left = word ++ ('(' :: inside ++ ')' :: rest)) (fewer : first.count ')' < first.count '(') :
    splitType first left = (word ++ '(' :: inside ++ [')'], rest) := by
  have unopened : ∀ c ∈ word, (c != '(') = true := forall_bne_iff.mpr isWord.unopened
  have cut : (word ++ ('(' :: inside ++ ')' :: rest)).span (· != '(') = (word, '(' :: inside ++ ')' :: rest) := by
    rw [List.span_eq_takeWhile_dropWhile, List.takeWhile_append_of_pos unopened,
      List.dropWhile_append_of_pos unopened]
    simp
  simp only [splitType, if_pos fewer, joined, cut, enclosed_of_matchingParen closes]

theorem splitType_word (closed : word.count '(' ≤ word.count ')') (rest : Text) : splitType word rest = (word, rest) := by
  rw [splitType, if_neg (Nat.not_lt_of_le closed)]

namespace IsTypeWord

variable (isWord : IsTypeWord word)
include isWord

theorem isType : IsType word :=
  .word isWord.some' isWord.unblank (by rw [List.count_eq_zero.mpr isWord.unopened]; exact Nat.zero_le _)

theorem count_front (front : Text) : (word ++ '(' :: front).count '(' = front.count '(' + 1 ∧
    (word ++ '(' :: front).count ')' = front.count ')' := by
  constructor
  · rw [List.count_append, List.count_eq_zero.mpr isWord.unopened, List.count_cons_self, Nat.zero_add]
  · rw [List.count_append, List.count_eq_zero.mpr isWord.unclosed, List.count_cons_of_ne (by decide), Nat.zero_add]

theorem unblank_front {front : Text} (unblank : ∀ c ∈ front, isBlank c = false) :
    ∀ c ∈ word ++ '(' :: front, isBlank c = false := by
  simp only [List.forall_mem_append, List.forall_mem_cons]
  exact ⟨isWord.unblank, by decide, unblank⟩

end IsTypeWord

/-- A list with a blank is what stands before its first blank, and something that begins with it. -/
theorem exists_front (inside : Text) : ∃ back, inside = inside.takeWhile (fun c => !isBlank c) ++ back ∧
    (∀ c ∈ inside.takeWhile fun c => !isBlank c, isBlank c = false) ∧ Ends (fun c => !isBlank c) back := by
  refine ⟨inside.dropWhile fun c => !isBlank c, List.takeWhile_append_dropWhile.symm, fun c member => ?_,
    ends_dropWhile _ inside⟩
  have unblank := List.mem_takeWhile_imp member
  simpa using unblank

namespace IsType

theorem some' (typed : IsType type) : type ≠ [] := by
  cases typed with
  | word some' => exact some'
  | list => simp

theorem last (typed : IsType type) : Ends isBlank type.reverse := by
  cases typed with
  | word _ unblank => exact fun c member => unblank c (List.mem_reverse.mp (List.mem_of_mem_head? member))
  | list =>
      rw [List.reverse_append]
      exact ends_cons.mpr (by decide)

/-- The first word of a type, from which all of the type is read. -/
theorem exists_word (typed : IsType type) (ends : Ends (fun c => !isBlank c) after) :
    ∃ word rest, type ++ after = word ++ rest ∧ word ≠ [] ∧ (∀ c ∈ word, isBlank c = false) ∧
      Ends (fun c => !isBlank c) rest ∧ splitType word rest = (type, after) := by
  cases typed with
  | word some' unblank closed => exact ⟨type, after, rfl, some', unblank, ends, splitType_word closed after⟩
  | @list word inside isWord closes kept =>
      obtain ⟨back, split, unblank, ends'⟩ := exists_front inside
      by_cases all : inside.takeWhile (fun c => !isBlank c) = inside
      · rw [all] at unblank
        refine ⟨word ++ '(' :: inside ++ [')'], after, rfl, by simp, ?_, ends, ?_⟩
        · rw [List.forall_mem_append]
          exact ⟨isWord.unblank_front unblank, by decide⟩
        · by_cases fewer : (word ++ '(' :: inside ++ [')']).count ')' < (word ++ '(' :: inside ++ [')']).count '('
          · exact splitType_list isWord closes (by simp) fewer
          · exact splitType_word (Nat.le_of_not_lt fewer) after
      · have further : back ≠ [] := by
          rintro rfl
          exact all (by rw [List.append_nil] at split; exact split.symm)
        have fewer := kept.resolve_left all
        generalize inside.takeWhile (fun c => !isBlank c) = front at *
        have whole : word ++ '(' :: inside ++ [')'] ++ after = word ++ '(' :: front ++ (back ++ ')' :: after) := by
          simp [split]
        refine ⟨word ++ '(' :: front, back ++ ')' :: after, whole, by simp, isWord.unblank_front unblank,
          ends'.append further _, splitType_list isWord closes (by simp [split]) ?_⟩
        rw [(isWord.count_front front).1, (isWord.count_front front).2]
        exact Nat.lt_succ_of_le fewer

end IsType

/-- A column with a type that is read whole. -/
theorem readColumn_of_type (identified : IsIdentifier name) (typed : IsType type) (ends : Ends (fun c => !isBlank c) rest) :
    readColumn (name ++ ' ' :: (type ++ rest)) =
      .ok (readColumnConstraints (normalizeIdentifier name) type (withoutLiterals (trimRight rest))) := by
  obtain ⟨word, left, whole, some', unblank, ends', split⟩ := typed.exists_word ends.trimRight
  have blank : ∀ c ∈ [' '], isBlank c = true := by decide
  refine readColumn_of_split identified blank (by decide) some' unblank ends' ?_ split
  rw [trim_column identified typed.some' typed.last, whole, List.singleton_append]

/-- A column with a clause behind its type. -/
theorem readColumn_of_clause (identified : IsIdentifier name) (typed : IsType type) (solid : Solid core) :
    readColumn (name ++ ' ' :: (type ++ ' ' :: core)) =
      .ok (readColumnConstraints (normalizeIdentifier name) type (' ' :: withoutLiterals core)) := by
  have blank : Ends (fun c => !isBlank c) (' ' :: core) := ends_cons.mpr (by decide)
  have last : Ends isBlank (' ' :: core).reverse :=
    ends_reverse_cons.mpr ⟨fun empty => absurd empty solid.some', solid.last⟩
  have trimmed : trimRight (' ' :: core) = ' ' :: core := by
    rw [trimRight, last.dropWhile_eq, List.reverse_reverse]
  rw [readColumn_of_type identified typed blank, trimmed, withoutLiterals_cons (by decide)]

/-- A list that is not kept is cut at its first blank. -/
theorem readColumn_of_cut (identified : IsIdentifier name) (isWord : IsTypeWord word) (cut : ¬ KeepsList inside)
    (rest : Text) : ∃ column, readColumn (name ++ ' ' :: (word ++ '(' :: inside ++ ')' :: rest)) = .ok column ∧
      column.dataType = word ++ '(' :: inside.takeWhile fun c => !isBlank c := by
  obtain ⟨back, split, unblank, ends⟩ := exists_front inside
  obtain ⟨some', more⟩ := not_or.mp cut
  have further : back ≠ [] := by
    rintro rfl
    exact some' (by rw [List.append_nil] at split; exact split.symm)
  generalize inside.takeWhile (fun c => !isBlank c) = front at *
  have last : Ends isBlank (word ++ '(' :: inside ++ [')']).reverse := by
    rw [List.reverse_append]
    exact ends_cons.mpr (by decide)
  have trimmed := trim_column identified (by simp) last rest
  have closed : (word ++ '(' :: front).count '(' ≤ (word ++ '(' :: front).count ')' := by
    rw [(isWord.count_front front).1, (isWord.count_front front).2]
    exact Nat.lt_of_not_le more
  have blank : ∀ c ∈ [' '], isBlank c = true := by decide
  refine ⟨_, readColumn_of_split identified blank (by decide) (by simp) (isWord.unblank_front unblank)
    (ends.append further (')' :: trimRight rest)) ?_ (splitType_word closed _), rfl⟩
  rw [List.append_assoc, List.singleton_append] at trimmed
  rw [trimmed]
  simp [split]

/-- A list of parameters belongs to the type, and has no part in the constraints behind it, exactly if it is
not cut at its first blank. -/
theorem readColumn_list (identified : IsIdentifier name) (isWord : IsTypeWord word) (closes : IsList inside)
    (ends : Ends (fun c => !isBlank c) rest) :
    ∃ plain whole, readColumn (name ++ ' ' :: (word ++ rest)) = .ok plain ∧ plain.dataType = word ∧
      readColumn (name ++ ' ' :: (word ++ '(' :: inside ++ ')' :: rest)) = .ok whole ∧
      (whole = { plain with dataType := word ++ '(' :: inside ++ [')'] } ↔ KeepsList inside) ∧
      (¬ KeepsList inside → whole.dataType = word ++ '(' :: inside.takeWhile fun c => !isBlank c) := by
  have plain := readColumn_of_type identified isWord.isType ends
  by_cases kept : KeepsList inside
  · have whole := readColumn_of_type identified (.list isWord closes kept) ends
    rw [List.append_assoc, List.append_assoc, List.singleton_append] at whole
    refine ⟨_, _, plain, rfl, by rw [List.append_assoc]; exact whole, iff_of_true rfl kept, fun cut => absurd kept cut⟩
  · obtain ⟨whole, read, type⟩ := readColumn_of_cut identified isWord kept rest
    refine ⟨_, whole, plain, rfl, read, iff_of_false (fun same => ?_) kept, fun _ => type⟩
    rw [same] at type
    have longer := congrArg List.length type
    have shorter := (List.takeWhile_prefix (l := inside) fun c => !isBlank c).length_le
    simp only [List.length_append, List.length_cons, List.length_nil] at longer
    omega

theorem readColumn_list_closingLiteral :
    IsList "')', 'b'".toList ∧ ∃ plain whole, readColumn "c ENUM NOT NULL".toList = .ok plain ∧
      plain.dataType = "ENUM".toList ∧ readColumn "c ENUM(')', 'b') NOT NULL".toList = .ok whole ∧
      whole ≠ { plain with dataType := "ENUM(')', 'b')".toList } ∧ whole.dataType = "ENUM(')',".toList := by
  have isWord : IsTypeWord "ENUM".toList := ⟨by decide, by decide, by decide, by decide⟩
  have closes : IsList "')', 'b'".toList := by rfl
  have cut : ¬ KeepsList "')', 'b'".toList := by decide
  have ends : Ends (fun c => !isBlank c) (' ' :: "NOT NULL".toList) := ends_cons.mpr (by decide)
  obtain ⟨plain, whole, read, type, listed, kept, type'⟩ :=
    readColumn_list (show IsIdentifier "c".toList by decide) isWord closes ends
  exact ⟨closes, plain, whole, read, type, listed, mt kept.mp cut, type' cut⟩

end Schemata.Ddl
