import Schemata.Proofs.Ddl.ColumnClauses
import Schemata.Proofs.Ddl.ColumnTypes
import Schemata.Proofs.Ddl.FirstWords
import Schemata.Proofs.Ddl.Literals

/-!
A check behind a column, and the same check on its own. The inline one is searched for keywords like the
rest of the definition, and is read after its literals have been emptied.
-/

namespace Schemata.Script

/-- What is enclosed begins behind the parenthesis that opens and ends before the last one. -/
theorem exists_of_enclosed {text inside after : Text} (found : enclosed ('(' :: text ++ [')']) = some (inside, after)) :
    ∃ rest, text = inside ++ rest := by
  obtain ⟨close, close', same⟩ := Option.map_eq_some_iff.mp found
  obtain ⟨offset, closes, rfl⟩ := Option.map_eq_some_iff.mp close'
  have bound := closing_lt closes
  rw [Nat.zero_add] at same
  obtain ⟨rfl, _⟩ := Prod.mk.inj same
  simp only [List.drop_zero, List.length_append, List.length_cons, List.length_nil] at bound
  cases offset with
  | zero => exact ⟨text, rfl⟩
  | succ offset =>
      refine ⟨text.drop offset, ?_⟩
      rw [List.cons_append, List.take_succ_cons, List.drop_one, List.tail_cons,
        List.take_append_of_le_length (by omega), List.take_append_drop]

end Schemata.Script

namespace Schemata.Ddl

open Text Script Reader

variable {name type expression : Text}

/-- A check with the expression. -/
def checkClause (expression : Text) : Text :=
  "CHECK".toList ++ ([' '] ++ '(' :: (expression ++ [')']))

theorem isWord_check : IsWord "CHECK".toList := by decide

theorem first_checkHead (text : Text) :
    checkHead.first ("CHECK".toList ++ ([' '] ++ '(' :: text)) = some ((), '(' :: text) :=
  first_bind (first_keyword ..)
    (first_bind (first_blanks (by decide) (ends_cons.mpr (by decide))) (first_ahead ..))

theorem solid_checkClause (expression : Text) : Solid (checkClause expression) where
  some' := List.append_ne_nil_of_left_ne_nil isWord_check.some' _
  first := isWord_check.ends_append _
  last := by
    have split : checkClause expression = "CHECK".toList ++ ([' '] ++ '(' :: expression) ++ [')'] := by
      simp only [checkClause, List.append_assoc, List.cons_append, List.nil_append]
    rw [split, List.reverse_append]
    exact ends_cons.mpr (by decide)

theorem starts_checkClause (expression : Text) : Starts .check (upper (checkClause expression)) := by
  have opening : upper ('(' :: (expression ++ [')'])) = '(' :: upper (expression ++ [')']) := rfl
  rw [checkClause, upper_append, upper_gap (by decide), opening, show upper "CHECK".toList = "CHECK".toList by decide]
  exact .check (by decide)

/-- A check that stands on its own takes its expression as it is. -/
theorem constraint_checkClause (balanced : Balanced expression) : Dialect.standard.constraint (checkClause expression) =
    .ok { kind := .check, columns := [], expression := some (trim expression) } := by
  have solid := solid_checkClause expression
  have starts : Starts ConstraintKind.check.heading (upper (checkClause expression)) := starts_checkClause expression
  have head : checkHead.first (checkClause expression) = some ((), '(' :: (expression ++ [')'])) :=
    first_checkHead _
  have body : enclosed ('(' :: (expression ++ [')'])) = some (expression, []) := enclosed_of_balanced balanced []
  have read : readConstraintOf (classifyDefinition (checkClause expression)) (checkClause expression) =
      .ok (some { kind := .check, columns := [], expression := some (trim expression) }) := by
    rw [classifyDefinition_of_starts solid.first starts, ConstraintKind.heading]
    simp only [readConstraintOf, head, body]
    rfl
  exact constraint_of_read (splitName_of_refuses solid starts.refuses_namedConstraint) read

/-! ### Behind a type -/

theorem withoutLiterals_checkClause (expression : Text) :
    withoutLiterals (checkClause expression) = checkClause (withoutLiterals expression) := by
  have front : '\'' ∉ "CHECK".toList ++ [' ', '('] := by decide
  have back : '\'' ∉ [')'] := by decide
  have split : ∀ inner : Text, checkClause inner = "CHECK".toList ++ [' ', '('] ++ (inner ++ [')']) := by
    intro inner
    simp only [checkClause, List.append_assoc, List.cons_append, List.nil_append]
  rw [split, split, withoutLiterals_append_left front, withoutLiterals_append_right back]

/-- A check behind a type is read with its literals emptied. -/
theorem readColumn_checkClause (identified : IsIdentifier name) (typed : IsType type) (expression : Text) :
    readColumn (name ++ ' ' :: (type ++ ' ' :: checkClause expression)) =
      .ok (readColumnConstraints (normalizeIdentifier name) type (' ' :: checkClause (withoutLiterals expression))) := by
  rw [readColumn_of_clause identified typed (solid_checkClause expression), withoutLiterals_checkClause]

/-- A search passes over the parentheses of a check, and over its keyword if it is for another one. -/
theorem mentions_checkClause {α : Type} {reader : Reader α} {letters : Text} (seeks : reader.Seeks letters)
    (some' : letters ≠ []) (other : folded "CHECK".toList ≠ folded letters)
    (ends : ∀ text, reader.accepts (text ++ [')']) = reader.accepts text) (inner : Text) :
    reader.Mentions (' ' :: checkClause inner) ↔ reader.Mentions inner := by
  have opening : isWordChar '(' = false := by decide
  have skipped : reader.find false (' ' :: checkClause inner) = reader.find false (inner ++ [')']) :=
    (find_behind_word seeks some' isWord_check other _).trans (seeks.find_cons some' opening false _)
  have nothing : ¬ reader.Mentions [] := by
    rw [← find_eq_none_iff]
    exact seeks.find_nil some' false
  rw [← isSome_find_iff, skipped, isSome_find_iff, mentions_append ends (by decide), or_iff_left nothing]

/-- The check that is read from the body of an inline one. -/
theorem check_checkClause (name type inner : Text) : (readColumnConstraints name type (' ' :: checkClause inner)).check =
    (enclosed ('(' :: inner ++ [')'])).map fun (body, _) => trim body := by
  have found : checkHead.find false (' ' :: checkClause inner) = some ((), '(' :: (inner ++ [')'])) :=
    (seeks_checkHead.find_cons (by decide) (by decide) false _).trans (find_of_first (first_checkHead _))
  rw [readColumnConstraints, found]
  rfl

/-- The expression of an inline check is kept exactly if it has nothing in its literals. -/
theorem check_eq_some_iff (balanced : Balanced expression) :
    ((enclosed ('(' :: withoutLiterals expression ++ [')'])).map fun (body, _) => trim body) = some (trim expression) ↔
      withoutLiterals expression = expression := by
  constructor
  · intro same
    obtain ⟨⟨body, after⟩, found, trimmed⟩ := Option.map_eq_some_iff.mp same
    obtain ⟨rest, split⟩ := exists_of_enclosed found
    have longer := length_trim_le body rest
    rw [← split, trim_withoutLiterals, show trim body = trim expression from trimmed] at longer
    exact withoutLiterals_eq_of_trim (withoutLiterals_eq_of_length_le longer)
  · intro empty
    rw [empty, enclosed_of_balanced balanced]
    rfl

/-- An inline check gives the column the marks that its expression mentions outside of literals, and the
expression of the same check on its own exactly if it has nothing in its literals. -/
theorem readColumn_check (identified : IsIdentifier name) (typed : IsType type) (balanced : Balanced expression) :
    readColumn (name ++ ' ' :: type) = .ok { name := normalizeIdentifier name, dataType := type } ∧
    Dialect.standard.constraint (checkClause expression) =
      .ok { kind := .check, columns := [], expression := some (trim expression) } ∧
    ∃ checked, readColumn (name ++ ' ' :: (type ++ ' ' :: checkClause expression)) = .ok checked ∧
      checked.name = normalizeIdentifier name ∧ checked.dataType = type ∧
      checked.IsMarkedBy (withoutLiterals expression) ∧
      (checked.references.isSome = true ↔ inlineReference.Mentions (withoutLiterals expression)) ∧
      (checked.check = some (trim expression) ↔ withoutLiterals expression = expression) := by
  have plain := readColumn_of_type identified typed ends_nil
  rw [List.append_nil] at plain
  refine ⟨plain, constraint_checkClause balanced, _, readColumn_checkClause identified typed expression, rfl, rfl,
    ?_, ?_, ?_⟩
  · have marked := isMarkedBy_readColumnConstraints (normalizeIdentifier name) type
      (' ' :: checkClause (withoutLiterals expression))
    refine ⟨marked.notNull.trans ?_, marked.primaryKey.trans ?_, marked.unique.trans ?_⟩
    · refine mentions_checkClause (seeks_wholeKeywords (by decide)) (by decide) (by decide) (fun text => ?_) _
      exact (stops_wholeKeywords (by decide) (by decide) (by decide) (by decide)).accepts_append text []
    · refine mentions_checkClause (seeks_wholeKeywords (by decide)) (by decide) (by decide) (fun text => ?_) _
      exact (stops_wholeKeywords (by decide) (by decide) (by decide) (by decide)).accepts_append text []
    · refine mentions_checkClause seeks_unique (by decide) (by decide) (fun text => ?_) _
      exact (stops_unique (by decide)).accepts_append text []
  · rw [readColumnConstraints, Option.isSome_map, isSome_find_iff]
    exact mentions_checkClause seeks_inlineReference (by decide) (by decide) accepts_inlineReference_append _
  · rw [check_checkClause]
    exact check_eq_some_iff balanced

theorem readColumn_check_literal :
    Dialect.standard.constraint "CHECK (c <> 'x')".toList =
      .ok { kind := .check, columns := [], expression := some "c <> 'x'".toList } ∧
    ∃ checked, readColumn "c INT CHECK (c <> 'x')".toList = .ok checked ∧ checked.check ≠ some "c <> 'x'".toList := by
  have typed : IsType "INT".toList := .word (by decide) (by decide) (by decide)
  obtain ⟨_, alone, checked, inline, _, _, _, _, kept⟩ := readColumn_check (show IsIdentifier "c".toList by decide) typed
    (show Balanced "c <> 'x'".toList by decide)
  exact ⟨alone, checked, inline, mt kept.mp (by decide)⟩

end Schemata.Ddl
