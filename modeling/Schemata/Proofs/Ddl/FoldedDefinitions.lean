import Schemata.Ddl.Reading
import Schemata.Proofs.Ddl.FoldedReaders
import Mathlib.Data.List.TakeDrop

/-!
Definitions and statements are read without regard to the case of ASCII letters. The same names and
constraints are found; only the types of columns, the expressions of checks and the texts that defects
show are those of the folded text.
-/

namespace Schemata

open Text

def Column.folded (column : Column) : Column :=
  { column with dataType := Text.folded column.dataType }

def Constraint.folded (constraint : Constraint) : Constraint :=
  { constraint with expression := constraint.expression.map Text.folded }

namespace Ddl

open Reader

def ColumnDefinition.folded (column : ColumnDefinition) : ColumnDefinition :=
  { column with dataType := Text.folded column.dataType, check := column.check.map Text.folded }

def Defect.folded : Defect → Defect
  | .constraint definition => .constraint (Text.folded definition)
  | .index definition => .index (Text.folded definition)
  | .columnHead definition => .columnHead (Text.folded definition)
  | .columnListOpen definition => .columnListOpen (Text.folded definition)
  | other => other

def Fault.folded : Fault → Fault
  | .defect d => .defect d.folded
  | other => other

/-- A result that shows a folded text. -/
def foldedResult {ε α : Type} (alter : ε → ε) (change : α → α) : Except ε α → Except ε α
  | .ok a => .ok (change a)
  | .error e => .error (alter e)

@[simp] theorem foldedResult_ok {ε α : Type} (alter : ε → ε) (change : α → α) (a : α) :
    foldedResult alter change (.ok a) = .ok (change a) := rfl

@[simp] theorem foldedResult_error {ε α : Type} (alter : ε → ε) (change : α → α) (e : ε) :
    foldedResult alter change (.error e) = .error (alter e) := rfl

theorem foldedResult_bind {ε α β : Type} {alter : ε → ε} {change : α → α} {turn : β → β} {result : Except ε α}
    {next after : α → Except ε β} (further : ∀ a, after (change a) = foldedResult alter turn (next a)) :
    (foldedResult alter change result >>= after) = foldedResult alter turn (result >>= next) := by
  cases result with
  | error e => rfl
  | ok a => exact further a

theorem ofDefect_folded {α : Type} {change : α → α} (result : Except Defect α) :
    Dialect.ofDefect (foldedResult Defect.folded change result) =
      foldedResult Fault.folded change (Dialect.ofDefect result) := by
  cases result <;> rfl

/-! ### Classification -/

theorem isColumnList_folded (list : Text) : isColumnList (folded list) = isColumnList list := by
  have accepts : (identifier startsName).accepts ∘ folded = (identifier startsName).accepts :=
    funext (identifier_blind startsName_caseBlind).accepts
  have trimmed : trim ∘ folded = folded ∘ trim := funext trim_folded
  simp only [isColumnList, Script.items_folded, List.map_map, trimmed]
  rw [← List.map_map, List.all_map]
  simp only [List.isEmpty_map]
  exact congrArg (_ && List.all _ ·) accepts

theorem definesIndex_folded (definition : Text) : definesIndex (folded definition) = definesIndex definition := by
  rw [definesIndex, definesIndex, indexHead_blind.first]
  cases indexHead.first definition with
  | none => rfl
  | some way =>
      obtain ⟨_, fromList⟩ := way
      simp only [Option.map_some, Script.enclosed_folded]
      cases Script.enclosed fromList with
      | none => rfl
      | some parts =>
          simp only [Option.map_some, trim_folded, isColumnList_folded]

/-- The kind of a definition does not depend on the case of its letters. -/
theorem classifyDefinition_folded (definition : Text) :
    classifyDefinition (folded definition) = classifyDefinition definition := by
  simp only [classifyDefinition, trimLeft_folded, upper_folded, definesIndex_folded]

theorem columnsFrom_folded (definition fromList : Text) :
    columnsFrom (folded definition) (folded fromList) =
      foldedResult Defect.folded id (columnsFrom definition fromList) := by
  rw [columnsFrom, columnsFrom, Script.enclosed_folded]
  cases Script.enclosed fromList with
  | none => rfl
  | some parts =>
      simp only [Option.map_some, trim_folded, columnList_folded]
      rfl

theorem readIndexDefinition_folded (definition : Text) :
    readIndexDefinition (folded definition) = foldedResult Defect.folded id (readIndexDefinition definition) := by
  unfold readIndexDefinition
  dsimp only
  rw [trim_folded, indexHead_blind.first, indexName_folds.first]
  cases indexHead.first (trim definition) with
  | none => rfl
  | some way =>
      simp only [Option.map_some, columnsFrom_folded]
      refine foldedResult_bind fun columns => ?_
      have name : ((indexName.first (trim definition)).map fun way => (folded way.1, folded way.2)).map
          (fun way => normalizeIdentifier way.1) =
            (indexName.first (trim definition)).map fun way => normalizeIdentifier way.1 := by
        rw [Option.map_map]
        refine congrArg (Option.map · _) (funext fun found => ?_)
        exact normalizeIdentifier_folded found.1
      rw [name]
      rfl

/-! ### Constraints -/

theorem readForeignKey_folded (definition fromList : Text) :
    readForeignKey (folded definition) (folded fromList) =
      foldedResult Defect.folded (Option.map Constraint.folded) (readForeignKey definition fromList) := by
  rw [readForeignKey, readForeignKey, Script.enclosed_folded]
  cases Script.enclosed fromList with
  | none => rfl
  | some parts =>
      obtain ⟨list, afterList⟩ := parts
      simp only [Option.map_some, referencesClause_folds.first]
      cases referencesClause.first afterList with
      | none => rfl
      | some way =>
          obtain ⟨table, afterTable⟩ := way
          have opens : (folded afterTable).head? = some '(' ↔ afterTable.head? = some '(' := by
            have opening : Caseless '(' := rfl
            cases afterTable <;> simp [opening.toLower_eq_iff]
          simp only [Option.map_some, opens, columnList_folded, normalizeIdentifier_folded]
          split
          · rw [columnsFrom_folded]
            exact foldedResult_bind fun columns => rfl
          · rfl

/-- Reading a constraint commutes with folding. -/
theorem readConstraintOf_folded (kind : DefinitionKind) (text : Text) :
    readConstraintOf kind (folded text) =
      foldedResult Defect.folded (Option.map Constraint.folded) (readConstraintOf kind text) := by
  cases kind with
  | primaryKey =>
      simp only [readConstraintOf, primaryKeyHead_blind.first]
      cases primaryKeyHead.first text with
      | none => rfl
      | some way =>
          simp only [Option.map_some, columnsFrom_folded]
          exact foldedResult_bind fun columns => rfl
  | foreignKey =>
      simp only [readConstraintOf, foreignKeyHead_blind.first]
      cases foreignKeyHead.first text with
      | none => rfl
      | some way =>
          simp only [Option.map_some, readForeignKey_folded]
  | unique =>
      simp only [readConstraintOf, uniqueHead_blind.first]
      cases uniqueHead.first text with
      | none => rfl
      | some way =>
          simp only [Option.map_some, columnsFrom_folded]
          exact foldedResult_bind fun columns => rfl
  | check =>
      simp only [readConstraintOf, checkHead_blind.first]
      cases checkHead.first text with
      | none => rfl
      | some way =>
          simp only [Option.map_some, Script.enclosed_folded]
          cases Script.enclosed way.2 with
          | none => rfl
          | some parts => simp [Constraint.folded, trim_folded, pure, Except.pure]
  | constraint => rfl
  | index => rfl
  | column => rfl

theorem splitName_folded (definition : Text) :
    splitName (folded definition) = ((splitName definition).1, folded (splitName definition).2) := by
  rw [splitName, splitName, trim_folded, namedConstraint_folds.first]
  cases namedConstraint.first (trim definition) with
  | none => rfl
  | some way => simp only [Option.map_some, normalizeIdentifier_folded, trim_folded]

theorem readConstraint_folded (definition : Text) :
    Dialect.standard.constraint (folded definition) =
      foldedResult Fault.folded Constraint.folded (Dialect.standard.constraint definition) := by
  have read : Dialect.standard.constraint =
      Dialect.readConstraint fun definition => return classifyDefinition definition := rfl
  rw [read]
  unfold Dialect.readConstraint
  rw [splitName_folded]
  dsimp only
  rw [pure_bind, pure_bind, classifyDefinition_folded, readConstraintOf_folded, ofDefect_folded]
  refine foldedResult_bind fun found => ?_
  cases found <;> rfl

/-! ### Columns -/

theorem count_folded {c : Char} (caseless : Caseless c) (text : Text) : (folded text).count c = text.count c := by
  rw [List.count_eq_countP, List.count_eq_countP, folded, List.countP_map]
  exact congrArg (List.countP · text) (funext caseless.toLower_beq)

theorem span_folded {p : Char → Bool} (blind : CaseBlind p) (text : Text) :
    (folded text).span p = (folded (text.span p).1, folded (text.span p).2) := by
  rw [List.span_eq_takeWhile_dropWhile, List.span_eq_takeWhile_dropWhile, dropWhile_folded blind, folded,
    List.takeWhile_map, show p ∘ Char.toLower = p from funext blind]
  rfl

theorem splitType_folded (word rest : Text) :
    splitType (folded word) (folded rest) =
      (folded (splitType word rest).1, folded (splitType word rest).2) := by
  have opening : Caseless '(' := rfl
  have closing : Caseless ')' := rfl
  have before : CaseBlind (· != '(') := fun c => congrArg (!·) (opening.toLower_beq c)
  simp only [splitType, count_folded opening, count_folded closing]
  split
  · rw [← folded_append, span_folded before]
    simp only [Script.enclosed_folded]
    cases Script.enclosed ((word ++ rest).span (· != '(')).2 with
    | none => rfl
    | some parts => simp [closing.toLower_eq_iff.mpr rfl, opening.toLower_eq_iff.mpr rfl]
  · rfl

theorem readColumnConstraints_folded (name dataType rest : Text) :
    readColumnConstraints name (folded dataType) (folded rest) =
      (readColumnConstraints name dataType rest).folded := by
  have unique : Blind (do keyword "UNIQUE".toList; wordEnd) := (Blind.keyword _).bind fun _ => Blind.wordEnd
  simp only [readColumnConstraints, ColumnDefinition.folded, (wholeKeywords_blind _ _).find, unique.find,
    inlineReference_folds.find, checkHead_blind.find, Option.isSome_map, Option.map_map, Option.bind_map,
    Option.map_bind]
  congr 1
  · refine congrArg (Option.map · _) (funext fun way => ?_)
    simp only [Function.comp_apply, normalizeIdentifier_folded, columnList_folded]
  · refine congrArg (Option.bind _) (funext fun way => ?_)
    simp only [Function.comp_apply, Script.enclosed_folded, Option.map_map]
    refine congrArg (Option.map · _) (funext fun parts => ?_)
    exact trim_folded parts.1

theorem readColumn_folded (definition : Text) :
    readColumn (folded definition) = foldedResult Defect.folded ColumnDefinition.folded (readColumn definition) := by
  rw [readColumn, readColumn, trim_folded, columnHead_folds.first]
  cases columnHead.first (trim definition) with
  | none => rfl
  | some way =>
      simp only [Option.map_some, Span.text_folded, splitType_folded, withoutLiterals_folded,
        readColumnConstraints_folded, normalizeIdentifier_folded]
      rfl

end Ddl

end Schemata
