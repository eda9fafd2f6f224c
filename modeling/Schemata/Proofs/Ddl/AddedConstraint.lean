import Schemata.Proofs.Ddl.LongerBody
import Schemata.Proofs.Ddl.TableHeads
import Schemata.Proofs.Pipeline.Statements
import Schemata.Proofs.Script.Statements

/-!
The two ways to give a table a constraint: at the end of the body that creates it, and with a statement of
its own. Each is read from the text of the statement.
-/

namespace Schemata.Ddl

open Text
open Script (Balanced Solid Uncut quoteAfter endsStatement endsItem Nesting HasComment)

/-- A statement that creates a table: what stands before the parenthesis of the body, the body, and what
follows it. -/
structure TableStatement where
  head : Text
  body : Text
  tail : Text
deriving DecidableEq, Repr

namespace TableStatement

variable (statement : TableStatement)

def text : Text :=
  statement.head ++ '(' :: (statement.body ++ ')' :: statement.tail)

/-- The statement with one more definition at the end of its body. -/
def extended (definition : Text) : TableStatement :=
  { statement with body := statement.body ++ ',' :: ' ' :: definition }

/-- The statement is accepted and gives this table; its head ends before the parenthesis of the body, and
the body closes what it opens. -/
structure Creates (metadata : TableMetadata) : Prop where
  head : ∃ written, createTableHead.first statement.text =
    some (written, '(' :: (statement.body ++ ')' :: statement.tail))
  balanced : Balanced statement.body
  reads : (Reading.ofKind Dialect.standard (classify statement.text) statement.text 0).metadata = some metadata

end TableStatement

/-- The definition stands for a constraint, and it can be an item of a list and a part of a statement as it
is. -/
structure Declares (definition : Text) (constraint : Constraint) : Prop where
  balanced : Balanced definition
  plain : ¬ HasComment definition
  oneStatement : Uncut quoteAfter endsStatement none definition
  oneItem : Uncut Nesting.after endsItem .start definition
  kind : classifyDefinition definition ∈ constraintKinds
  read : Dialect.standard.constraint definition = .ok constraint

/-- The statement adds the definition to the table and nothing else. -/
structure Adds (statement table definition : Text) : Prop where
  kind : classify statement = .alterTable
  read : Dialect.standard.alterTable statement = .ok ⟨table, [definition]⟩

/-! ### A statement of its own -/

variable {addition table definition : Text} {constraint : Constraint} {metadata : TableMetadata}

/-- What a statement adds is trimmed. -/
theorem Adds.exists_trim_eq (adds : Adds addition table definition) : ∃ part, trim part = definition := by
  obtain ⟨written, actions, added, _, all, made⟩ := readAlterTable_eq_ok.mp adds.read
  have kept : [definition] = added.filterMap id := congrArg TableChange.added made
  have member : definition ∈ added.filterMap id := kept ▸ List.mem_singleton_self _
  obtain ⟨outcome, inside, same⟩ := List.mem_filterMap.mp member
  obtain rfl : outcome = some definition := same
  obtain ⟨action, _, acted⟩ := exists_of_mem_mapM all inside
  unfold Dialect.readAction at acted
  split at acted
  · rename_i part _
    simp only [pure_bind] at acted
    split at acted
    · cases acted
    · exact ⟨part, Option.some.inj (Except.ok.inj acted)⟩
  · cases acted

theorem Adds.solid (adds : Adds addition table definition) (declares : Declares definition constraint) :
    Solid definition := by
  obtain ⟨part, rfl⟩ := adds.exists_trim_eq
  refine Script.solid_trim fun empty => ?_
  have kind := declares.kind
  rw [empty] at kind
  revert kind
  decide

/-- What is read of a statement that adds a constraint. -/
structure Reading.Brings (reading : Reading) (table : Text) (constraint : Constraint) : Prop where
  changes : reading.changes = true
  tableName : reading.tableName = some table
  constraints : reading.constraints = [constraint]
  indexDefinition : reading.indexDefinition = none

theorem Adds.brings (adds : Adds addition table definition)
    (read : Dialect.standard.constraint definition = .ok constraint) :
    (Reading.ofKind Dialect.standard (classify addition) addition 0).Brings table constraint := by
  rw [adds.kind]
  unfold Reading.ofKind Reading.ofAlterTable
  dsimp only
  rw [adds.read]
  simp only [collect, read]
  exact ⟨rfl, rfl, rfl, rfl⟩

/-! ### The constraint in the body -/

variable {statement : TableStatement}

section Body

variable {written : Text} (solid : Solid statement.text) (balanced : Balanced statement.body)
  (head : createTableHead.first statement.text =
    some (written, '(' :: (statement.body ++ ')' :: statement.tail)))
include solid balanced head

theorem createTable_text : Dialect.standard.createTable statement.text =
    if (normalizeIdentifier written).isEmpty then .error (.defect .tableNameEmpty)
    else .ok (normalizeIdentifier written, statement.body) := by
  have enclosed := Script.enclosed_of_balanced balanced statement.tail
  rw [List.cons_append] at enclosed
  change Dialect.ofDefect (readCreateTable statement.text) = _
  unfold readCreateTable
  rw [solid.trim_eq, head]
  dsimp only
  rw [enclosed]
  dsimp only
  split <;> rfl

/-- The table of a statement in terms of the entries of its body. -/
theorem metadata_text_eq_some :
    (Reading.ofKind Dialect.standard (classify statement.text) statement.text 0).metadata = some metadata ↔
      normalizeIdentifier written ≠ [] ∧
        ∃ entries, collect (readEntry Dialect.standard) (Script.items statement.body) = (entries, none) ∧
          (Draft.ofEntries entries).columns ≠ [] ∧
          (Draft.ofEntries entries).metadata (normalizeIdentifier written) = metadata := by
  have created := createTable_text solid balanced head
  rw [classify_of_createTableHead solid.first head, Reading.ofKind]
  by_cases empty : normalizeIdentifier written = []
  · rw [if_pos (by simp [empty])] at created
    simp [Reading.ofCreateTable, created, Reading.fail, empty]
  · rw [if_neg (by simp [empty])] at created
    rw [Reading.ofCreateTable_metadata_eq_some rfl created]
    simp [empty]

end Body

theorem TableStatement.solid_extended (statement : TableStatement) (definition : Text) (solid : Solid statement.text) :
    Solid (statement.extended definition).text where
  some' := by simp [text]
  first := by simpa [text, TableStatement.extended, Ends, List.head?_append] using solid.first
  last := by simpa [text, TableStatement.extended, Ends, List.head?_append] using solid.last

/-- With the constraint at the end of the body, the statement gives a table that is like the one that takes
the constraint afterwards. -/
theorem TableStatement.Creates.extended (creates : statement.Creates metadata) (solid : Solid statement.text)
    (declares : Declares definition constraint) (solid' : Solid definition)
    (firstKey : constraint.kind = .primaryKey → metadata.primaryKey? = none ∧ constraint.columns.Nodup) :
    ∃ longer, (statement.extended definition).Creates longer ∧ longer.Alike (metadata.take constraint) := by
  obtain ⟨written, head⟩ := creates.head
  obtain ⟨named, entries, read, columns, rfl⟩ := (metadata_text_eq_some solid creates.balanced head).mp creates.reads
  let draft := Draft.ofEntries entries
  have separator : Balanced [',', ' '] := by decide
  have balanced : Balanced (statement.extended definition).body :=
    creates.balanced.append (separator.append declares.balanced)
  have head' : createTableHead.first (statement.extended definition).text =
      some (written, '(' :: ((statement.extended definition).body ++ ')' :: statement.tail)) :=
    createTableHead_first_of_longer head (by simp only [TableStatement.extended, List.length_append]; omega)
  have read' : collect (readEntry Dialect.standard) (Script.items (statement.extended definition).body) =
      (entries ++ [.constraint constraint], none) := by
    rw [show (statement.extended definition).body = statement.body ++ ',' :: ' ' :: definition from rfl,
      Script.items_append creates.balanced declares.oneItem solid']
    exact collect_concat read (readEntry_of_constraint declares.kind declares.read)
  have longer : Draft.ofEntries (entries ++ [.constraint constraint]) = draft.add (.constraint constraint) := by
    simp [Draft.ofEntries, draft]
  refine ⟨(draft.add (.constraint constraint)).metadata (normalizeIdentifier written), ⟨⟨written, head'⟩, balanced, ?_⟩, ?_⟩
  · refine (metadata_text_eq_some (statement.solid_extended definition solid) balanced head').mpr ⟨named, _, read', ?_, ?_⟩
    · rw [longer]
      exact columns
    · rw [longer]
  · have standard : Dialect.standard.IsNormal := withClassifiers_isNormal _ _
    have normal := entriesOf_isNormal standard statement.body
    rw [entriesOf, read] at normal
    exact Draft.alike_add_constraint (Draft.ofEntries_wellFormed normal) (normalizeIdentifier_inLowerCase written) firstKey

end Schemata.Ddl
