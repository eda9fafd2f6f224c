import Schemata.Proofs.Ddl.AddedConstraint
import Schemata.Proofs.Pipeline.Agreement

/-!
A constraint that a statement adds to a table may stand in the body of the table instead. The table then
has the constraint before the changes that other statements make to it, and after those of its body in
either case; what is inferred does not depend on more.
-/

namespace Schemata

open Ddl (Dialect Reading StatementKind TableStatement Declares Adds)
open Text (InLowerCase)

namespace TableMetadata

variable {metadata one other : TableMetadata} {reading : Reading} {changes : List Reading} {constraint : Constraint}

theorem Alike.change (alike : one.Alike other) (reading : Reading) :
    (one.change reading).Alike (other.change reading) := by
  have named : Registry.hasName (reading.tableName.getD []) one = Registry.hasName (reading.tableName.getD []) other := by
    rw [Registry.hasName, Registry.hasName, alike.name]
  unfold TableMetadata.change
  rw [named]
  split
  · cases reading.indexDefinition with
    | some index => exact alike.withIndex index
    | none => exact alike.foldl_take reading.constraints
  · exact alike

theorem Alike.foldl_change (alike : one.Alike other) (changes : List Reading) :
    (changes.foldl TableMetadata.change one).Alike (changes.foldl TableMetadata.change other) := by
  induction changes generalizing one other with
  | nil => exact alike
  | cons reading rest ih => exact ih (alike.change reading)

theorem take_withIndex (metadata : TableMetadata) (index : IndexDefinition) (constraint : Constraint) :
    (metadata.withIndex index).take constraint = (metadata.take constraint).withIndex index := by
  unfold take
  split
  · rename_i refused
    rw [if_pos (show constraint.kind = .primaryKey ∧ metadata.primaryKey?.isSome from refused)]
  · rename_i taken
    rw [if_neg (show ¬ (constraint.kind = .primaryKey ∧ metadata.primaryKey?.isSome) from taken)]
    rfl

/-- The change gives the table an index, if it bears on the table at all. -/
def IsIndexed (metadata : TableMetadata) (reading : Reading) : Prop :=
  Registry.hasName (reading.tableName.getD []) metadata = true → reading.indexDefinition ≠ none

/-- A constraint may be taken before the indexes or after them. -/
theorem change_take (indexed : metadata.IsIndexed reading) (constraint : Constraint) :
    (metadata.change reading).take constraint = (metadata.take constraint).change reading := by
  have named : Registry.hasName (reading.tableName.getD []) (metadata.take constraint) =
      Registry.hasName (reading.tableName.getD []) metadata := by
    rw [Registry.hasName, Registry.hasName, take_name]
  unfold change
  rw [named]
  split
  · rename_i here
    cases found : reading.indexDefinition with
    | some index => exact take_withIndex metadata index constraint
    | none => exact absurd found (indexed here)
  · rfl

theorem foldl_change_take (indexed : ∀ reading ∈ changes, metadata.IsIndexed reading) (constraint : Constraint) :
    (changes.foldl change metadata).take constraint = changes.foldl change (metadata.take constraint) := by
  induction changes generalizing metadata with
  | nil => rfl
  | cons reading rest ih =>
      obtain ⟨here, later⟩ := List.forall_mem_cons.mp indexed
      have still : ∀ other ∈ rest, (metadata.change reading).IsIndexed other := by
        intro other member named
        rw [Registry.hasName, change_name] at named
        exact later other member named
      rw [List.foldl_cons, List.foldl_cons, ← change_take here, ih still]

/-- A constraint that is brought is taken by the table that it is for. -/
theorem change_of_brings (brings : reading.Brings metadata.name constraint) :
    metadata.change reading = metadata.take constraint := by
  have here : Registry.hasName metadata.name metadata = true := by simp [Registry.hasName]
  rw [change, brings.tableName, Option.getD_some, if_pos here, brings.indexDefinition, brings.constraints]
  rfl

theorem change_of_brings_ne {table : Text} (brings : reading.Brings table constraint)
    (apart : Text.lower metadata.name ≠ Text.lower table) : metadata.change reading = metadata := by
  have elsewhere : ¬ Registry.hasName table metadata = true := by simpa [Registry.hasName] using apart
  rw [change, brings.tableName, Option.getD_some, if_neg elsewhere]

end TableMetadata

namespace Ddl.Reading

variable {dialect : Dialect} {statement : Text} {index : Nat} {reading : Reading}

/-- Only a table statement that is accepted gives a table. -/
theorem creates_of_metadata {kind : StatementKind} {index : Nat} {metadata : TableMetadata}
    (makes : (ofKind dialect kind statement index).metadata = some metadata) :
    (ofKind dialect kind statement index).creates = true := by
  have given : (ofKind dialect kind statement index).metadata ≠ none := by simp [makes]
  obtain ⟨_, _, _, _, _, _, same⟩ := (arises_ofKind dialect kind statement index).exists_table (.inl given)
  rw [same]
  rfl

theorem Arises.indexDefinition_ne_none (arises : Arises dialect statement index .createIndex reading)
    (accepted : reading.accepted = true) : reading.indexDefinition ≠ none := by
  cases arises with
  | unreadIndex => cases accepted
  | index => exact Option.some_ne_none _

end Ddl.Reading

namespace Pipeline

/-- What a statement of a script is read as. -/
abbrev readings (statements : List Text) : List Reading :=
  statements.map (readingOf Dialect.standard Ddl.classify)

def tablesIn (statements : List Text) : List TableMetadata :=
  ((readings statements).filter Reading.creates).filterMap Reading.metadata

def changesIn (statements : List Text) : List Reading :=
  (readings statements).filter Reading.changes

/-- The registry of the script with these statements. -/
def registryFrom (statements : List Text) : Registry :=
  registryOf ((readings statements).filter Reading.creates) (changesIn statements)

theorem tablesIn_append (one other : List Text) : tablesIn (one ++ other) = tablesIn one ++ tablesIn other := by
  simp [tablesIn]

theorem changesIn_append (one other : List Text) : changesIn (one ++ other) = changesIn one ++ changesIn other := by
  simp [changesIn]

theorem tablesIn_cons (statement : Text) (rest : List Text) :
    tablesIn (statement :: rest) = tablesIn [statement] ++ tablesIn rest :=
  tablesIn_append [statement] rest

theorem changesIn_cons (statement : Text) (rest : List Text) :
    changesIn (statement :: rest) = changesIn [statement] ++ changesIn rest :=
  changesIn_append [statement] rest

section One

variable {statement : Text} {metadata : TableMetadata}

theorem tablesIn_of_creates (makes : (readingOf Dialect.standard Ddl.classify statement).metadata = some metadata) :
    tablesIn [statement] = [metadata] := by
  have creates : (readingOf Dialect.standard Ddl.classify statement).creates = true := Reading.creates_of_metadata makes
  rw [tablesIn, readings, List.map_singleton, List.filter_cons_of_pos creates, List.filter_nil,
    List.filterMap_cons_some makes, List.filterMap_nil]

theorem changesIn_of_creates (makes : (readingOf Dialect.standard Ddl.classify statement).metadata = some metadata) :
    changesIn [statement] = [] := by
  have unchanging := Reading.changes_of_creates (Reading.creates_of_metadata makes)
  exact List.filter_cons_of_neg (Bool.eq_false_iff.mp unchanging)

theorem tablesIn_of_changes (changes : (readingOf Dialect.standard Ddl.classify statement).changes = true) :
    tablesIn [statement] = [] := by
  have uncreating : ¬ (readingOf Dialect.standard Ddl.classify statement).creates = true := by
    intro creates
    rw [Reading.changes_of_creates creates] at changes
    cases changes
  rw [tablesIn, readings, List.map_singleton, List.filter_cons_of_neg uncreating]
  rfl

end One

theorem registryFrom_tables (statements : List Text) :
    (registryFrom statements).tables =
      (firstOfEach (fun metadata => Text.lower metadata.name) [] (tablesIn statements)).map fun metadata =>
        (changesIn statements).foldl TableMetadata.change metadata :=
  registryOf_tables _ _

/-- The results agree in all but their diagnostics. -/
structure SameSchema (one other : Result) : Prop where
  tables : one.tables = other.tables
  relationships : one.relationships = other.relationships
  junctionTables : one.junctionTables = other.junctionTables

theorem infer_alike {one other : Registry} (alike : one.Alike other) (config : Config)
    (diagnostics diagnostics' : List Diagnostic) :
    SameSchema (infer config config.rules one diagnostics) (infer config config.rules other diagnostics') := by
  have junctions : junctionsOf config one = junctionsOf config other :=
    map_eq_of_forall₂ (filter_of_forall₂ alike fun here => Registry.Alike.isJunctionTable here config)
      TableMetadata.Alike.name
  rw [infer_rules, infer_rules, junctions]
  refine ⟨map_eq_of_forall₂ alike TableMetadata.Alike.table, ?_, rfl⟩
  exact congrArg Relationship.report (alike.found _ config)

theorem inferSchema_alike {one other : Text}
    (alike : (registryFrom (Script.statements one)).Alike (registryFrom (Script.statements other))) (config : Config) :
    SameSchema (inferSchema config one) (inferSchema config other) := by
  obtain ⟨diagnostics, ran⟩ := run_eq_infer Dialect.standard_classifies config config.rules one
  obtain ⟨diagnostics', ran'⟩ := run_eq_infer Dialect.standard_classifies config config.rules other
  rw [← readings_creates Dialect.standard_classifies, ← readings_changes Dialect.standard_classifies] at ran ran'
  rw [inferSchema, inferSchema, ran, ran']
  exact infer_alike alike.resolveImplicitReferences config diagnostics diagnostics'

/-- The statement is an accepted change of the table that adds constraints. -/
def alters (table statement : Text) : Bool :=
  let reading := readingOf Dialect.standard Ddl.classify statement
  reading.accepted && reading.kind == .alterTable && reading.tableName == some table

/-- A script in which a statement of its own adds a constraint to a table that another statement creates:
the first one to create it. No other statement before the addition adds to the table. -/
structure Addition where
  created : TableStatement
  metadata : TableMetadata
  statement : Text
  definition : Text
  constraint : Constraint
  first : List Text
  last : List Text
  before : List Text
  after : List Text
  creates : created.Creates metadata
  declares : Declares definition constraint
  adds : Adds statement metadata.name definition
  firstKey : constraint.kind = .primaryKey → metadata.primaryKey? = none ∧ constraint.columns.Nodup
  placed : first ++ last = before ++ created.text :: after
  firstTable : ∀ other ∈ before, defines Dialect.standard Ddl.classify metadata.name other = false
  firstChange : ∀ other ∈ first, alters metadata.name other = false

namespace Addition

variable (addition : Addition)

def statements : List Text :=
  addition.first ++ addition.statement :: addition.last

/-- The statements with the constraint in the body of the table. -/
def moved : List Text :=
  addition.before ++ (addition.created.extended addition.definition).text :: addition.after

def reading : Reading :=
  readingOf Dialect.standard Ddl.classify addition.statement

theorem brings : addition.reading.Brings addition.metadata.name addition.constraint :=
  addition.adds.brings addition.declares.read

theorem tablesIn_statements :
    tablesIn addition.statements = tablesIn addition.before ++ addition.metadata :: tablesIn addition.after := by
  have none' : tablesIn [addition.statement] = [] := tablesIn_of_changes addition.brings.changes
  rw [statements, tablesIn_append, tablesIn_cons, none', List.nil_append, ← tablesIn_append, addition.placed,
    tablesIn_append, tablesIn_cons, tablesIn_of_creates addition.creates.reads]
  rfl

theorem changesIn_statements :
    changesIn addition.statements = changesIn addition.first ++ addition.reading :: changesIn addition.last := by
  have one : changesIn [addition.statement] = [addition.reading] := List.filter_cons_of_pos addition.brings.changes
  rw [statements, changesIn_append, changesIn_cons, one]
  rfl

section Longer

variable {longer : TableMetadata} (creates : (addition.created.extended addition.definition).Creates longer)
include creates

theorem tablesIn_moved :
    tablesIn addition.moved = tablesIn addition.before ++ longer :: tablesIn addition.after := by
  rw [moved, tablesIn_append, tablesIn_cons, tablesIn_of_creates creates.reads]
  rfl

theorem changesIn_moved :
    changesIn addition.moved = changesIn addition.first ++ changesIn addition.last := by
  rw [moved, changesIn_append, changesIn_cons, changesIn_of_creates creates.reads, List.nil_append,
    ← changesIn_append, ← changesIn_append, addition.placed, changesIn_append, changesIn_append, changesIn_cons,
    changesIn_of_creates addition.creates.reads, List.nil_append]

end Longer

theorem consistent_of_metadata {statement : Text} {metadata : TableMetadata}
    (makes : (readingOf Dialect.standard Ddl.classify statement).metadata = some metadata) : metadata.Consistent := by
  have standard : Dialect.standard.IsNormal := Ddl.withClassifiers_isNormal _ _
  obtain ⟨other, same, consistent, _⟩ := readingOf_consistent standard (Reading.creates_of_metadata makes)
  obtain rfl : metadata = other := Option.some.inj (makes.symm.trans same)
  exact consistent

theorem metadata_name_inLowerCase : InLowerCase addition.metadata.name :=
  (consistent_of_metadata addition.creates.reads).name

/-- Before the addition, other statements give the table nothing but indexes. -/
theorem isIndexed {reading : Reading} (member : reading ∈ changesIn addition.first) :
    addition.metadata.IsIndexed reading := by
  intro here
  obtain ⟨inside, changes⟩ := List.mem_filter.mp member
  obtain ⟨statement, listed, rfl⟩ := List.mem_map.mp inside
  have standard : Dialect.standard.IsNormal := Ddl.withClassifiers_isNormal _ _
  obtain ⟨table, named, lower⟩ := (readingOf_isNormal standard changes).table
  have same : table = addition.metadata.name := by
    rw [named, Option.getD_some, Registry.hasName, beq_iff_eq, lower, addition.metadata_name_inLowerCase] at here
    exact here.symm
  have other := addition.firstChange statement listed
  simp only [Reading.changes, Bool.and_eq_true, Bool.or_eq_true, beq_iff_eq] at changes
  obtain ⟨accepted, kind | kind⟩ := changes
  · simp [alters, accepted, kind, named, same] at other
  · have arises := arises_readingOf Dialect.standard Ddl.classify statement
    rw [← arises.kind_eq, kind] at arises
    exact arises.indexDefinition_ne_none accepted

theorem name_ne_of_before {other : TableMetadata} (member : other ∈ tablesIn addition.before) :
    Text.lower other.name ≠ Text.lower addition.metadata.name := by
  obtain ⟨reading, inside, makes⟩ := List.mem_filterMap.mp member
  obtain ⟨statement, listed, rfl⟩ := List.mem_map.mp (List.mem_of_mem_filter inside)
  have undefined := addition.firstTable statement listed
  rw [defines, makes, Option.any_some, beq_eq_false_iff_ne] at undefined
  rwa [(consistent_of_metadata makes).name, addition.metadata_name_inLowerCase]

/-- The table takes the constraint after all other changes or before them. -/
theorem foldl_changesIn :
    (changesIn addition.statements).foldl TableMetadata.change addition.metadata =
      (changesIn addition.first ++ changesIn addition.last).foldl TableMetadata.change
        (addition.metadata.take addition.constraint) := by
  have taken := TableMetadata.foldl_change_take (fun _ => addition.isIndexed) addition.constraint
  have brings : addition.reading.Brings
      ((changesIn addition.first).foldl TableMetadata.change addition.metadata).name addition.constraint := by
    rw [TableMetadata.foldl_change_name]
    exact addition.brings
  rw [changesIn_statements, List.foldl_append, List.foldl_cons, TableMetadata.change_of_brings brings, taken,
    List.foldl_append]

/-- The addition leaves other tables alone. -/
theorem foldl_changesIn_of_ne {other : TableMetadata}
    (apart : Text.lower other.name ≠ Text.lower addition.metadata.name) :
    (changesIn addition.statements).foldl TableMetadata.change other =
      (changesIn addition.first ++ changesIn addition.last).foldl TableMetadata.change other := by
  have apart' : Text.lower ((changesIn addition.first).foldl TableMetadata.change other).name ≠
      Text.lower addition.metadata.name := by
    rwa [TableMetadata.foldl_change_name]
  rw [changesIn_statements, List.foldl_append, List.foldl_cons,
    TableMetadata.change_of_brings_ne addition.brings apart', List.foldl_append]

/-- The tables are alike if the constraint is moved, and they come in the same order. -/
theorem registryFrom_moved_alike (solid : Script.Solid addition.created.text) :
    (registryFrom addition.moved).Alike (registryFrom addition.statements) := by
  obtain ⟨longer, creates, alike⟩ := addition.creates.extended solid addition.declares
    (addition.adds.solid addition.declares) addition.firstKey
  let key (metadata : TableMetadata) := Text.lower metadata.name
  have same : key longer = key addition.metadata := congrArg Text.lower (alike.name.trans TableMetadata.take_name)
  have free : ∀ other ∈ tablesIn addition.before, key other ≠ key addition.metadata :=
    fun _ => addition.name_ne_of_before
  have free' : ∀ other ∈ tablesIn addition.before, key other ≠ key longer := by rwa [same]
  have untouched : ∀ {others : List TableMetadata}, (∀ other ∈ others, key other ≠ key addition.metadata) →
      List.Forall₂ TableMetadata.Alike
        (others.map fun metadata =>
          (changesIn addition.first ++ changesIn addition.last).foldl TableMetadata.change metadata)
        (others.map fun metadata => (changesIn addition.statements).foldl TableMetadata.change metadata) := by
    intro others apart
    rw [List.forall₂_map_left_iff, List.forall₂_map_right_iff, List.forall₂_same]
    intro other member
    rw [addition.foldl_changesIn_of_ne (apart other member)]
    exact .refl _
  rw [Registry.Alike, registryFrom_tables, registryFrom_tables, addition.tablesIn_statements,
    addition.tablesIn_moved creates, firstOfEach_append_cons free, firstOfEach_append_cons free',
    addition.changesIn_moved creates, List.map_append, List.map_append, List.map_cons, List.map_cons]
  refine List.rel_append (untouched fun other member => free other (mem_of_mem_firstOfEach member)) (.cons ?_ ?_)
  · rw [addition.foldl_changesIn]
    exact alike.foldl_change _
  · rw [same]
    refine untouched fun other member taken => ?_
    exact key_not_mem_of_mem_firstOfEach member (List.mem_cons.mpr (.inl taken))

section Written

open Script (AreStatements IsStatement quoteAtEnd)

variable {script : Text} (written : Script.statements script = addition.statements)
include written

theorem areStatements_placed : AreStatements (addition.before ++ addition.created.text :: addition.after) := by
  have whole := Script.areStatements_statements script
  rw [written] at whole
  rw [← addition.placed]
  exact whole.sublist ((List.Sublist.refl _).append (List.sublist_cons_self ..))

theorem isStatement_created : IsStatement addition.created.text :=
  (addition.areStatements_placed written).each _ (by simp)

/-- A script can hold the statements with the constraint in the body, if what stands before the body closes
its literals. -/
theorem areStatements_moved (closed : quoteAtEnd none addition.created.head = none) : AreStatements addition.moved := by
  let left := addition.created.head ++ '(' :: addition.created.body
  have short : addition.created.text = left ++ ')' :: addition.created.tail := by
    simp [left, TableStatement.text]
  have long : (addition.created.extended addition.definition).text =
      left ++ ',' :: ' ' :: (addition.definition ++ ')' :: addition.created.tail) := by
    simp [left, TableStatement.text, TableStatement.extended]
  have is := addition.isStatement_created written
  have solid := addition.created.solid_extended addition.definition is.solid
  rw [short] at is
  rw [long] at solid
  have before : quoteAtEnd none left = none := by
    have unquoted : Script.quoteAfter none '(' = none := rfl
    rw [Script.quoteAtEnd_append, closed, Script.quoteAtEnd_cons, unquoted, addition.creates.balanced.quoteAtEnd]
  have inside := addition.declares.balanced.quoteAtEnd
  refine (addition.areStatements_placed written).replace ?_ ?_
  · rw [long]
    exact is.insert before solid addition.declares.oneStatement addition.declares.plain inside
  · rw [long, short]
    exact Script.quoteAtEnd_insert before inside

end Written

end Addition

/-- The schema is the same if the constraint stands in the body of its table and the statement that adds it
is left out. -/
theorem inferSchema_moved_addition (addition : Addition) {script : Text}
    (written : Script.statements script = addition.statements) :
    (∀ other, Script.statements other = addition.moved →
      ∀ config, SameSchema (inferSchema config other) (inferSchema config script)) ∧
    (Script.quoteAtEnd none addition.created.head = none →
      Script.statements ([';'].intercalate addition.moved) = addition.moved) := by
  refine ⟨fun other edited config => ?_, fun closed => ?_⟩
  · refine inferSchema_alike ?_ config
    rw [edited, written]
    exact addition.registryFrom_moved_alike (addition.isStatement_created written).solid
  · exact Script.statements_intercalate (addition.areStatements_moved written closed)

/-- A primary key that is added behind an index. -/
def lateKey : Addition where
  created := ⟨"CREATE TABLE a ".toList, "x INT".toList, []⟩
  metadata := { table := ⟨"a".toList, [{ name := "x".toList, dataType := "INT".toList }]⟩ }
  statement := "ALTER TABLE A ADD PRIMARY KEY (x)".toList
  definition := "PRIMARY KEY (x)".toList
  constraint := { kind := .primaryKey, columns := ["x".toList] }
  first := ["CREATE TABLE a (x INT)".toList, "CREATE INDEX i ON a (x)".toList]
  last := []
  before := []
  after := ["CREATE INDEX i ON a (x)".toList]
  creates := ⟨⟨"a".toList, by decide +kernel⟩, by decide +kernel, by decide +kernel⟩
  declares := ⟨by decide +kernel, Script.stripComments_eq_self_iff.mp (by decide +kernel), by decide +kernel,
    by decide +kernel, by decide +kernel, by decide +kernel⟩
  adds := ⟨by decide +kernel, by decide +kernel⟩
  firstKey := by decide +kernel
  placed := by decide +kernel
  firstTable := by decide +kernel
  firstChange := by decide +kernel

theorem inferSchema_moved_lateKey :
    let script := "CREATE TABLE a (x INT);CREATE INDEX i ON a (x);ALTER TABLE A ADD PRIMARY KEY (x)".toList
    let moved := "CREATE TABLE a (x INT, PRIMARY KEY (x));CREATE INDEX i ON a (x)".toList
    Script.statements script = lateKey.statements ∧ SameSchema (inferSchema {} moved) (inferSchema {} script) := by
  intro script moved
  have written : Script.statements script = lateKey.statements := by decide +kernel
  obtain ⟨same, apart⟩ := inferSchema_moved_addition lateKey written
  refine ⟨written, same moved ?_ {}⟩
  have joined : moved = [';'].intercalate lateKey.moved := by decide +kernel
  rw [joined]
  exact apart (by decide +kernel)

/-- A table whose name, in brackets, has a quote that opens a literal for the scan for semicolons. -/
def openHead : Addition where
  created := ⟨"CREATE TABLE [it's] ".toList, "a INT".toList, []⟩
  metadata := { table := ⟨"it's".toList, [{ name := "a".toList, dataType := "INT".toList }]⟩ }
  statement := "ALTER TABLE \"it's\" ADD CHECK (a <> ';')".toList
  definition := "CHECK (a <> ';')".toList
  constraint := { kind := .check, expression := some "a <> ';'".toList }
  first := []
  last := ["CREATE TABLE [it's] (a INT)".toList]
  before := []
  after := []
  creates := ⟨⟨"[it's]".toList, by decide +kernel⟩, by decide +kernel, by decide +kernel⟩
  declares := ⟨by decide +kernel, Script.stripComments_eq_self_iff.mp (by decide +kernel), by decide +kernel,
    by decide +kernel, by decide +kernel, by decide +kernel⟩
  adds := ⟨by decide +kernel, by decide +kernel⟩
  firstKey := by decide +kernel
  placed := by decide +kernel
  firstTable := by decide +kernel
  firstChange := by decide +kernel

/-- With the constraint in the body, the quote in the name leaves the semicolon of the constraint outside
literals, and the script has no statement that creates the table. -/
theorem inferSchema_moved_openHead :
    let script := "ALTER TABLE \"it's\" ADD CHECK (a <> ';');CREATE TABLE [it's] (a INT)".toList
    let moved := "CREATE TABLE [it's] (a INT, CHECK (a <> ';'))".toList
    Script.statements script = openHead.statements ∧ moved = [';'].intercalate openHead.moved ∧
      (inferSchema {} moved).tables = [] ∧ (inferSchema {} script).tables = [openHead.metadata.table] := by
  decide +kernel

end Pipeline

end Schemata
