import Schemata.Proofs.Document.Json
import Schemata.Proofs.Pipeline.Completion
import Schemata.Proofs.Script.Pieces

/-!
The result of every run can be stored: its tables are named, so are its junction tables, and its
diagnostics tell the statement by an index. Written as YAML it loads as itself; written as JSON it does
unless a text goes beyond units of sixteen bits.
-/

namespace Schemata

open Ddl (Dialect Reading)

/-! ### Names of tables -/

namespace Pipeline

theorem named_of_mem_registryIn {script : Text} {metadata : TableMetadata}
    (member : metadata ∈ (registryIn Dialect.standard Ddl.classify script).tables) : metadata.name ≠ [] := by
  rw [registryIn, registryOf_tables] at member
  obtain ⟨first, registered, rfl⟩ := List.mem_map.mp member
  rw [TableMetadata.foldl_change_name]
  obtain ⟨reading, inside, given⟩ := List.mem_filterMap.mp (mem_of_mem_firstOfEach registered)
  obtain ⟨statement, listed, rfl⟩ := List.mem_map.mp inside
  obtain ⟨table, body, created, rfl⟩ := Reading.exists_draft_of_ofKind given
  obtain ⟨_, _, _, _, _, named, rfl⟩ := Ddl.readCreateTable_eq_ok.mp (Ddl.ofDefect_eq_ok.mp created)
  rw [Ddl.Draft.metadata, TableMetadata.applyConstraintFlags_name]
  exact named

theorem named_of_mem_resolved {script : Text} {metadata : TableMetadata}
    (member : metadata ∈ (registryIn Dialect.standard Ddl.classify script).resolveImplicitReferences.tables) :
    metadata.name ≠ [] := by
  obtain ⟨first, registered, rfl⟩ := List.mem_map.mp member
  rw [Registry.completeTable_name]
  exact named_of_mem_registryIn registered

end Pipeline

/-- A relationship through a junction table names a table of the registry. -/
theorem junctionTable_of_found {registry : Registry} {junctions : List Text} {config : Config}
    {link : Relationship} (member : link ∈ registry.found junctions config) {name : Text}
    (through : link.junctionTable = some name) : ∃ metadata ∈ registry.tables, metadata.name = name := by
  rcases found_cases member with
    ⟨_, whole⟩ | ⟨_, before, metadata, after, listed, _, _, whole⟩ | ⟨_, _, _, whole⟩
  · rw [whole] at through
    cases through
  · rw [whole] at through
    have inside : metadata ∈ junctions.filterMap registry.get? := by
      rw [listed]
      simp
    obtain ⟨junction, _, found⟩ := List.mem_filterMap.mp inside
    exact ⟨metadata, List.mem_of_find?_eq_some found, Option.some_inj.mp through⟩
  · rw [whole] at through
    cases through

namespace Pipeline

/-- No relationship of a run goes through a junction table without a name. -/
theorem inferSchema_named (config : Config) (script : Text) :
    ∀ link ∈ (inferSchema config script).relationships, link.junctionTable ≠ some [] := by
  intro link member through
  obtain ⟨diagnostics, ran⟩ := run_eq_infer Dialect.standard_classifies config config.rules script
  rw [inferSchema, ran, infer_rules] at member
  obtain ⟨metadata, registered, unnamed⟩ := junctionTable_of_found (mem_report_found.mp member) through
  exact named_of_mem_resolved registered unnamed

/-- A script gives a result that can be stored, unless its statements are counted in numbers with more
digits than are read. No text that a machine holds is that long. -/
theorem inferSchema_isStorable (config : Config) {script : Text}
    (held : script.length < 10 ^ Text.digitLimit) : (inferSchema config script).IsStorable where
  short := by
    intro shown member index named
    have few := Nat.le_trans (Script.length_statements_le script) held
    obtain ⟨place, statement, found, same, _⟩ := inferSchema_shows config script shown member
    obtain rfl := Option.some_inj.mp (same.symm.trans named)
    exact Nat.lt_of_lt_of_le (List.getElem?_eq_some_iff.mp found).1 few
  named := inferSchema_named config script

/-- The result of a run that is written as YAML loads as itself, and as no other. Left out are scripts whose
lengths have more digits than are read, and those with private characters that stand for halves of surrogate
pairs. -/
theorem inferSchema_loads_yaml (config : Config) {script : Text}
    (held : script.length < 10 ^ Text.digitLimit) (path : Text) :
    let written := Format.render .yaml (inferSchema config script).stored.encode
    Stored.Result.load path written = .ok (inferSchema config script).stored ∧
      ∀ other : Result, Stored.Result.load path written = .ok other.stored →
        other = inferSchema config script := by
  intro written
  have loaded : Stored.Result.load path written = .ok (inferSchema config script).stored :=
    Result.load_yaml (inferSchema_isStorable config held) path
  exact ⟨loaded, fun other same => Result.stored_injective (Except.ok.inj (same.symm.trans loaded))⟩

/-- Names that read as something else where they stand without quotes, or that need escapes. -/
def oddNamesScript : Text :=
  "CREATE TABLE \"null\" (\"2024-01-01\" INT, \" it's: # \" TEXT, \"\n\x07😀\" TEXT); CREATE".toList

theorem inferSchema_loads_yaml_oddNames :
    oddNamesScript.length < 10 ^ Text.digitLimit ∧
      Stored.Result.load "odd.yaml".toList
          (Format.render .yaml (inferSchema {} oddNamesScript).stored.encode) =
        .ok (inferSchema {} oddNamesScript).stored := by
  have held : oddNamesScript.length < 10 ^ Text.digitLimit :=
    Nat.lt_of_lt_of_le (by decide : _ < 10 ^ 2) (Nat.pow_le_pow_right (by decide) (by decide))
  exact ⟨held, (inferSchema_loads_yaml {} held "odd.yaml".toList).1⟩

/-- The result of a run that is written as JSON loads with its texts in units of sixteen bits, and so as
itself exactly if none of its code points goes beyond them. The texts hold none of the private characters that stand
for halves of surrogate pairs as themselves. -/
theorem inferSchema_loads_json (config : Config) {script : Text}
    (held : script.length < 10 ^ Text.digitLimit) (path : Text) :
    let result := inferSchema config script
    let loaded := Stored.Result.load path (Format.render .json result.stored.encode)
    loaded = .ok result.halved.stored ∧
      (loaded = .ok result.stored ↔ ∀ s ∈ result.texts, ∀ c ∈ s, Text.codeOf c < 0x10000) := by
  intro result loaded
  have storable : result.IsStorable := inferSchema_isStorable config held
  exact ⟨Result.load_json storable path, Result.load_json_iff storable path⟩

/-- A name with a code point beyond sixteen bits. -/
def smileScript : Text :=
  "CREATE TABLE t (\"a😀\" INT)".toList

theorem inferSchema_loads_json_smile :
    smileScript.length < 10 ^ Text.digitLimit ∧
      Stored.Result.load "y.json".toList (Format.render .json (inferSchema {} smileScript).stored.encode) ≠
        .ok (inferSchema {} smileScript).stored := by
  have held : smileScript.length < 10 ^ Text.digitLimit :=
    Nat.lt_of_lt_of_le (by decide : _ < 10 ^ 2) (Nat.pow_le_pow_right (by decide) (by decide))
  have beyond : ((inferSchema {} smileScript).texts.all fun s =>
      s.all fun c => Text.codeOf c < 0x10000) = false := by
    decide +kernel
  refine ⟨held, fun same => Bool.false_ne_true (beyond.symm.trans ?_)⟩
  have small := (inferSchema_loads_json {} held "y.json".toList).2.mp same
  exact List.all_eq_true.mpr fun s member => List.all_eq_true.mpr fun c inside =>
    decide_eq_true (small s member c inside)

end Pipeline

end Schemata
