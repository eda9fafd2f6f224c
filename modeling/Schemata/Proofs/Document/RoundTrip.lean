import Schemata.Document.Format
import Schemata.Document.Load
import Schemata.Proofs.Document.Stored
import Schemata.Proofs.Yaml.Document

/-!
Results that are written to a file and loaded from it.
-/

namespace Schemata

theorem documentBy_printed {contents : Text} {document : Value} (printed : Yaml.IsPrinted contents)
    (read : Yaml.read contents = .ok document) (given : document.isGiven = true) :
    documentBy Yaml.read contents = .ok document := by
  have carried : '\r' ∉ contents := fun member => absurd (printed _ member) (by decide)
  rw [documentBy, Text.withLineFeeds_eq_self carried, read]
  exact congrArg Except.ok (if_pos given)

namespace Stored.Result

/-- Every junction table of the result has a name. -/
def IsWhole (result : Result) : Prop :=
  ∀ relationship ∈ result.schema.relationships, relationship.IsWhole

theorem load_of_read {result : Result} {contents : Text} (printed : Yaml.IsPrinted contents)
    (whole : result.IsWhole) (read : Yaml.read contents = .ok result.encode) (path : Text) :
    load path contents = .ok result := by
  have document := documentBy_printed printed read (Value.isGiven_record _ _)
  have decoded := decode_encode whole
  obtain ⟨entries, encoded⟩ : ∃ entries, result.encode = .map entries := ⟨_, rfl⟩
  have tables : (Value.lookup? (.text "tables".toList) entries).isSome = true := by
    obtain rfl := Value.map.inj encoded
    rw [Value.lookup?_record]
    rfl
  rw [encoded] at document decoded
  rw [load, loadBy, document]
  change (if (Value.lookup? (.text "tables".toList) entries).isSome = true then
    (decode (.map entries)).mapError (LoadError.ofSchema path) else throw (.notSchema path)) = _
  rw [if_pos tables, decoded]
  rfl

end Stored.Result

namespace Result

/-- A result that can be stored: its numbers are not too long, and every junction table has a name. -/
structure IsStorable (result : Result) : Prop where
  short : ∀ diagnostic ∈ result.diagnostics, ∀ index ∈ diagnostic.statementIndex,
    index < 10 ^ Text.digitLimit
  named : ∀ relationship ∈ result.relationships, relationship.junctionTable ≠ some []

variable {result : Result}

theorem isWhole_of_named (named : ∀ relationship ∈ result.relationships, relationship.junctionTable ≠ some []) :
    result.stored.IsWhole := by
  intro relationship member
  obtain ⟨relationship, inside, rfl⟩ := List.mem_map.mp member
  have named := named relationship inside
  cases junction : relationship.junctionTable with
  | none =>
      right
      simp [Relationship.stored, junction, Value.ofText?]
  | some name =>
      left
      rw [junction] at named
      simpa [Relationship.stored, junction, Value.ofText?, Value.isGiven] using named

theorem IsStorable.isWhole (storable : result.IsStorable) : result.stored.IsWhole :=
  isWhole_of_named storable.named

theorem textFields_ne_nil (result : Result) : Value.textFields result.stored.fields ≠ [] := by
  simp [Value.textFields, Stored.Result.fields]

theorem encode_eq (result : Result) :
    result.stored.encode = .map ((Value.textFields result.stored.fields).map Value.ofField) :=
  Value.record_eq _

/-- A result that is written as YAML loads as itself. -/
theorem load_yaml (storable : result.IsStorable) (path : Text) :
    Stored.Result.load path (Format.render .yaml result.stored.encode) = .ok result.stored := by
  have document := isDocument storable.short
  have filled := result.textFields_ne_nil
  have read := Yaml.read_render filled document.names document.texts_distinct document.texts_each (by decide)
  have printed := Yaml.isPrinted_render filled document.names document.texts_each
  rw [← encode_eq] at read printed
  exact Stored.Result.load_of_read printed storable.isWhole read path

end Result

end Schemata
