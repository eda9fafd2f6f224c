import Schemata.Proofs.Pipeline.Storing

/-!
Encoding and decoding against each other. A result is read back as it was, but for junction tables that are
not given, such as an empty name: they are left out and read as none. Such a result is encoded no differently,
so a document that has been decoded and encoded once stays as it is from then on, whatever it held before.
-/

namespace Schemata

namespace Stored

/-- The relationship as it is read back: without a junction table that is not given. -/
def Relationship.settled (relationship : Relationship) : Relationship :=
  { relationship with
    junctionTable := if relationship.junctionTable.isGiven then relationship.junctionTable else .null }

namespace Relationship

variable {relationship : Relationship}

theorem settled_isWhole (relationship : Relationship) : relationship.settled.IsWhole := by
  unfold IsWhole settled
  by_cases given : relationship.junctionTable.isGiven = true
  · exact .inl (by rw [if_pos given, given])
  · exact .inr (if_neg given)

theorem settled_eq_self_iff : relationship.settled = relationship ↔ relationship.IsWhole := by
  constructor
  · intro same
    rw [← same]
    exact relationship.settled_isWhole
  · obtain ⟨source, target, cardinality, junctionTable, origin⟩ := relationship
    rintro (given | none')
    · exact congrArg (Relationship.mk source target cardinality · origin) (if_pos given)
    · obtain rfl : junctionTable = .null := none'
      rfl

/-- A junction table that is not given is not written either. -/
theorem encode_settled (relationship : Relationship) : relationship.settled.encode = relationship.encode := by
  by_cases given : relationship.junctionTable.isGiven = true
  · rw [settled_eq_self_iff.mpr (.inl given)]
  · have left : relationship.settled.junctionTable = .null := if_neg given
    simp only [encode, left, Value.isGiven_null, if_neg given]
    rfl

end Relationship

namespace Result

variable {result : Result}

/-- The result as it is read back. -/
def settled (result : Result) : Result :=
  { result with
    schema := { result.schema with relationships := result.schema.relationships.map Relationship.settled } }

theorem settled_isWhole (result : Result) : result.settled.IsWhole := by
  intro relationship member
  obtain ⟨relationship, _, rfl⟩ := List.mem_map.mp member
  exact relationship.settled_isWhole

theorem settled_eq_self_iff : result.settled = result ↔ result.IsWhole := by
  constructor
  · intro same
    rw [← same]
    exact result.settled_isWhole
  · intro whole
    have each : result.schema.relationships.map Relationship.settled = result.schema.relationships := by
      rw [List.map_congr_left fun relationship member =>
        Relationship.settled_eq_self_iff.mpr (whole relationship member), List.map_id']
    rw [settled, each]

theorem encode_settled (result : Result) : result.settled.encode = result.encode := by
  have each : (result.schema.relationships.map Relationship.settled).map Relationship.encode =
      result.schema.relationships.map Relationship.encode := by
    rw [List.map_map]
    exact List.map_congr_left fun relationship _ => relationship.encode_settled
  simp only [encode, Schema.fields, settled, each]

theorem decode_encode_settled (result : Result) : decode result.encode = .ok result.settled := by
  rw [← encode_settled]
  exact decode_encode result.settled_isWhole

/-- A document that is decoded and encoded again. -/
def rewritten (document : Value) : Except AccessError Value := do
  return (← decode document).encode

theorem rewritten_encode (result : Result) : rewritten result.encode = .ok result.encode := by
  rw [rewritten, decode_encode_settled]
  exact congrArg Except.ok result.encode_settled

end Result

end Stored

open Stored.Result

/-- No junction table of a run is without a name, so its result is read back as it was. -/
theorem Pipeline.inferSchema_isWhole (config : Config) (script : Text) :
    (inferSchema config script).stored.IsWhole :=
  Result.isWhole_of_named (inferSchema_named config script)

/-- A result is read back from its encoding exactly if no junction table of it is anything but given or left
out; every result of a run is. What a document is rewritten as is rewritten as itself. -/
theorem decode_encode_inverse :
    (∀ result : Stored.Result, decode result.encode = .ok result ↔ result.IsWhole) ∧
    (∀ (config : Config) (script : Text),
      decode (inferSchema config script).stored.encode = .ok (inferSchema config script).stored) ∧
    ∀ document normal : Value, rewritten document = .ok normal → rewritten normal = .ok normal := by
  refine ⟨fun result => ?_, fun config script => ?_, fun document normal decoded => ?_⟩
  · rw [decode_encode_settled, Except.ok.injEq, settled_eq_self_iff]
  · exact decode_encode (Pipeline.inferSchema_isWhole config script)
  · obtain ⟨result, _, same⟩ := bind_eq_ok.mp decoded
    obtain rfl : result.encode = normal := Except.ok.inj same
    exact result.rewritten_encode

/-- A document of values that are not given, of values of odd kinds, and of a text in the place of a list. -/
def looseDocument : Value :=
  .record [
    ("junction_tables", .text "ab".toList),
    ("tables", .list [.record [("name", .int 5), ("columns",
      .list [.record [("name", .list []), ("foreign_key", .text [])]])]]),
    ("relationships", .list [.record [
      ("from", .record [("table", .null), ("column", .bool true)]),
      ("to", .record [("table", .text "a".toList), ("column", .map [])]),
      ("type", .text "ONE_TO_ONE".toList), ("junction_table", .int 0)]])]

/-- What that document is rewritten as. -/
def tightDocument : Value :=
  .record [
    ("tables", .list [.record [("name", .int 5), ("columns", .list [.record [
      ("name", .list []), ("type", .text []), ("nullable", .bool true), ("primary_key", .bool false),
      ("foreign_key", .null)]])]]),
    ("relationships", .list [.record [
      ("from", .record [("table", .null), ("column", .bool true)]),
      ("to", .record [("table", .text "a".toList), ("column", .map [])]),
      ("type", .text "ONE_TO_ONE".toList), ("origin", .text "direct".toList)]]),
    ("junction_tables", .list [.text ['a'], .text ['b']]),
    ("diagnostics", .list [])]

theorem decode_encode_inverse_loose :
    rewritten looseDocument = .ok tightDocument ∧ rewritten tightDocument = .ok tightDocument := by
  have tightened : rewritten looseDocument = .ok tightDocument := rfl
  exact ⟨tightened, decode_encode_inverse.2.2 looseDocument tightDocument tightened⟩

end Schemata
