import Schemata.Document.Load
import Schemata.Proofs.Outcomes

/-!
Files that hold no schema. Whatever values such a file holds, at whatever depth, loading refuses it. Each decoder
takes a value by its key before it asks for anything that only mappings have, so a value of another kind is
refused there. Only where the reader itself breaks down its error comes through as it is.
-/

namespace Schemata

/-- The value was asked for an operation that only mappings have. -/
def AccessError.IsLack (error : AccessError) : Prop :=
  ∃ kind operation, error = .lacks kind operation

theorem LoadError.isRefusal_ofSchema (path : Text) {cause : AccessError} (fits : ¬ cause.IsLack) :
    (ofSchema path cause).isRefusal = true := by
  cases cause
  case lacks kind operation => exact absurd ⟨kind, operation, rfl⟩ fits
  all_goals rfl

/-- The result never is that a value lacks an operation. -/
abbrev NeverLacks {α : Type} (result : Except AccessError α) : Prop :=
  FailsWith (fun error => ¬ error.IsLack) result

namespace Value

theorem item_neverLacks (value : Value) (key : Text) : NeverLacks (value.item key) := by
  rintro error failed ⟨kind, operation, rfl⟩
  unfold item at failed
  split at failed
  · split at failed <;> cases failed
  all_goals cases failed

/-- Only mappings have items under keys. -/
theorem eq_map_of_item {value found : Value} {key : Text} (taken : value.item key = .ok found) :
    ∃ entries, value = .map entries := by
  cases value
  case map entries => exact ⟨entries, rfl⟩
  all_goals cases taken

theorem getD_neverLacks (entries : List (Value × Value)) (key : Text) (default : Value) :
    NeverLacks ((Value.map entries).getD key default) :=
  .of_eq_ok rfl

theorem elements_neverLacks (value : Value) : NeverLacks value.elements := by
  rintro error failed ⟨kind, operation, rfl⟩
  cases value <;> cases failed

end Value

namespace Stored

open Value

theorem Reference.decode_neverLacks (value : Value) : NeverLacks (Reference.decode value) :=
  (value.item_neverLacks _).bind fun _ _ => (value.item_neverLacks _).bind fun _ _ => .of_eq_ok rfl

theorem Column.decode_neverLacks (value : Value) : NeverLacks (Column.decode value) := by
  refine (value.item_neverLacks _).bind fun name taken => ?_
  obtain ⟨entries, rfl⟩ := eq_map_of_item taken
  refine (getD_neverLacks _ _ _).bind fun _ _ => (getD_neverLacks _ _ _).bind fun _ _ =>
    (getD_neverLacks _ _ _).bind fun _ _ => (getD_neverLacks _ _ _).bind fun reference _ => ?_
  split
  · rw [map_eq_pure_bind, bind_assoc]
    exact (Reference.decode_neverLacks reference).bind fun _ _ => .of_eq_ok rfl
  · exact .of_eq_ok rfl

theorem Table.decode_neverLacks (value : Value) : NeverLacks (Table.decode value) := by
  refine (value.item_neverLacks _).bind fun name taken => ?_
  obtain ⟨entries, rfl⟩ := eq_map_of_item taken
  exact (getD_neverLacks _ _ _).bind fun _ _ => (elements_neverLacks _).bind fun _ _ =>
    (FailsWith.mapM Column.decode_neverLacks).bind fun _ _ => .of_eq_ok rfl

theorem Relationship.decodeCardinality_neverLacks (value : Value) :
    NeverLacks (Relationship.decodeCardinality value) := by
  rintro error failed ⟨kind, operation, rfl⟩
  unfold decodeCardinality at failed
  split at failed
  · split at failed <;> cases failed
  · cases failed

theorem Relationship.decode_neverLacks (value : Value) : NeverLacks (Relationship.decode value) := by
  refine (value.item_neverLacks _).bind fun source taken => ?_
  obtain ⟨entries, rfl⟩ := eq_map_of_item taken
  exact (Reference.decode_neverLacks _).bind fun _ _ => (item_neverLacks _ _).bind fun _ _ =>
    (Reference.decode_neverLacks _).bind fun _ _ => (item_neverLacks _ _).bind fun _ _ =>
    (decodeCardinality_neverLacks _).bind fun _ _ => (getD_neverLacks _ _ _).bind fun _ _ =>
    (getD_neverLacks _ _ _).bind fun _ _ => .of_eq_ok rfl

theorem Diagnostic.decodeSeverity_neverLacks (value : Value) :
    NeverLacks (Diagnostic.decodeSeverity value) := by
  rintro error failed ⟨kind, operation, rfl⟩
  unfold decodeSeverity at failed
  split at failed
  · split at failed <;> cases failed
  · cases failed

theorem Diagnostic.decode_neverLacks (value : Value) : NeverLacks (Diagnostic.decode value) := by
  refine (value.item_neverLacks _).bind fun message taken => ?_
  obtain ⟨entries, rfl⟩ := eq_map_of_item taken
  exact (getD_neverLacks _ _ _).bind fun _ _ => (getD_neverLacks _ _ _).bind fun _ _ =>
    (decodeSeverity_neverLacks _).bind fun _ _ => (getD_neverLacks _ _ _).bind fun _ _ => .of_eq_ok rfl

theorem Schema.decode_neverLacks (entries : List (Value × Value)) : NeverLacks (Schema.decode (.map entries)) :=
  (getD_neverLacks _ _ _).bind fun _ _ => (elements_neverLacks _).bind fun _ _ =>
    (FailsWith.mapM Table.decode_neverLacks).bind fun _ _ => (getD_neverLacks _ _ _).bind fun _ _ =>
    (elements_neverLacks _).bind fun _ _ =>
    (FailsWith.mapM Relationship.decode_neverLacks).bind fun _ _ => .of_eq_ok rfl

theorem Result.decode_neverLacks (entries : List (Value × Value)) : NeverLacks (Result.decode (.map entries)) :=
  (Schema.decode_neverLacks entries).bind fun _ _ => (getD_neverLacks _ _ _).bind fun _ _ =>
    (elements_neverLacks _).bind fun _ _ =>
    (FailsWith.mapM Diagnostic.decode_neverLacks).bind fun _ _ => (getD_neverLacks _ _ _).bind fun _ _ =>
    (elements_neverLacks _).bind fun _ _ => .of_eq_ok rfl

variable {reader : DocumentReader} {path contents : Text}

theorem Result.loadBy_refuses {document : Value} (found : reader (Text.withLineFeeds contents) = .ok document) :
    FailsWith (fun error => error.isRefusal = true) (Result.loadBy reader path contents) := by
  unfold Result.loadBy documentBy
  rw [found]
  refine FailsWith.bind (.of_eq_ok rfl) fun given _ => ?_
  split
  · split
    · exact .mapError fun _ failed =>
        LoadError.isRefusal_ofSchema path (Result.decode_neverLacks _ _ failed)
    · exact fun _ failed => Except.error.inj failed ▸ rfl
  · exact fun _ failed => Except.error.inj failed ▸ rfl

theorem Result.loadBy_of_failed {cause : Yaml.ReadError}
    (failed : reader (Text.withLineFeeds contents) = .error cause) :
    Result.loadBy reader path contents = .error (.ofRead (.malformedFile path) cause) := by
  rw [Result.loadBy, documentBy, failed]
  rfl

theorem Result.map_of_loadBy {result : Result} (loaded : Result.loadBy reader path contents = .ok result) :
    ∃ entries, reader (Text.withLineFeeds contents) = .ok (.map entries) ∧
      (lookup? (.text "tables".toList) entries).isSome = true := by
  cases found : reader (Text.withLineFeeds contents) with
  | error cause => cases (loadBy_of_failed found).symm.trans loaded
  | ok document =>
      obtain ⟨given, read, made⟩ := bind_eq_ok.mp loaded
      obtain rfl : (if document.isGiven then document else .map []) = given := by
        rw [documentBy, found] at read
        exact Except.ok.inj read
      by_cases present : document.isGiven = true
      · rw [if_pos present] at made
        cases document
        case map entries =>
          dsimp only at made
          split at made
          · exact ⟨entries, rfl, ‹_›⟩
          · cases made
        all_goals cases made
      · rw [if_neg present] at made
        cases made

/-- Whatever reads the file, it gives a schema only if it holds a mapping with tables. Loading refuses every other
file, but for those at which the reader itself breaks down, and its error comes through. -/
theorem Result.load_breaks_iff (reader : DocumentReader) (path contents : Text) :
    (∀ result, Result.loadBy reader path contents = .ok result →
      ∃ entries, reader (Text.withLineFeeds contents) = .ok (.map entries) ∧
        (lookup? (.text "tables".toList) entries).isSome = true) ∧
    ∀ error, Result.loadBy reader path contents = .error error ∧ error.isRefusal = false ↔
      ∃ cause, reader (Text.withLineFeeds contents) = .error cause ∧
        cause.isRefusal = false ∧ error = .ofRead (.malformedFile path) cause := by
  refine ⟨fun _ => map_of_loadBy, fun error => ⟨?_, ?_⟩⟩
  · rintro ⟨failed, breaks⟩
    cases found : reader (Text.withLineFeeds contents) with
    | ok document => exact nomatch (loadBy_refuses found error failed).symm.trans breaks
    | error cause =>
        obtain rfl := Except.error.inj ((loadBy_of_failed found).symm.trans failed)
        exact ⟨cause, rfl, (LoadError.isRefusal_ofRead rfl cause).symm.trans breaks, rfl⟩
  · rintro ⟨cause, found, breaks, rfl⟩
    exact ⟨loadBy_of_failed found, (LoadError.isRefusal_ofRead rfl cause).trans breaks⟩

/-- A number to the base sixty with more places than a float can hold. -/
def vastSexagesimal : Text :=
  '1' :: (List.replicate 180 ":0".toList).flatten ++ ['.']

theorem Result.load_breaks_iff_vastSexagesimal :
    (∃ entries, Yaml.read (Text.withLineFeeds "tables: []\n".toList) = .ok (.map entries) ∧
      (lookup? (.text "tables".toList) entries).isSome = true) ∧
    Result.load "s.yaml".toList vastSexagesimal = .error (.scalar .beyondFloats) := by
  constructor
  · have loads : (Result.load "s.yaml".toList "tables: []\n".toList).isOk = true := by decide +kernel
    cases loaded : Result.load "s.yaml".toList "tables: []\n".toList with
    | error cause =>
        rw [loaded] at loads
        cases loads
    | ok result => exact (load_breaks_iff _ _ _).1 result loaded
  · have found : Yaml.read (Text.withLineFeeds vastSexagesimal) = .error (.scalar .beyondFloats) := by
      have read : (match Yaml.read (Text.withLineFeeds vastSexagesimal) with
          | .error cause => cause == .scalar .beyondFloats
          | .ok _ => false) = true := by decide +kernel
      split at read
      · rename_i cause found
        rw [found, beq_iff_eq.mp read]
      · cases read
    exact (((load_breaks_iff _ _ _).2 _).mpr ⟨.scalar .beyondFloats, found, rfl, rfl⟩).1

end Stored

end Schemata
