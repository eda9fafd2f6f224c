import Schemata.Document.Load
import Schemata.Proofs.Outcomes

/-!
Which documents give options. A document is refused if a value in it is none of those that an option can have,
but the shapes of the values are relied on: a value of another shape breaks the loading down. Both conditions
are stated here on the document alone, and together they are exactly what loading asks for.
-/

namespace Schemata

/-- The failures over values of a wrong shape. -/
def AccessError.breaks : AccessError → Bool
  | wrongShape _ => true
  | lacks _ _ => true
  | infinite => true
  | _ => false

def LoadError.breaks : LoadError → Bool
  | scalar defect => defect.isOverflow
  | reading concernsValue _ => !concernsValue
  | access cause => cause.breaks
  | _ => false

theorem LoadError.isRefusal_of_breaks {error : LoadError} (broken : error.breaks = true) :
    error.isRefusal = false := by
  cases error
  case scalar defect => exact congrArg not broken
  case reading concernsValue message => simpa [LoadError.breaks, LoadError.isRefusal] using broken
  case access cause => cases cause <;> first | rfl | cases broken
  all_goals cases broken

/-- A reading of a part of a document, settled by the shape of the part and what the part may hold. -/
abbrev AccessSettled {α : Type} (result : Except AccessError α) (shaped allowed : Prop) : Prop :=
  Settled (fun error => AccessError.concernsValue error = true) (fun error => AccessError.breaks error = true)
    result shaped allowed

namespace Value

/-! ### Parts of a value -/

def IsMapping (value : Value) : Prop :=
  ∃ entries, value = .map entries

/-- The value under a key of a mapping. -/
def under? (key : Text) : Value → Option Value
  | .map entries => lookup? (.text key) entries
  | _ => none

/-- A value in which a key can be looked for: a mapping, or a list or text that does not hold the key. -/
def Answers (key : Text) : Value → Prop
  | .map _ => True
  | .list items => ∀ item ∈ items, same (.text key) item = false
  | .text s => Text.hasPart key s = false
  | _ => False

/-- What is under the key, if anything is. -/
def Where (part : Value) (key : Text) (holds : Value → Prop) : Prop :=
  ∀ value, part.under? key = some value → holds value

/-- The part can be asked for the key, and what is under it fits. -/
def Gives (part : Value) (key : Text) (fits : Value → Prop) : Prop :=
  part.Answers key ∧ part.Where key fits

/-- The elements of a list, text or mapping. -/
def members? : Value → Option (List Value)
  | .list items => some items
  | .text s => some (s.map fun c => .text [c])
  | .map entries => some (entries.map (·.1))
  | _ => none

/-- A list, text or mapping whose elements all are as told. -/
def CollectionOf (holds : Value → Prop) (value : Value) : Prop :=
  ∃ items, value.members? = some items ∧ ∀ item ∈ items, holds item

/-- Whatever elements the value has are as told. -/
def EachMember (holds : Value → Prop) (value : Value) : Prop :=
  ∀ items, value.members? = some items → ∀ item ∈ items, holds item

/-- A value that can stand for a text: its integers are not too long to write. -/
def IsWritable (value : Value) : Prop :=
  value.isVast = false

/-- A rule for table names whose texts can be written. -/
def HasWritableParts (variant : Value) : Prop :=
  variant.Where "strip".toList IsWritable ∧ variant.Where "append".toList IsWritable

/-- A number or text, which an integer may come from. -/
def IsCountable : Value → Prop
  | .bool _ | .int _ | .text _ => True
  | .float x => ∀ negative, x ≠ .infinite negative
  | _ => False

/-- A countable value that an integer does come from. -/
def IsCount : Value → Prop
  | .text s => ∃ n, Text.integer s = .ok n
  | .float x => x ≠ .nan
  | _ => True

/-! ### Reading the parts -/

theorem elements_of_members? {value : Value} {items : List Value} (found : value.members? = some items) :
    value.elements = .ok items := by
  cases value
  case list | text | map => exact congrArg Except.ok (Option.some.inj found)
  all_goals exact nomatch found

theorem elements_of_no_members {value : Value} (none : value.members? = none) :
    ∃ message, value.elements = .error (.wrongShape message) := by
  cases value
  case list | text | map => exact nomatch none
  all_goals exact ⟨_, rfl⟩

theorem toText_settled (value : Value) : AccessSettled value.toText True value.IsWritable := by
  unfold toText IsWritable
  split
  · rename_i vast
    exact .refusal rfl (by simp [vast])
  · rename_i written
    exact .ok ⟨⟩ (by simpa using written)

theorem integerOf_settled (s : Text) : AccessSettled (integerOf s) True (IsCount (.text s)) := by
  unfold integerOf
  cases read : Text.integer s with
  | ok n => exact .ok ⟨⟩ ⟨n, read⟩
  | error defect =>
      have unread : ¬ IsCount (.text s) := fun ⟨n, found⟩ => nomatch read.symm.trans found
      cases defect <;> exact .refusal rfl unread

theorem toInteger_settled (value : Value) : AccessSettled value.toInteger value.IsCountable value.IsCount := by
  cases value
  case text s => exact integerOf_settled s
  case bool | int => exact .ok ⟨⟩ ⟨⟩
  case float x =>
    cases x
    case finite => exact .ok nofun nofun
    case infinite => exact .breakdown rfl fun countable => countable _ rfl
    case nan => exact .refusal rfl fun count => count rfl
  all_goals exact .breakdown rfl id

/-- Elements are read one by one. -/
theorem elements_mapM_settled {α : Type} {read : Value → Except AccessError α} {fits permits : Value → Prop}
    (each : ∀ item, AccessSettled (read item) (fits item) (permits item)) (value : Value) :
    AccessSettled (value.elements >>= fun items => items.mapM read) (value.CollectionOf fits)
      (value.EachMember permits) := by
  cases found : value.members? with
  | none =>
      obtain ⟨message, broken⟩ := elements_of_no_members found
      rw [broken]
      exact .breakdown rfl fun ⟨items, members, _⟩ => nomatch found.symm.trans members
  | some items =>
      rw [elements_of_members? found]
      refine (Settled.mapM each).congr ?_ ?_
      · simp [CollectionOf, found]
      · simp [EachMember, found]

theorem where_of_none {part : Value} {key : Text} {holds : Value → Prop} (missing : part.under? key = none) :
    part.Where key holds := fun _ found => absurd (missing.symm.trans found) (Option.some_ne_none _).symm

/-- A value under a key is read if the part has the key. -/
theorem given_settled {α : Type} {read : Value → Except AccessError α} {fits permits : Value → Prop}
    (each : ∀ value, AccessSettled (read value) (fits value) (permits value)) (part : Value) (key : Text)
    (default : α) :
    AccessSettled (Config.given part key read default) (part.Gives key fits) (part.Where key permits) := by
  unfold Config.given Gives
  cases part
  case map entries =>
    cases found : lookup? (.text key) entries with
    | none =>
        simp only [has, found, pure_bind, Option.isSome_none, Bool.false_eq_true, if_false]
        exact .ok ⟨⟨⟩, where_of_none found⟩ (where_of_none found)
    | some value =>
        simp only [has, item, found, pure_bind, Option.isSome_some, if_true]
        refine (each value).congr ?_ ?_ <;> simp [Where, under?, found, Answers]
  case list items =>
    simp only [has, item, pure_bind]
    split
    · rename_i held
      refine .breakdown rfl fun shape => ?_
      obtain ⟨item, member, equal⟩ := List.any_eq_true.mp held
      exact Bool.false_ne_true ((shape.1 item member).symm.trans equal)
    · rename_i free
      exact .ok ⟨by simpa [Answers] using free, where_of_none rfl⟩ (where_of_none rfl)
  case text s =>
    simp only [has, item, pure_bind]
    split
    · rename_i held
      exact .breakdown rfl fun shape => Bool.false_ne_true (shape.1.symm.trans held)
    · rename_i free
      exact .ok ⟨by simpa [Answers] using free, where_of_none rfl⟩ (where_of_none rfl)
  all_goals exact .breakdown rfl fun shape => shape.1

/-- The section under a key; one without entries if nothing is given there. -/
def sectionUnder (document : Value) (key : Text) : Value :=
  ((document.under? key).filter isGiven).getD (.map [])

theorem sectionOf_map (entries : List (Value × Value)) (key : Text) :
    Config.sectionOf (.map entries) key = .ok (sectionUnder (.map entries) key) := by
  unfold Config.sectionOf sectionUnder
  change Except.ok _ = Except.ok _
  simp only [under?]
  cases lookup? (.text key) entries with
  | none => rfl
  | some value => cases given : value.isGiven <;> simp [Option.filter, given]

/-- A value that spells the label of a mode. -/
def IsMode (value : Value) : Prop :=
  ∃ mode, ManyToManyMode.ofLabel? (Text.lower value.plainText) = some mode

theorem mode_settled (value : Value) :
    AccessSettled (value.toText >>= ManyToManyMode.ofValue) True (value.IsWritable ∧ value.IsMode) := by
  have named (text : Text) (written : value.toText = .ok text) :
      AccessSettled (ManyToManyMode.ofValue text) True value.IsMode := by
    have plain : text = value.plainText := by
      unfold toText at written
      split at written
      · cases written
      · exact (Except.ok.inj written).symm
    subst plain
    unfold ManyToManyMode.ofValue IsMode
    cases found : ManyToManyMode.ofLabel? (Text.lower value.plainText) with
    | none =>
        simp only [found]
        exact .refusal rfl nofun
    | some mode =>
        simp only [found]
        exact .ok ⟨⟩ ⟨mode, rfl⟩
  exact (value.toText_settled.bind named).congr (by simp) (by simp)

theorem lowered_settled (value : Value) :
    AccessSettled (return Text.lower (← value.toText)) True value.IsWritable :=
  (value.toText_settled.bind fun _ _ => .done _).congr (by simp) (by simp)

theorem loweredTexts_settled (value : Value) :
    AccessSettled (Config.loweredTexts value) (value.CollectionOf fun _ => True) (value.EachMember IsWritable) :=
  elements_mapM_settled lowered_settled value

theorem getD_map (entries : List (Value × Value)) (key : Text) (default : Value) :
    getD (.map entries) key default = .ok (((map entries).under? key).getD default) := rfl

theorem isWritable_getD_iff (part : Value) (key : Text) :
    ((part.under? key).getD (.text [])).IsWritable ↔ part.Where key IsWritable := by
  unfold Where
  cases part.under? key with
  | none => exact iff_of_true rfl nofun
  | some value => simp

theorem variant_settled (value : Value) :
    AccessSettled (NameVariant.ofValue value) value.IsMapping value.HasWritableParts := by
  cases value
  case map entries =>
    unfold NameVariant.ofValue
    simp only [getD_map]
    refine ((toText_settled _).bind fun _ _ => (toText_settled _).bind fun _ _ => .done _).congr ?_ ?_
    · simp [IsMapping]
    · simp [isWritable_getD_iff, HasWritableParts]
  all_goals exact .breakdown rfl nofun

theorem variants_settled (value : Value) :
    AccessSettled (Config.variants value) (value.CollectionOf IsMapping) (value.EachMember HasWritableParts) :=
  elements_mapM_settled variant_settled value

end Value

/-- What a failing reader has to do with the outcome is said by its error alone. -/
theorem LoadError.settled_ofRead {α : Type} (malformed : LoadError) (refused : malformed.isRefusal = true)
    (cause : Yaml.ReadError) :
    Settled (fun error => LoadError.isRefusal error = true) (fun error => LoadError.breaks error = true)
      (.error (ofRead malformed cause) : Except LoadError α) (cause.isRefusal = true) (cause.isRefusal = false) := by
  cases kind : cause.isRefusal with
  | true => exact .refusal ((isRefusal_ofRead refused cause).trans kind) nofun
  | false =>
      refine .breakdown ?_ nofun
      cases cause with
      | malformed => cases kind
      | scalar defect => simpa [Yaml.ReadError.isRefusal, ofRead, LoadError.breaks] using kind
      | other concernsValue message => simpa [Yaml.ReadError.isRefusal, ofRead, LoadError.breaks] using kind

namespace Config

open Value

/-! ### The options -/

/-- The shapes that loading relies on, option by option. -/
structure IsShaped (document : Value) : Prop where
  conventions : (document.sectionUnder "convention".toList).Gives "enabled".toList fun _ => True
  targetColumn : (document.sectionUnder "convention".toList).Gives "target_column".toList fun _ => True
  nameVariants : (document.sectionUnder "convention".toList).Gives "name_variants".toList
    (CollectionOf IsMapping)
  extraNameVariants : (document.sectionUnder "convention".toList).Gives "extra_name_variants".toList
    (CollectionOf IsMapping)
  auditColumns : (document.sectionUnder "junction".toList).Gives "audit_columns".toList
    (CollectionOf fun _ => True)
  auditParts : (document.sectionUnder "junction".toList).Gives "audit_column_substrings".toList
    (CollectionOf fun _ => True)
  maxExtraColumns : (document.sectionUnder "junction".toList).Gives "max_extra_columns".toList IsCountable

/-- What loading checks, option by option. -/
structure IsAllowed (document : Value) : Prop where
  manyToMany : document.Where "many_to_many_mode".toList fun value => value.IsWritable ∧ value.IsMode
  targetColumn : (document.sectionUnder "convention".toList).Where "target_column".toList IsWritable
  nameVariants : (document.sectionUnder "convention".toList).Where "name_variants".toList
    (EachMember HasWritableParts)
  extraNameVariants : (document.sectionUnder "convention".toList).Where "extra_name_variants".toList
    (EachMember HasWritableParts)
  auditColumns : (document.sectionUnder "junction".toList).Where "audit_columns".toList
    (EachMember IsWritable)
  auditParts : (document.sectionUnder "junction".toList).Where "audit_column_substrings".toList
    (EachMember IsWritable)
  maxExtraColumns : (document.sectionUnder "junction".toList).Where "max_extra_columns".toList IsCount

theorem ofValue_settled (entries : List (Value × Value)) :
    AccessSettled (Config.ofValue (.map entries)) (IsShaped (.map entries)) (IsAllowed (.map entries)) := by
  unfold ofValue
  simp only [sectionOf_map]
  refine ((given_settled mode_settled _ _ _).bind fun _ _ =>
    (given_settled (fun _ => .done _) _ _ _).bind fun _ _ =>
    (given_settled lowered_settled _ _ _).bind fun _ _ =>
    (given_settled variants_settled _ _ _).bind fun _ _ =>
    (given_settled variants_settled _ _ _).bind fun _ _ =>
    (given_settled loweredTexts_settled _ _ _).bind fun _ _ =>
    (given_settled loweredTexts_settled _ _ _).bind fun _ _ =>
    (given_settled toInteger_settled _ _ _).bind fun _ _ =>
    .done _).congr ?_ ?_
  · constructor
    · rintro ⟨_, enabled, target, variants, extra, columns, parts, count, _⟩
      exact ⟨enabled, target, variants, extra, columns, parts, count⟩
    · rintro ⟨enabled, target, variants, extra, columns, parts, count⟩
      exact ⟨⟨⟨⟩, fun _ _ => ⟨⟩⟩, enabled, target, variants, extra, columns, parts, count, ⟨⟩⟩
  · constructor
    · rintro ⟨mode, _, target, variants, extra, columns, parts, count, _⟩
      exact ⟨mode, target, variants, extra, columns, parts, count⟩
    · rintro ⟨mode, target, variants, extra, columns, parts, count⟩
      exact ⟨mode, fun _ _ => ⟨⟩, target, variants, extra, columns, parts, count, ⟨⟩⟩

/-! ### The file -/

section

variable (reader : DocumentReader) (path contents : Text)

/-- The reader does not break down, and a mapping that it reads has the right shapes. -/
structure IsShapedFile : Prop where
  reading : ∀ cause, documentBy reader contents = .error cause → cause.isRefusal = true
  options : ∀ entries, documentBy reader contents = .ok (.map entries) → IsShaped (.map entries)

/-- The reader refuses nothing, and what it reads is a mapping of allowed values. -/
structure IsAllowedFile : Prop where
  reading : ∀ cause, documentBy reader contents = .error cause → cause.isRefusal = false
  options : ∀ document, documentBy reader contents = .ok document → document.IsMapping ∧ IsAllowed document

theorem loadBy_settled :
    Settled (fun error => LoadError.isRefusal error = true) (fun error => LoadError.breaks error = true)
      (Config.loadBy reader path contents) (IsShapedFile reader contents) (IsAllowedFile reader contents) := by
  unfold Config.loadBy
  cases found : documentBy reader contents with
  | error cause =>
      have shape : cause.isRefusal = true ↔ IsShapedFile reader contents := by
        refine ⟨fun refused => ⟨fun _ failed => ?_, fun _ same => ?_⟩, fun file => file.reading _ found⟩
        · cases found.symm.trans failed
          exact refused
        · cases found.symm.trans same
      have allowance : cause.isRefusal = false ↔ IsAllowedFile reader contents := by
        refine ⟨fun broken => ⟨fun _ failed => ?_, fun _ same => ?_⟩, fun file => file.reading _ found⟩
        · cases found.symm.trans failed
          exact broken
        · cases found.symm.trans same
      exact (LoadError.settled_ofRead (.malformedOptions path) rfl cause).congr shape allowance
  | ok document =>
      cases document
      case map entries =>
        have shape : IsShaped (.map entries) ↔ IsShapedFile reader contents := by
          refine ⟨fun shaped => ⟨fun _ failed => ?_, fun _ same => ?_⟩, fun file => file.options _ found⟩
          · cases found.symm.trans failed
          · cases found.symm.trans same
            exact shaped
        have allowance : IsAllowed (.map entries) ↔ IsAllowedFile reader contents := by
          refine ⟨fun allowed => ⟨fun _ failed => ?_, fun _ same => ?_⟩, fun file => (file.options _ found).2⟩
          · cases found.symm.trans failed
          · cases found.symm.trans same
            exact ⟨⟨entries, rfl⟩, allowed⟩
        exact (ofValue_settled entries).mapError.congr shape allowance
      all_goals
        refine .refusal rfl fun allowed => ?_
        obtain ⟨⟨_, same⟩, _⟩ := allowed.options _ found
        cases same

theorem loadBy_of_failed {cause : Yaml.ReadError} (failed : reader (Text.withLineFeeds contents) = .error cause) :
    Config.loadBy reader path contents = .error (.ofRead (.malformedOptions path) cause) := by
  rw [Config.loadBy, documentBy, failed]
  rfl

/-- Whatever reads the file, loading gives options exactly if the file has the shapes that are relied on and only
allowed values in them. In those shapes every failure is a refusal, and without them a file of allowed values breaks
the loading down. Loading itself never misses a key, and an error of the reader comes through. -/
theorem load_outcomes :
    ((∃ config, Config.loadBy reader path contents = .ok config) ↔
      IsShapedFile reader contents ∧ IsAllowedFile reader contents) ∧
    (IsShapedFile reader contents →
      ∀ error, Config.loadBy reader path contents = .error error → error.isRefusal = true) ∧
    (IsAllowedFile reader contents → ¬ IsShapedFile reader contents →
      ∃ error, Config.loadBy reader path contents = .error error ∧ error.isRefusal = false) ∧
    (∀ key, Config.loadBy reader path contents ≠ .error (.access (.missingKey key))) ∧
    ∀ cause, reader (Text.withLineFeeds contents) = .error cause →
      Config.loadBy reader path contents = .error (.ofRead (.malformedOptions path) cause) := by
  have settled := loadBy_settled reader path contents
  refine ⟨settled.ok_iff, settled.refuses_of_shaped, fun allowed unfit => ?_, fun key failed => ?_, fun _ failed => ?_⟩
  · obtain ⟨error, failed, broken⟩ := settled.breaks_of_not_shaped allowed unfit
    exact ⟨error, failed, LoadError.isRefusal_of_breaks broken⟩
  · rcases settled.failed _ failed with ⟨refused, _⟩ | ⟨broken, _⟩
    · cases refused
    · cases broken
  · exact loadBy_of_failed reader path contents failed

end

theorem documentBy_number {contents key : Text} {n : Int}
    (reads : (match documentBy Yaml.read contents with
      | .ok (.map [(.text name, .int m)]) => name == key && m == n
      | _ => false) = true) : documentBy Yaml.read contents = .ok (.map [(.text key, .int n)]) := by
  split at reads
  · rename_i found
    simp only [Bool.and_eq_true, beq_iff_eq] at reads
    rw [found, reads.1, reads.2]
  · cases reads

/-- A number in the place of a section breaks the loading down; in the place of a mode it is refused. -/
theorem load_outcomes_number :
    let asSection := "convention: 5\n".toList
    let asMode := "many_to_many_mode: 5\n".toList
    (IsAllowedFile Yaml.read asSection ∧ ¬ IsShapedFile Yaml.read asSection ∧
      ∃ error, Config.load "c.yaml".toList asSection = .error error ∧ error.isRefusal = false) ∧
    IsShapedFile Yaml.read asMode ∧ ¬ IsAllowedFile Yaml.read asMode ∧
      ∀ error, Config.load "c.yaml".toList asMode = .error error → error.isRefusal = true := by
  intro asSection asMode
  constructor
  · have found : documentBy Yaml.read asSection = .ok (.map [(.text "convention".toList, .int 5)]) :=
      documentBy_number (by decide +kernel)
    have convention : sectionUnder (.map [(.text "convention".toList, .int 5)]) "convention".toList = .int 5 := rfl
    have junction : sectionUnder (.map [(.text "convention".toList, .int 5)]) "junction".toList = .map [] := rfl
    have allowed : IsAllowedFile Yaml.read asSection := by
      refine ⟨fun _ failed => (nomatch found.symm.trans failed), fun document read => ?_⟩
      cases found.symm.trans read
      refine ⟨⟨_, rfl⟩, ?_⟩
      constructor
      case manyToMany => exact nofun
      all_goals
        first | rw [convention] | rw [junction]
        exact nofun
    have unfit : ¬ IsShapedFile Yaml.read asSection := by
      intro shaped
      have asked := (shaped.options _ found).conventions.1
      rw [convention] at asked
      exact asked
    exact ⟨allowed, unfit, (load_outcomes _ _ _).2.2.1 allowed unfit⟩
  · have found : documentBy Yaml.read asMode = .ok (.map [(.text "many_to_many_mode".toList, .int 5)]) :=
      documentBy_number (by decide +kernel)
    have shaped : IsShapedFile Yaml.read asMode := by
      refine ⟨fun _ failed => (nomatch found.symm.trans failed), fun document read => ?_⟩
      cases found.symm.trans read
      constructor <;> exact ⟨⟨⟩, nofun⟩
    have wrong : ¬ IsAllowedFile Yaml.read asMode := by
      intro allowed
      obtain ⟨_, mode, named⟩ := (allowed.options _ found).2.manyToMany (.int 5) rfl
      revert named
      cases mode <;> decide
    exact ⟨shaped, wrong, (load_outcomes _ _ _).2.1 shaped⟩

end Config

end Schemata
