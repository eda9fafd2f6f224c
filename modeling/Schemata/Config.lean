import Schemata.Ddl.Defect
import Schemata.Text.Case
import Schemata.Text.Order

/-!
Options of the inference, with their defaults.
-/

namespace Schemata

/-- How a junction table shows: as one relationship, or as one in each direction. -/
inductive ManyToManyMode
  | single
  | bidirectional
deriving DecidableEq, Repr

namespace ManyToManyMode

def label : ManyToManyMode → Text
  | single => "single".toList
  | bidirectional => "bidirectional".toList

def all : List ManyToManyMode := [single, bidirectional]

def ofLabel? (text : Text) : Option ManyToManyMode :=
  all.find? fun mode => mode.label == text

end ManyToManyMode

/-- A rule from the stem of a column name to a table name: `strip` is taken off the end, and
`append` is put there. -/
structure NameVariant where
  strip : Text := []
  append : Text := []
deriving DecidableEq, Repr

/-- The table name; empty if the stem does not end in `strip` or is nothing more. -/
def NameVariant.apply (variant : NameVariant) (stem : Text) : Text :=
  if variant.strip.isEmpty then stem ++ variant.append
  else if !variant.strip.isSuffixOf stem || stem.length == variant.strip.length then []
  else stem.take (stem.length - variant.strip.length) ++ variant.append

structure Config where
  manyToMany : ManyToManyMode := .single
  conventions : Bool := true
  targetColumn : Text := "id".toList
  nameVariants : List NameVariant := [
    {}, { append := "s".toList }, { append := "es".toList }, { strip := "s".toList },
    { append := "a".toList }, { append := "as".toList }]
  extraNameVariants : List NameVariant := []
  auditColumns : List Text := ["created_at".toList, "updated_at".toList, "deleted_at".toList]
  auditParts : List Text := ["timestamp".toList, "date_".toList]
  maxExtraColumns : Int := 2
deriving DecidableEq, Repr

namespace Config

/-- The names that the variants give to a stem, in their order and each once. -/
def candidatesOf (variants : List NameVariant) (stem : Text) : List Text :=
  variants.foldl
    (fun found variant =>
      let name := variant.apply stem
      if name.isEmpty || found.contains name then found else found ++ [name])
    []

/-- The tables that a column `<stem>_id` may refer to. -/
def candidateTables (config : Config) (stem : Text) : List Text :=
  candidatesOf (config.nameVariants ++ config.extraNameVariants) (Text.lower stem)

/-- Whether a column only keeps track of changes. -/
def isAuditColumn (config : Config) (column : Text) : Bool :=
  let name := Text.lower column
  config.auditColumns.contains name || config.auditParts.any fun part => Text.hasPart part name

end Config

/-- The questions that the inference asks of its options. They may break down. -/
structure Rules where
  candidateTables : Text → Except Ddl.Fault (List Text)
  isAuditColumn : Text → Except Ddl.Fault Bool

def Config.rules (config : Config) : Rules where
  candidateTables stem := return config.candidateTables stem
  isAuditColumn column := return config.isAuditColumn column

end Schemata
