import Schemata.Config
import Schemata.Document.Access

/-!
Options from a document. Keys that are absent keep their defaults, and unknown keys are passed
over.
-/

namespace Schemata

def ManyToManyMode.ofValue (text : Text) : Except AccessError ManyToManyMode :=
  let name := Text.lower text
  match ofLabel? name with
  | some mode => return mode
  | none => throw (.notLabel (.text name) "ManyToManyMode".toList)

def NameVariant.ofValue (value : Value) : Except AccessError NameVariant := do
  let strip ← value.getD "strip".toList (.text [])
  let append ← value.getD "append".toList (.text [])
  return { strip := ← strip.toText, append := ← append.toText }

namespace Config

/-- Reads the value under a key, if the section has the key. -/
def given {α : Type} (part : Value) (key : Text) (read : Value → Except AccessError α)
    (default : α) : Except AccessError α := do
  if ← part.has key then read (← part.item key) else return default

def variants (value : Value) : Except AccessError (List NameVariant) := do
  (← value.elements).mapM NameVariant.ofValue

def loweredTexts (value : Value) : Except AccessError (List Text) := do
  (← value.elements).mapM fun element => return Text.lower (← element.toText)

/-- A section of a document; one that is absent or empty has no keys. -/
def sectionOf (document : Value) (key : Text) : Except AccessError Value := do
  let found ← document.getD key .null
  return if found.isGiven then found else .map []

def ofValue (document : Value) : Except AccessError Config := do
  let defaults : Config := {}
  let manyToMany ← given document "many_to_many_mode".toList
    (fun value => do ManyToManyMode.ofValue (← value.toText)) defaults.manyToMany
  let convention ← sectionOf document "convention".toList
  let conventions ← given convention "enabled".toList (fun value => return value.isGiven)
    defaults.conventions
  let targetColumn ← given convention "target_column".toList
    (fun value => return Text.lower (← value.toText)) defaults.targetColumn
  let nameVariants ← given convention "name_variants".toList variants defaults.nameVariants
  let extraNameVariants ← given convention "extra_name_variants".toList variants
    defaults.extraNameVariants
  let junction ← sectionOf document "junction".toList
  let auditColumns ← given junction "audit_columns".toList loweredTexts defaults.auditColumns
  let auditParts ← given junction "audit_column_substrings".toList loweredTexts defaults.auditParts
  let maxExtraColumns ← given junction "max_extra_columns".toList Value.toInteger
    defaults.maxExtraColumns
  return { manyToMany, conventions, targetColumn, nameVariants, extraNameVariants, auditColumns,
           auditParts, maxExtraColumns }

end Config

end Schemata
