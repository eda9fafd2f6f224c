import Schemata.Ddl.ColumnDefinition

/-!
Which declared types may refer to one another: those of one family, and those that are the same
but for parameters, blanks at the ends and case.
-/

namespace Schemata

inductive TypeFamily
  | integer
  | string
  | decimal
  | datetime
  | uuid
deriving DecidableEq, Repr

namespace TypeFamily

def label : TypeFamily → Text
  | integer => "integer".toList
  | string => "string".toList
  | decimal => "decimal".toList
  | datetime => "datetime".toList
  | uuid => "uuid".toList

def members : TypeFamily → List Text
  | integer =>
      ["int".toList, "integer".toList, "bigint".toList, "smallint".toList, "serial".toList,
       "bigserial".toList, "tinyint".toList, "mediumint".toList]
  | string =>
      ["varchar".toList, "char".toList, "text".toList, "string".toList, "nvarchar".toList,
       "nchar".toList]
  | decimal =>
      ["decimal".toList, "numeric".toList, "float".toList, "double".toList, "real".toList,
       "money".toList]
  | datetime => ["date".toList, "datetime".toList, "timestamp".toList, "time".toList]
  | uuid => ["uuid".toList, "uniqueidentifier".toList]

def all : List TypeFamily := [integer, string, decimal, datetime, uuid]

end TypeFamily

/-- A type without its parameter lists, trimmed and in lower case. -/
def normalizeType (dataType : Text) : Text :=
  Text.lower (Text.trim (Ddl.parenthesized.replaced [] dataType))

def typeFamily? (dataType : Text) : Option TypeFamily :=
  TypeFamily.all.find? fun family => family.members.contains (normalizeType dataType)

def areTypesCompatible (one other : Text) : Bool :=
  let first := normalizeType one
  let second := normalizeType other
  first == second || ((typeFamily? first).isSome && typeFamily? first == typeFamily? second)

end Schemata
