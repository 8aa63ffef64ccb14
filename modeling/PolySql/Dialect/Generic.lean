import PolySql.Dialect.Basic

namespace PolySql.Generic

open NativeTypes TypeRule ColumnType

def nativeTypes : NativeTypes :=
  [sized "string" "varchar" 255,
   plain "text" "text",
   plain "integer" "integer",
   plain "bigint" "bigint",
   plain "float" "float",
   plain "decimal" "decimal",
   plain "datetime" "timestamp",
   plain "time" "time",
   plain "date" "date",
   plain "binary" "blob",
   plain "boolean" "boolean"]

def typeMap : TypeMap :=
  ⟨[exactly "integer" (.plain .integer),
    exactly "bigint" (.plain .bigInteger),
    exactly "float" (.plain .float),
    exactly "decimal" (.withPrecision .decimal),
    exactly "varchar" (.withLimit .string),
    exactly "text" (.plain .text),
    exactly "blob" (.plain .binary),
    exactly "boolean" (.plain .boolean),
    exactly "date" (.plain .date),
    exactly "time" (.plain .time),
    exactly "timestamp" (.plain .dateTime),
    aliasing "int" "integer",
    aliasing "numeric" "decimal"]⟩

def dialect : Dialect where
  name := "generic"
  capabilities := .ansi
  nativeTypes := nativeTypes
  typeMap := typeMap
  classifier := Classifier.generic

end PolySql.Generic
