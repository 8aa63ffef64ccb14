import PolySql.Column.Pattern
import PolySql.Dialect.Basic

namespace PolySql.Db2

open Text NativeTypes TypeRule ColumnType TypePattern

def capabilities : Capabilities :=
  { Capabilities.ansi with
    paging := .fetchFirst
    returning := .finalTable
    nullsOrdering := false
    boolean := .numeric
    binary := .blobFunction }

def nativeTypes : NativeTypes :=
  [plain "primary_key"
      "int not null generated by default as identity (start with 1) primary key",
   sized "string" "varchar" 255,
   plain "text" "clob",
   plain "integer" "int",
   plain "bigint" "bigint",
   plain "float" "float",
   plain "decimal" "decimal",
   plain "datetime" "timestamp",
   plain "timestamp" "timestamp",
   plain "time" "time",
   plain "date" "date",
   plain "binary" "blob",
   plain "boolean" "smallint",
   plain "xml" "xml"]

def typeMap : TypeMap :=
  ⟨[exactly "smallint" (.plain .boolean),
    exactly "integer" (.plain .integer),
    exactly "bigint" (.plain .bigInteger),
    exactly "double" (.plain .float),
    exactly "real" (.plain .float),
    exactly "date" (.plain .date),
    exactly "time" (.plain .time),
    exactly "xml" (.plain .xml),
    fitting (opensWith ["timestamp"]) (.withPrecision .dateTime),
    fitting (opensWith ["decimal", "numeric"]) (.withPrecision .decimal),
    fitting (opensWith ["varchar", "char", "graphic", "vargraphic"]) (.withLimit .string),
    fitting (opensWith ["clob", "dbclob"]) (.plain .text),
    fitting (opensWith ["blob"]) (.plain .binary),
    aliasing "int" "integer",
    aliasing "float" "double"]⟩

def classifier : Classifier :=
  Classifier.stateRules ++
    [Classifier.onState "23504" .foreignKeyViolation,
     Classifier.onCode (-911) .lockTimeout,
     Classifier.onCode (-913) .lockTimeout,
     Classifier.onMessage [.exact ["SQLCODE=-803"]] .uniquenessViolation,
     Classifier.onMessage [.exact ["SQLCODE=-407"]] .notNullViolation,
     Classifier.onMessage [.exact ["SQLCODE=-530"]] .foreignKeyViolation,
     Classifier.onMessage [.exact ["SQLCODE=-302"]] .valueTooLong]

def dialect : Dialect where
  name := "db2"
  capabilities := capabilities
  nativeTypes := nativeTypes
  typeMap := typeMap
  classifier := classifier

end PolySql.Db2
