import PolySql.Column.Pattern
import PolySql.Dialect.Basic

namespace PolySql.Sqlite

open Text NativeTypes TypeRule ColumnType TypePattern

def capabilities : Capabilities :=
  { Capabilities.ansi with
    offsetRequiresLimit := true
    lock := .unsupported
    returning := .returning
    boolean := .numeric }

def nativeTypes : NativeTypes :=
  [plain "primary_key" "integer PRIMARY KEY AUTOINCREMENT NOT NULL",
   plain "string" "varchar",
   plain "text" "text",
   plain "integer" "integer",
   plain "bigint" "bigint",
   plain "float" "float",
   plain "decimal" "decimal",
   plain "datetime" "datetime",
   plain "time" "time",
   plain "date" "date",
   plain "binary" "blob",
   plain "boolean" "boolean"]

def typeMap : TypeMap :=
  ⟨[exactly "integer" (.plain .integer),
    exactly "bigint" (.plain .bigInteger),
    exactly "boolean" (.plain .boolean),
    exactly "date" (.plain .date),
    exactly "datetime" (.plain .dateTime),
    exactly "time" (.plain .time),
    exactly "blob" (.plain .binary),
    exactly "text" (.plain .text),
    fitting (opensWith ["decimal", "numeric"]) (.withPrecision .decimal),
    fitting (opensWith ["real", "double", "float"]) (.plain .float),
    fitting (opensWith ["varchar", "character", "char", "nvarchar", "nchar"]) (.withLimit .string),
    fitting (fun key => contains key "int") (.plain .integer),
    aliasing "bool" "boolean",
    aliasing "timestamp" "datetime"]⟩

def classifier : Classifier :=
  [Classifier.onMessage
      [Classifier.inAnyCase "unique constraint failed", Classifier.inAnyCase "is not unique"]
      .uniquenessViolation,
   Classifier.onMessage
      [Classifier.inAnyCase "not null constraint failed", Classifier.inAnyCase "may not be null"]
      .notNullViolation,
   Classifier.onMessage [Classifier.inAnyCase "foreign key constraint failed"] .foreignKeyViolation,
   Classifier.onMessage [Classifier.inAnyCase "database is locked"] .lockTimeout,
   Classifier.onMessage
      [Classifier.inAnyCase "unable to open database",
       Classifier.inAnyCase "database connection closed"]
      .connectionUnavailable]

def dialect : Dialect where
  name := "sqlite"
  capabilities := capabilities
  caseSensitiveCollation := some "COLLATE BINARY"
  nativeTypes := nativeTypes
  typeMap := typeMap
  classifier := classifier

end PolySql.Sqlite
