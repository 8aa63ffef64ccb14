import PolySql.Column.Native
import PolySql.Column.Pattern
import PolySql.Column.TypeMap
import PolySql.Failure.Basic

namespace PolySql.SqlServer

open Number NativeTypes TypeRule ColumnType TypePattern

def maxStringLimit : UInt32 := 1073741823

def maxTimePrecision : UInt32 := 7

def unsizedTypes : List String := ["text", "binary", "boolean", "date"]

def nativeTypes : NativeTypes :=
  [plain "primary_key" "bigint NOT NULL IDENTITY(1,1) PRIMARY KEY",
   sized "integer" "int" 4,
   plain "boolean" "bit",
   plain "decimal" "decimal",
   plain "float" "float",
   plain "date" "date",
   plain "time" "time",
   plain "datetime" "datetime2",
   sized "string" "nvarchar" 4000,
   plain "text" "nvarchar(max)",
   plain "binary" "varbinary(max)",
   plain "bigint" "bigint",
   plain "smalldatetime" "smalldatetime",
   plain "datetime_basic" "datetime",
   plain "timestamp" "datetime",
   plain "real" "real",
   plain "money" "money",
   plain "smallmoney" "smallmoney",
   plain "char" "char",
   plain "nchar" "nchar",
   sized "varchar" "varchar" 8000,
   plain "varchar_max" "varchar(max)",
   plain "uuid" "uniqueidentifier",
   plain "binary_basic" "binary",
   sized "varbinary" "varbinary" 8000,
   plain "image" "image",
   plain "ntext" "ntext",
   plain "text_basic" "text"]

def bounded (kind : TypeKind) (limit : UInt32) (sqlType : String) : ColumnType :=
  { ColumnType.plain kind sqlType with limit := some limit }

def exactNumber (sqlType : String) : ColumnType :=
  let t := ColumnType.withPrecision .decimal sqlType
  if t.scale.getD 0 = 0 then { t with kind := .decimalWithoutScale } else t

def typeMap : TypeMap :=
  ⟨[exactly "int" (bounded .integer 4),
    exactly "tinyint" (bounded .integer 1),
    exactly "smallint" (bounded .integer 2),
    exactly "bigint" (bounded .bigInteger 8),
    fitting (opensWith ["decimal"]) exactNumber,
    exactly "money" (.plain .money),
    exactly "smallmoney" (.plain .money),
    exactly "float" (.plain .float),
    exactly "real" (.plain .float),
    exactly "varchar(max)" (.plain .text),
    fitting (TypePattern.sized "varchar") (.withLimit .string),
    fitting (TypePattern.sized "char") (.withLimit .string),
    exactly "nvarchar(max)" (.plain .text),
    exactly "nvarchar(4000)" (bounded .string 4000),
    fitting (TypePattern.sized "nvarchar") (.withLimit .string),
    fitting (TypePattern.sized "nchar") (.withLimit .string),
    exactly "varbinary(max)" (.plain .binary),
    fitting (TypePattern.sized "binary") (.withLimit .binary),
    fitting (TypePattern.sized "varbinary") (.withLimit .binary),
    exactly "bit" (.plain .boolean),
    exactly "uniqueidentifier" (.plain .uuid),
    exactly "xml" (.plain .xml),
    exactly "date" (.plain .date),
    exactly "datetime" (.plain .dateTime),
    exactly "smalldatetime" (.plain .dateTime),
    fitting (TypePattern.sized "time") (.withPrecision .time),
    fitting (TypePattern.sized "datetime2") (.withPrecision .dateTime),
    exactly "text" (.plain .text),
    exactly "ntext" (.plain .text),
    exactly "image" (.plain .binary),
    aliasing "int identity" "int",
    aliasing "bigint identity" "bigint",
    aliasing "integer" "int",
    fitting (opensWith ["numeric"]) exactNumber,
    fitting (opensWith ["number"]) exactNumber,
    aliasing "double" "float",
    aliasing "string" "nvarchar(4000)",
    aliasing "boolean" "bit",
    aliasing "time" "time(7)",
    aliasing "binary" "varbinary(max)",
    aliasing "blob" "varbinary(max)",
    aliasing "datetime2" "datetime2(7)"]⟩

def integerOfBytes : Option UInt32 → String
  | none => "int"
  | some n => if n = 4 then "int" else if n = 2 then "smallint" else if n = 1 then "tinyint" else "bigint"

def fractionalType (typeName : String) (precision : UInt32) : Except Failure String :=
  if precision > maxTimePrecision then
    .error (.invalidArgument
      ("No " ++ typeName ++ " type has precision of " ++ sizeText precision ++
        ". The allowed range of precision is from 0 to " ++ sizeText maxTimePrecision))
  else .ok (typeName ++ "(" ++ sizeText precision ++ ")")

def typeToSql (logical : String) (o : TypeOptions) : Except Failure String :=
  if logical == "string" && o.limit == some maxStringLimit then .ok "nvarchar(max)"
  else if logical == "integer" then .ok (integerOfBytes o.limit)
  else if logical == "uniqueidentifier" then .ok logical
  else if logical == "datetime" || logical == "time" then
    fractionalType (((nativeTypes.get? logical).map (·.name)).getD logical)
      (o.precision.getD maxTimePrecision)
  else .ok (nativeTypes.toSql logical (if logical ∈ unsizedTypes then .none else o))

end PolySql.SqlServer
