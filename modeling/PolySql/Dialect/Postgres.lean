import PolySql.Column.Pattern
import PolySql.Dialect.Basic

namespace PolySql.Postgres

open Text Number NativeTypes TypeRule ColumnType TypePattern

def capabilities : Capabilities :=
  { Capabilities.ansi with returning := .returning, binary := .escapedBytea }

def nativeTypes : NativeTypes :=
  [plain "primary_key" "bigserial primary key",
   plain "string" "character varying",
   plain "text" "text",
   plain "integer" "integer",
   plain "bigint" "bigint",
   plain "float" "float",
   plain "decimal" "decimal",
   plain "datetime" "timestamp",
   plain "time" "time",
   plain "date" "date",
   plain "binary" "bytea",
   plain "boolean" "boolean",
   plain "uuid" "uuid",
   plain "json" "json",
   plain "jsonb" "jsonb",
   plain "xml" "xml"]

def bytes (kind : TypeKind) (n : UInt32) (sqlType : String) : ColumnType :=
  { ColumnType.plain kind sqlType with limit := some n }

def isWholeNumeric (key : String) : Bool :=
  match (dropPrefix? "numeric(".toList key.toList).bind afterDigits? with
  | some (',' :: r) => trimStart r == "0)".toList
  | _ => false

def typeMap : TypeMap :=
  ⟨[exactly "smallint" (bytes .integer 2),
    exactly "integer" (bytes .integer 4),
    exactly "bigint" (bytes .bigInteger 8),
    exactly "real" (.plain .float),
    exactly "double precision" (.plain .float),
    exactly "text" (.plain .text),
    exactly "bytea" (.plain .binary),
    exactly "boolean" (.plain .boolean),
    exactly "date" (.plain .date),
    exactly "uuid" (.plain .uuid),
    exactly "json" (.plain .json),
    exactly "jsonb" (.plain .json),
    exactly "xml" (.plain .xml),
    exactly "money" (.plain .money),
    fitting isWholeNumeric (.withPrecision .decimalWithoutScale),
    fitting (opensWith ["numeric"]) (.withPrecision .decimal),
    fitting (opensWith ["character varying", "varchar"]) (.withLimit .string),
    fitting (opensWithWord ["character", "char", "bpchar"]) (.withLimit .string),
    fitting (opensWith ["timestamp"]) (.withPrecision .dateTime),
    fitting (opensWith ["time"]) (.withPrecision .time),
    aliasing "int2" "smallint",
    aliasing "int4" "integer",
    aliasing "int" "integer",
    aliasing "int8" "bigint",
    aliasing "float4" "real",
    aliasing "float8" "double precision",
    aliasing "bool" "boolean",
    aliasing "decimal" "numeric"]⟩

def integerOfBytes : Option UInt32 → String
  | none => "integer"
  | some n => if n = 1 ∨ n = 2 then "smallint" else if n = 3 ∨ n = 4 then "integer" else "bigint"

def typeToSql (logical : String) (o : TypeOptions) : Except Failure String :=
  .ok (if logical == "integer" then integerOfBytes o.limit else nativeTypes.toSql logical o)

def classifier : Classifier :=
  Classifier.stateRules ++
    [Classifier.onState "55P03" .lockTimeout,
     Classifier.onMessage [Classifier.inAnyCase "lock timeout"] .lockTimeout]

def dropOptional (c : Char) : List Char → List Char
  | [] => []
  | x :: r => if x = c then r else x :: r

def dropOptionalEnd (c : Char) (t : List Char) : List Char :=
  (dropOptional c t.reverse).reverse

def isCastChar (c : Char) : Bool :=
  isWordChar c || isBlank c || c == '"' || c == '[' || c == ']'

def cutLastCast? (t : List Char) : Option (List Char × List Char) :=
  match t with
  | [] => none
  | c :: r =>
    match cutLastCast? r with
    | some (text, name) => some (c :: text, name)
    | none => (dropPrefix? "'::".toList (c :: r)).map fun name => ([], name)

def quotedCast? (t : List Char) : Option (List Char) := do
  let body ← dropPrefix? ['\''] (dropOptional '(' t)
  let (text, name) ← cutLastCast? body
  let word := dropOptionalEnd ')' name
  if word != [] && word.all isCastChar then some text else none

def isNumericCast (t : List Char) : Bool :=
  t == [] || ["bigint", "integer", "numeric", "smallint"].any fun n => t == "::".toList ++ n.toList

def takeNumber? (t : List Char) : Option (List Char × List Char) :=
  let (sign, r) :=
    match t with
    | '-' :: r => (['-'], r)
    | r => ([], r)
  let whole := r.takeWhile isDecimalDigit
  if whole = [] then none
  else
    match r.dropWhile isDecimalDigit with
    | '.' :: f =>
      some (sign ++ whole ++ '.' :: f.takeWhile isDecimalDigit, f.dropWhile isDecimalDigit)
    | rest => some (sign ++ whole, rest)

def numericDefault? (t : List Char) : Option (List Char) := do
  let (number, rest) ← takeNumber? (dropOptional '(' t)
  if isNumericCast (dropOptional ')' rest) then some number else none

def isNull (t : List Char) : Bool :=
  match keyword? "null" t with
  | none => false
  | some [] => true
  | some r =>
    (dropPrefix? "::".toList r).any fun name =>
      name != [] && name.all fun c => isWordChar c || isBlank c

def parseDefault (raw : String) (type : ColumnType) : Option ColumnDefault :=
  let s := trimmed raw
  let t := s.toList
  if t = [] ∨ isNull t then none
  else
    match quotedCast? t with
    | some text =>
      some (((type.cast (String.ofList (undouble '\'' text))).map ColumnDefault.value).getD
        (.generator s))
    | none =>
      if s == "true" then some (.value (.bool true))
      else if s == "false" then some (.value (.bool false))
      else
        match numericDefault? t with
        | some number =>
          some (((type.cast (String.ofList number)).map ColumnDefault.value).getD (.generator s))
        | none => some (.generator s)

def dialect : Dialect where
  name := "postgresql"
  capabilities := capabilities
  nativeTypes := nativeTypes
  typeMap := typeMap
  typeToSql := typeToSql
  parseDefault := parseDefault
  classifier := classifier

end PolySql.Postgres
