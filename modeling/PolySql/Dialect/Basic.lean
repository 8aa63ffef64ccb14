import PolySql.Column.Basic
import PolySql.Column.Native
import PolySql.Column.TypeMap
import PolySql.Dialect.Literal
import PolySql.Dialect.StoredDefault
import PolySql.Failure.Classifier

namespace PolySql

open Text Calendar

def quoteBetween (opening closing : Char) (name : String) : String :=
  String.ofList (opening :: (double closing name.toList ++ [closing]))

def quoteParts (quote : String → String) (name : String) : String :=
  joined "." ((pieces '.' name.toList).map fun part => quote (String.ofList part))

def quoteUnlessStar (quote : String → String) (name : String) : String :=
  if name == "*" then "*" else quote name

structure Dialect where
  name : String
  capabilities : Capabilities
  openingQuote : Char := '"'
  closingQuote : Char := openingQuote
  quoteIdentifier : String → String := quoteBetween openingQuote closingQuote
  quoteColumn : String → String := quoteUnlessStar quoteIdentifier
  quoteTable : String → String := quoteParts quoteIdentifier
  placeholder : String := "?"
  concatOperator : String := "||"
  caseSensitiveCollation : Option String := none
  timezone : Timezone := .utc
  quoteString : String → String := capabilities.quoteString
  quote : Value → String := capabilities.quoteValue timezone quoteString
  nativeTypes : NativeTypes
  typeMap : TypeMap
  typeToSql : String → TypeOptions → Except Failure String :=
    fun logical o => .ok (nativeTypes.toSql logical o)
  parseDefault : String → ColumnType → Option ColumnDefault := parseStoredDefault
  isVerbatimDefault : Option ColumnType → String → Bool := fun _ _ => false
  classifier : Classifier

namespace Dialect

def quoteQualified (d : Dialect) (schema : Option String) (name : String) : String :=
  match schema with
  | some s => d.quoteTable (s ++ "." ++ name)
  | none => d.quoteTable name

def quoteDefault (d : Dialect) (type : Option ColumnType) : ColumnDefault → String
  | .generator expression => expression
  | .value (.text s) => if d.isVerbatimDefault type s then s else d.quote (.text s)
  | .value v => d.quote v

def lookupType (d : Dialect) (sqlType : String) : Option ColumnType :=
  d.typeMap.lookup sqlType

end Dialect

end PolySql
