import PolySql.SqlServer.Classifier
import PolySql.SqlServer.Name
import PolySql.SqlServer.StoredDefault
import PolySql.SqlServer.Types

namespace PolySql.SqlServer

open Text Calendar

def capabilities : Capabilities where
  paging := .offsetFetch
  deterministicPaging := true
  offsetRequiresLimit := false
  lock := .tableHint
  orderedSubqueries := false
  returning := .output
  nullsOrdering := false
  boolean := .numeric
  binary := .hexNumber
  unicodeStrings := true
  fractionalDigits := 6
  maxRowLimit := Int64.maxValue
  topExistsCheck := true
  distinctOrderProjections := true
  updateOrderRequiresLimit := true

def caseSensitiveCollation : String := "COLLATE Latin1_General_CS_AS_WS"

def isGeneratorText (type : Option ColumnType) (s : String) : Bool :=
  (type.any fun t => t.kind == .uuid) && contains s "()"

def dialectWith (zone : Timezone) (collation : String) : Dialect where
  name := "mssql"
  capabilities := capabilities
  openingQuote := '['
  closingQuote := ']'
  quoteIdentifier := quoteIdentifier
  quoteColumn := quoteUnlessStar quoteName
  quoteTable := quoteName
  concatOperator := "+"
  caseSensitiveCollation := some collation
  timezone := zone
  nativeTypes := nativeTypes
  typeMap := typeMap
  typeToSql := typeToSql
  parseDefault := parseDefault
  isVerbatimDefault := isGeneratorText
  classifier := classifier

def dialect : Dialect :=
  dialectWith .utc caseSensitiveCollation

end PolySql.SqlServer
