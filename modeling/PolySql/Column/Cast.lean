import PolySql.Calendar.Reader
import PolySql.Column.Type
import PolySql.Number.Decimal
import PolySql.Number.Double.Reader
import PolySql.Value.Basic

namespace PolySql

open Text Number Calendar

def readDecimal? (s : String) : Option Value :=
  if isDecimalLiteral s then some (.decimal s) else none

def readBool? (s : String) : Option Value :=
  let word := lower s
  if word == "1" || word == "true" || word == "t" then some (.bool true)
  else if word == "0" || word == "false" || word == "f" then some (.bool false)
  else none

def TypeKind.cast (kind : TypeKind) (raw : String) : Option Value :=
  let word := trimmed raw
  match kind with
  | .integer | .bigInteger => (readInt64? word).map .int
  | .decimalWithoutScale => ((readInt64? word).map Value.int).orElse fun _ => readDecimal? word
  | .decimal | .money => readDecimal? word
  | .float => (Double.read? word).map .float
  | .boolean => readBool? word
  | .date => (Date.read? word).map .date
  | .time => (Clock.read? word).map .time
  | .dateTime => (Timestamp.read? word).map .timestamp
  | .binary => some (.blob raw.toUTF8.toList)
  | .string | .text | .uuid | .xml | .json | .other => some (.text raw)

def ColumnType.cast (t : ColumnType) (raw : String) : Option Value :=
  t.kind.cast raw

end PolySql
