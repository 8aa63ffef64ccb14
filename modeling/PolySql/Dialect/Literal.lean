import PolySql.Calendar.Printer
import PolySql.Dialect.Capabilities
import PolySql.Number.Decimal
import PolySql.Number.Double.Shortest
import PolySql.Text.Hex
import PolySql.Text.Quoted
import PolySql.Value.Basic

namespace PolySql

open Text Number Calendar

def BooleanLiteral.write : BooleanLiteral → Bool → String
  | keyword, true => "TRUE"
  | keyword, false => "FALSE"
  | numeric, true => "1"
  | numeric, false => "0"

def BinaryLiteral.write (style : BinaryLiteral) (bytes : List UInt8) : String :=
  let hex := hexUpper bytes
  match style with
  | hexString => "X'" ++ hex ++ "'"
  | hexNumber => "0x" ++ hex
  | escapedBytea => "'\\x" ++ lower hex ++ "'"
  | blobFunction => "BLOB(X'" ++ hex ++ "')"

namespace Capabilities

def quoteString (caps : Capabilities) (s : String) : String :=
  if caps.unicodeStrings then "N" ++ Text.quoteString s else Text.quoteString s

def quoteTimestamp (caps : Capabilities) (t : Timestamp) : String :=
  "'" ++ formatTimestamp t caps.fractionalDigits.toNat ++ "'"

def quoteValue (caps : Capabilities) (zone : Timezone) (quoteString : String → String) : Value → String
  | .null => "NULL"
  | .bool b => caps.boolean.write b
  | .int n => intText n.toInt
  | .float x => if x.isFinite then x.text else Text.quoteString x.text
  | .decimal s => if isDecimalLiteral s then s else Text.quoteString s
  | .text s => quoteString s
  | .blob bytes => caps.binary.write bytes
  | .date t => "'" ++ t.text ++ "'"
  | .time t => "'" ++ formatTime t caps.fractionalDigits.toNat ++ "'"
  | .timestamp t => caps.quoteTimestamp t
  | .zoned z => caps.quoteTimestamp (zone.convert z)

end Capabilities

end PolySql
