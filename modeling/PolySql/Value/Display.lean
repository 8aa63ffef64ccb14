import PolySql.Calendar.Printer
import PolySql.Number.Double.Shortest
import PolySql.Value.Basic

namespace PolySql.Value

open Number

def display : Value → String
  | null => "NULL"
  | bool b => if b then "true" else "false"
  | int n => intText n.toInt
  | float d => d.text
  | decimal s => s
  | text s => s
  | blob bytes => "<" ++ natText bytes.length ++ " bytes>"
  | date d => d.text
  | time c => c.fullText
  | timestamp t => t.fullText
  | zoned z => z.fullText

end PolySql.Value
