import PolySql.Column.Basic
import PolySql.Column.Cast
import PolySql.Text.Quoted

namespace PolySql

open Text Number

def parseStoredDefault (raw : String) (type : ColumnType) : Option ColumnDefault :=
  let s := trimmed raw
  if s == "" || sameIgnoringCase s "null" then none
  else if (between? ['\''] ['\''] s.toList).isSome then
    (type.cast (unquoteString s)).map .value
  else if (Double.read? s).isSome then
    some (((type.cast s).map ColumnDefault.value).getD (.generator s))
  else some (.generator s)

end PolySql
