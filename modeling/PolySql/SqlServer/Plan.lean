import PolySql.Dialect.Basic
import PolySql.Text.Placeholder

namespace PolySql.SqlServer.Plan

open Text

def switchOn : String := "SET SHOWPLAN_ALL ON"
def switchOff : String := "SET SHOWPLAN_ALL OFF"

def interleave : List String → List String → String
  | [], _ => ""
  | [s], _ => s
  | s :: rest, v :: vs => s ++ v ++ interleave rest vs
  | s :: rest, [] => s ++ "?" ++ interleave rest []

def interpolate (d : Dialect) (sql : String) (binds : List Value) : String :=
  interleave (splitPlaceholders sql) (binds.map d.quote)

end PolySql.SqlServer.Plan
