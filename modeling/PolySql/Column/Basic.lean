import PolySql.Text.Cut
import PolySql.Value.Basic

namespace PolySql

open Text

inductive ColumnDefault where
  | value (v : Value)
  | generator (expression : String)
  deriving BEq, Repr

structure Column where
  name : String
  sqlType : String
  nullable : Bool
  default : Option ColumnDefault
  table : Option String
  deriving BEq, Repr

namespace Column

def marksIdentity (sqlType : String) : Bool :=
  contains (lower sqlType) "identity"

def isIdentity (c : Column) : Bool :=
  marksIdentity c.sqlType

def hasGenerator (c : Column) : Bool :=
  match c.default with
  | some (.generator _) => true
  | _ => false

end Column

end PolySql
