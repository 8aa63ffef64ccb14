import PolySql.SqlServer.Types
import PolySql.Column.Basic
import PolySql.Tree.Basic

namespace PolySql.SqlServer

open Text

def isCaseSensitive (collation : Option String) : Bool :=
  collation.any fun name => contains name "_CS"

def ignoresCase (collation : Option String) (c : Column) : Bool :=
  let kind := (typeMap.lookupOrOther c.sqlType).kind
  (kind == .string || kind == .text) && !isCaseSensitive collation

def isNullLiteral : Expr → Bool
  | .value v => v.isNull
  | .bind v => v.isNull
  | _ => false

def exactComparison (collation : Option String) (c : Column) (value : Expr) : Expr :=
  let marked := if ignoresCase collation c && !isNullLiteral value then .bin value else value
  (Expr.column c.table c.name).eq marked

end PolySql.SqlServer
