import PolySql.Value.Basic

namespace PolySql.SqlServer

structure ClauseBinds where
  source : List Value
  joins : List Value
  wheres : List Value
  havings : List Value
  limit : Option Value
  offset : Option Value
  deriving BEq, Repr

def ClauseBinds.combine (b : ClauseBinds) : List Value :=
  b.source ++ b.joins ++ b.wheres ++ b.havings ++ b.offset.toList ++ b.limit.toList

end PolySql.SqlServer
