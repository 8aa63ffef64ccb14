import PolySql.Compiler.Render
import PolySql.Compiler.Settle.Statement

namespace PolySql

structure Compiled where
  sql : String
  binds : List Value
  statement : Statement

namespace Emission

def finish (placeholder : String) (e : Emission) : Except CompileError (String × List Value) :=
  match e.fault? with
  | some fault => .error fault
  | none => .ok (e.sql placeholder, e.binds)

end Emission

def compile (d : Dialect) (catalog : Catalog) (s : Statement) : Except CompileError Compiled := do
  let settled ← s.settle d.capabilities catalog
  let (sql, binds) ← (d.writeStatement settled).finish d.placeholder
  return ⟨sql, binds, settled⟩

end PolySql
