import PolySql.Compiler.Settle.Select
import PolySql.Failure.Basic

namespace PolySql

namespace RowFilter

def keySelect (f : RowFilter) (schema : Option String) (table : String) (key : Expr) : Select :=
  { Select.ofTable (.table schema table none) with
    projections := [⟨key, none⟩]
    wheres := f.wheres
    orders := f.orders
    limit := f.limit
    offset := f.offset }

def withNeededLimit (caps : Capabilities) (f : RowFilter) : RowFilter :=
  if !f.orders.isEmpty && f.limit.isNone && caps.updateOrderRequiresLimit then
    { f with limit := some (.value (.int caps.maxRowLimit)) }
  else f

def restrict (caps : Capabilities) (catalog : Catalog) (statement : String)
    (schema : Option String) (table : String) (f : RowFilter) : Except CompileError RowFilter :=
  let f := f.withNeededLimit caps
  if f.limit.isNone && f.offset.isNone then .ok { f with orders := [] }
  else
    match f.key with
    | none => .error (.unkeyedRowLimit statement)
    | some key =>
      let keys := (f.keySelect schema table key).settle caps catalog false
      .ok ⟨[.inSubquery key keys false], [], none, none, some key⟩

end RowFilter

namespace Statement

def settle (caps : Capabilities) (catalog : Catalog) : Statement → Except CompileError Statement :=
  let step := Select.settleStep caps catalog
  fun
  | .select s => .ok (.select (s.settle caps catalog false))
  | .insert s =>
    let source :=
      match s.source with
      | .rows rows => .rows (rows.map (Expr.transformList step))
      | .query q => .query (q.settle caps catalog false)
      | .defaults => .defaults
    .ok (.insert { s with source := source })
  | .update s => do
    let rows ← ({ s.rows with wheres := Expr.transformList step s.rows.wheres }).restrict caps catalog
      "UPDATE" s.schema s.table
    return .update
      { s with
        assignments := s.assignments.map fun a => { a with value := a.value.transform step }
        rows := rows }
  | .delete s => do
    let rows ← ({ s.rows with wheres := Expr.transformList step s.rows.wheres }).restrict caps catalog
      "DELETE" s.schema s.table
    return .delete { s with rows := rows }

end Statement

end PolySql
