import PolySql.Catalog
import PolySql.Compiler.OrderText
import PolySql.Dialect.Capabilities
import PolySql.Number.Integer
import PolySql.Tree.Equality
import PolySql.Tree.Transform

namespace PolySql

open Text Number

def Catalog.orderingColumn? (catalog : Catalog) (table : String) : Option String :=
  match catalog.primaryKeys table with
  | [] => (catalog.columns table).head?.map (·.name)
  | [key] => some key
  | keys =>
    let candidates := (catalog.columns table).filter fun c => c.name ∈ keys
    ((candidates.find? Column.isIdentity).or candidates.head?).map (·.name)

def TableRef.catalogName? : TableRef → Option (String × String)
  | .table schema name label =>
    some (name,
      match label, schema with
      | some a, _ => a
      | none, some s => s ++ "." ++ name
      | none, none => name)
  | .raw text => some (text, text)
  | .derived _ _ => none

def keyOrder? (catalog : Catalog) (source : Option TableRef) : Option Order := do
  let t ← source
  let (table, qualifier) ← t.catalogName?
  let column ← catalog.orderingColumn? table
  return ⟨.column (some qualifier) column, .asc, none⟩

namespace Select

def topOne : String := "TOP(?) 1"

def probeAlias : String := "one"

def isTopOne : Expr → Bool
  | .raw text _ => text == topOne
  | _ => false

def hasTopOne (s : Select) : Bool :=
  s.projections.any fun p => isTopOne p.expr

def isOne : Expr → Bool
  | .value (.int n) => n == 1
  | .raw text binds => binds.isEmpty && trimmed text == "1"
  | _ => false

def isProbeProjection (p : Projection) : Bool :=
  isOne p.expr && p.label.any (sameIgnoringCase probeAlias)

def isProbeLimit : Option Expr → Bool
  | none => true
  | some e =>
    match e.intValue? with
    | some n => n == 0 || n == 1
    | none => false

def isProbe (s : Select) : Bool :=
  s.distinct && (!s.projections.isEmpty && s.projections.all isProbeProjection) &&
    isProbeLimit s.limit && s.offset.isNone

def clearOrders (s : Select) : Select :=
  { s with orders := [] }

def dropIdleOrder (caps : Capabilities) (nested : Bool) (s : Select) : Select :=
  if nested && !caps.orderedSubqueries && !s.isPaged then s.clearOrders else s

def probeWithTop (caps : Capabilities) (s : Select) : Select :=
  if caps.topExistsCheck && s.isProbe then
    let top := (s.limit.bind Expr.intValue?).getD 1
    { s with
      projections := [⟨.raw topOne [.int top], some probeAlias⟩]
      limit := none }
  else s

def orderPaging (caps : Capabilities) (catalog : Catalog) (s : Select) : Select :=
  if s.isPaged && s.orders.isEmpty && caps.deterministicPaging then
    { s with orders := (keyOrder? catalog s.source).toList }
  else s

def zero : Expr := .value (.int 0)

def completeOffset (caps : Capabilities) (s : Select) : Select :=
  if caps.paging = .offsetFetch && s.limit.isSome && s.offset.isNone then
    { s with offset := some zero }
  else s

def aliasStem : String := "alias_"

def orderedBy : Expr → Expr
  | .raw text binds => .raw (OrderText.bare text) binds
  | e => e

def unique (es : List Expr) : List Expr :=
  es.foldl (fun seen e => if seen.any (· == e) then seen else seen ++ [e]) []

def missingOrders (s : Select) : List Expr :=
  unique ((s.orders.map fun o => orderedBy o.expr).filter fun e =>
    !s.projections.any fun p => p.expr == e)

def isStar : Expr → Bool
  | .wildcard none => true
  | _ => false

def selectsAll (s : Select) : Bool :=
  s.projections.any fun p => isStar p.expr

def stemCount (s : Select) : Nat :=
  s.projections.countP fun p => p.label.any fun a => startsWith a aliasStem

def numbered (start : Nat) : List Expr → List Projection
  | [] => []
  | e :: es => ⟨e, some (aliasStem ++ natText start)⟩ :: numbered (start + 1) es

def projectOrders (s : Select) : Select :=
  if s.selectsAll then s
  else { s with projections := numbered s.stemCount s.missingOrders ++ s.projections }

def projectDistinctOrders (caps : Capabilities) (s : Select) : Select :=
  if caps.distinctOrderProjections && s.distinct && !s.hasTopOne then s.projectOrders else s

def settleStep (caps : Capabilities) (catalog : Catalog) (nested : Bool) (s : Select) : Select :=
  projectDistinctOrders caps
    (completeOffset caps
      (orderPaging caps catalog (probeWithTop caps (dropIdleOrder caps nested s))))

def settle (caps : Capabilities) (catalog : Catalog) (nested : Bool) (s : Select) : Select :=
  s.transform (settleStep caps catalog) nested

end Select

end PolySql
