import PolySql.Compiler.Emission
import PolySql.Dialect.Basic
import PolySql.Tree.Basic

namespace PolySql

open Text Number Emission

namespace Dialect

def writeOperator (d : Dialect) : BinaryOp → String
  | .concat => d.concatOperator
  | op => op.sql

def sideNeedsParens (parent : BinaryOp) (isRight : Bool) : Expr → Bool
  | .binary _ op _ =>
    op.precedence < parent.precedence ||
      (isRight && op.precedence == parent.precedence && !parent.isAssociative)
  | _ => false

def writeQualifier (d : Dialect) : Option String → Emission
  | some table => lit (d.quoteTable table) ++ lit "."
  | none => []

def writeLockHint (d : Dialect) : Option Lock → Emission
  | none => []
  | some lock =>
    if d.capabilities.lock = .tableHint then
      if lock.isForUpdate then lit " WITH(UPDLOCK)" else lit " " ++ lit lock.text
    else []

def writeTrailingLock (d : Dialect) : Option Lock → Emission
  | none => []
  | some lock => if d.capabilities.lock = .trailing then lit " " ++ lit lock.text else []

def isGrouped : Expr → Bool
  | .subquery _ | .group _ => true
  | _ => false

def isOr : Expr → Bool
  | .binary _ .or _ => true
  | _ => false

def conjunction (keyword : String) (predicates : List (Expr × Emission)) : Emission :=
  if predicates.isEmpty then []
  else
    lit keyword ++
      separated " AND "
        (predicates.map fun p => parenthesizedIf (isOr p.1 && predicates.length > 1) p.2)

def clause (keyword : String) (items : List Emission) : Emission :=
  if items.isEmpty then [] else lit keyword ++ separated ", " items

structure PageBound where
  value : Option Int64
  plain : Emission
  operand : Emission

def writeLimitOffset (d : Dialect) (limit offset : Option PageBound) : Emission :=
  (match limit with
    | some l => lit " LIMIT " ++ l.plain
    | none =>
      if offset.isSome && d.capabilities.offsetRequiresLimit then lit " LIMIT -1" else []) ++
    match offset with
    | some o => lit " OFFSET " ++ o.plain
    | none => []

def writeOffsetFetch (limit offset : Option PageBound) : Emission :=
  (match offset with
    | some o => lit " OFFSET " ++ o.plain ++ lit " ROWS"
    | none => []) ++
    match limit with
    | some l =>
      if l.value = some 0 then lit " FETCH FIRST (SELECT 0) ROWS ONLY"
      else lit " FETCH NEXT " ++ l.plain ++ lit " ROWS ONLY"
    | none => []

def writeFetchFirst : Option PageBound → Emission
  | none => []
  | some l =>
    match l.value with
    | some n =>
      if n = 1 then lit " FETCH FIRST 1 ROW ONLY"
      else lit (" FETCH FIRST " ++ intText n.toInt ++ " ROWS ONLY")
    | none => lit " FETCH FIRST " ++ l.plain ++ lit " ROWS ONLY"

def writePaging (d : Dialect) (limit offset : Option PageBound) : Emission :=
  match d.capabilities.paging with
  | .limitOffset => d.writeLimitOffset limit offset
  | .offsetFetch => writeOffsetFetch limit offset
  | .fetchFirst => writeFetchFirst limit

def rowNumber : String := "internal$rownum"

def writeLastRow (limit offset : PageBound) : Emission :=
  match (do add? (← limit.value) (← offset.value)) with
  | some n => lit (intText n.toInt)
  | none => limit.operand ++ lit " + " ++ offset.operand

def writeRowWindow (body : Emission) (limit : Option PageBound) (offset : PageBound) : Emission :=
  lit ("SELECT B.* FROM (SELECT A.*, row_number() over () AS " ++ rowNumber ++ " FROM (") ++ body ++
    lit (") A) B WHERE B." ++ rowNumber ++ " > ") ++
    (match offset.value with
      | some n => lit (intText n.toInt)
      | none => offset.operand) ++
    match limit with
    | some l => lit (" AND B." ++ rowNumber ++ " <= ") ++ writeLastRow l offset
    | none => []

def writePaged (d : Dialect) (core : Emission) (lock : Emission) (limit offset : Option PageBound) :
    Emission :=
  match d.capabilities.paging, offset, limit with
  | .fetchFirst, some o, l => writeRowWindow (core ++ lock) l o
  | .fetchFirst, none, some l =>
    if l.value = some 0 then lit "SELECT A.* FROM (" ++ core ++ lock ++ lit ") A WHERE 1 = 0"
    else core ++ d.writePaging (some l) none ++ lock
  | _, o, l => core ++ d.writePaging l o ++ lock

def writeCollation (d : Dialect) : Emission :=
  match d.caseSensitiveCollation with
  | some c => lit " " ++ lit c
  | none => []

mutual

def writeExpr (d : Dialect) : Expr → Emission
  | .value v => lit (d.quote v)
  | .bind v => [.bind v]
  | .column t n => d.writeQualifier t ++ lit (d.quoteColumn n)
  | .binary l op r =>
    parenthesizedIf (sideNeedsParens op false l) (d.writeExpr l) ++ lit " " ++
      lit (d.writeOperator op) ++ lit " " ++
      parenthesizedIf (sideNeedsParens op true r) (d.writeExpr r)
  | .unary op e => lit op.sql ++ parenthesizedIf e.isBinary (d.writeExpr e)
  | .function n args distinct =>
    lit n ++ lit "(" ++ lit (if distinct then "DISTINCT " else "") ++
      separated ", " (d.writeExprs args) ++ lit ")"
  | .subquery q => parenthesized (d.writeSelect q)
  | .exists q negated =>
    lit (if negated then "NOT EXISTS " else "EXISTS ") ++ parenthesized (d.writeSelect q)
  | .inSubquery e q negated =>
    parenthesizedIf e.isBinary (d.writeExpr e) ++ lit (if negated then " NOT IN " else " IN ") ++
      parenthesized (d.writeSelect q)
  | .isNull e negated =>
    parenthesizedIf e.isBinary (d.writeExpr e) ++
      lit (if negated then " IS NOT NULL" else " IS NULL")
  | .inList e l negated =>
    if l.isEmpty then lit (if negated then "1=1" else "1=0")
    else
      parenthesizedIf e.isBinary (d.writeExpr e) ++ lit (if negated then " NOT IN " else " IN ") ++
        parenthesized (separated ", " (d.writeExprs l))
  | .between e low high negated =>
    parenthesizedIf e.isBinary (d.writeExpr e) ++
      lit (if negated then " NOT BETWEEN " else " BETWEEN ") ++
      parenthesizedIf low.isBinary (d.writeExpr low) ++ lit " AND " ++
      parenthesizedIf high.isBinary (d.writeExpr high)
  | .case operand branches otherwise =>
    lit "CASE" ++ d.writeOption " " operand ++ d.writeBranches branches ++
      d.writeOption " ELSE " otherwise ++ lit " END"
  | .group e => parenthesizedIf (!isGrouped e) (d.writeExpr e)
  | .bin e => parenthesizedIf e.isBinary (d.writeExpr e) ++ d.writeCollation
  | .raw text binds => fragment text binds
  | .wildcard t => d.writeQualifier t ++ lit "*"

def writeExprs (d : Dialect) : List Expr → List Emission
  | [] => []
  | e :: es => d.writeExpr e :: d.writeExprs es

def writeOption (d : Dialect) (keyword : String) : Option Expr → Emission
  | none => []
  | some e => lit keyword ++ d.writeExpr e

def writeBound (d : Dialect) : Option Expr → Option PageBound
  | none => none
  | some e =>
    some ⟨e.intValue?, d.writeExpr e, parenthesizedIf e.isBinary (d.writeExpr e)⟩

def writePredicates (d : Dialect) : List Expr → List (Expr × Emission)
  | [] => []
  | e :: es => (e, d.writeExpr e) :: d.writePredicates es

def writeBranch (d : Dialect) : Branch → Emission
  | ⟨test, result⟩ => lit " WHEN " ++ d.writeExpr test ++ lit " THEN " ++ d.writeExpr result

def writeBranches (d : Dialect) : List Branch → Emission
  | [] => []
  | b :: bs => d.writeBranch b ++ d.writeBranches bs

def writeProjection (d : Dialect) : Projection → Emission
  | ⟨e, label⟩ =>
    d.writeExpr e ++
      match label with
      | some a => lit " AS " ++ lit (d.quoteColumn a)
      | none => []

def writeProjections (d : Dialect) : List Projection → List Emission
  | [] => []
  | p :: ps => d.writeProjection p :: d.writeProjections ps

def writeTable (d : Dialect) : TableRef → Emission
  | .table schema name label =>
    lit (d.quoteQualified schema name) ++
      match label with
      | some a => lit " " ++ lit (d.quoteIdentifier a)
      | none => []
  | .derived q label => parenthesized (d.writeSelect q) ++ lit " " ++ lit (d.quoteIdentifier label)
  | .raw text => lit text

def writeSource (d : Dialect) (lock : Option Lock) : Option TableRef → Emission
  | none => []
  | some t => lit " FROM " ++ d.writeTable t ++ d.writeLockHint lock

def writeJoin (d : Dialect) (lock : Option Lock) : Join → Emission
  | ⟨kind, table, condition⟩ =>
    lit " " ++ lit kind.sql ++ lit " " ++ d.writeTable table ++ d.writeLockHint lock ++
      d.writeOption " ON " condition

def writeJoins (d : Dialect) (lock : Option Lock) : List Join → Emission
  | [] => []
  | j :: js => d.writeJoin lock j ++ d.writeJoins lock js

def writeOrder (d : Dialect) : Order → Emission
  | ⟨e, direction, nulls⟩ =>
    d.writeExpr e ++ lit " " ++ lit direction.sql ++
      match nulls with
      | some n => if d.capabilities.nullsOrdering then lit " " ++ lit n.sql else []
      | none => []

def writeOrders (d : Dialect) : List Order → List Emission
  | [] => []
  | o :: os => d.writeOrder o :: d.writeOrders os

def writeSelect (d : Dialect) : Select → Emission
  | ⟨distinct, projections, source, joins, wheres, groups, havings, orders, limit, offset, lock⟩ =>
    let columns := d.writeProjections projections
    let core :=
      (if columns.isEmpty then [.fault .noProjection] else []) ++
        lit (if distinct then "SELECT DISTINCT " else "SELECT ") ++ separated ", " columns ++
        d.writeSource lock source ++ d.writeJoins lock joins ++
        conjunction " WHERE " (d.writePredicates wheres) ++
        clause " GROUP BY " (d.writeExprs groups) ++
        conjunction " HAVING " (d.writePredicates havings) ++
        clause " ORDER BY " (d.writeOrders orders)
    d.writePaged core (d.writeTrailingLock lock) (d.writeBound limit) (d.writeBound offset)

end

def writeReturned (d : Dialect) (qualifier : String) (columns : List String) : Emission :=
  lit (joined ", " (columns.map fun c => qualifier ++ d.quoteColumn c))

def writeColumns (d : Dialect) (columns : List String) : Emission :=
  if columns.isEmpty then []
  else lit " (" ++ lit (joined ", " (columns.map d.quoteColumn)) ++ lit ")"

def writeRow (d : Dialect) (columns : List String) (index : Nat) (row : List Expr) : Emission :=
  if !columns.isEmpty && row.length != columns.length then
    [.fault (.rowWidth index row.length columns.length)]
  else parenthesized (separated ", " (d.writeExprs row))

def writeRows (d : Dialect) (columns : List String) (start : Nat) : List (List Expr) → List Emission
  | [] => []
  | row :: rows => d.writeRow columns start row :: d.writeRows columns (start + 1) rows

def writeInsertSource (d : Dialect) (columns : List String) : InsertSource → Emission
  | .rows [] => [.fault .noRows]
  | .rows rows => lit " VALUES " ++ separated ", " (d.writeRows columns 0 rows)
  | .query q => lit " " ++ d.writeSelect q
  | .defaults => lit " DEFAULT VALUES"

def writePlainInsert (d : Dialect) (output : Bool) (s : Insert) : Emission :=
  lit "INSERT INTO " ++ lit (d.quoteQualified s.schema s.table) ++ d.writeColumns s.columns ++
    (if output then lit " OUTPUT " ++ d.writeReturned "INSERTED." s.returning else []) ++
    d.writeInsertSource s.columns s.source

def writeInsert (d : Dialect) (s : Insert) : Emission :=
  if s.returning.isEmpty then d.writePlainInsert false s
  else
    match d.capabilities.returning with
    | .unsupported => d.writePlainInsert false s
    | .output => d.writePlainInsert true s
    | .returning => d.writePlainInsert false s ++ lit " RETURNING " ++ d.writeReturned "" s.returning
    | .finalTable =>
      lit "SELECT " ++ d.writeReturned "" s.returning ++ lit " FROM FINAL TABLE " ++
        parenthesized (d.writePlainInsert false s)

def writeAssignment (d : Dialect) (a : Assignment) : Emission :=
  lit (d.quoteColumn a.column) ++ lit " = " ++ d.writeExpr a.value

def writeUpdate (d : Dialect) (s : Update) : Emission :=
  (if s.assignments.isEmpty then [.fault .noAssignment] else []) ++
    lit "UPDATE " ++ lit (d.quoteQualified s.schema s.table) ++ lit " SET " ++
    separated ", " (s.assignments.map d.writeAssignment) ++
    conjunction " WHERE " (d.writePredicates s.rows.wheres)

def writeDelete (d : Dialect) (s : Delete) : Emission :=
  lit "DELETE FROM " ++ lit (d.quoteQualified s.schema s.table) ++
    conjunction " WHERE " (d.writePredicates s.rows.wheres)

def writeStatement (d : Dialect) : Statement → Emission
  | .select s => d.writeSelect s
  | .insert s => d.writeInsert s
  | .update s => d.writeUpdate s
  | .delete s => d.writeDelete s

end Dialect

end PolySql
