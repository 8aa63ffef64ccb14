import PolySql.Compiler.Render
import PolySql.Proofs.Tree.Map

namespace PolySql

open Emission

namespace Dialect

variable (d : Dialect)

theorem writeExprs_eq (es : List Expr) : d.writeExprs es = es.map d.writeExpr := by
  induction es with
  | nil => rfl
  | cons e es ih => rw [writeExprs, ih, List.map_cons]

theorem writeOption_eq (keyword : String) (o : Option Expr) :
    d.writeOption keyword o = o.elim [] fun e => lit keyword ++ d.writeExpr e := by
  cases o <;> rfl

theorem writePredicates_eq (es : List Expr) :
    d.writePredicates es = es.map fun e => (e, d.writeExpr e) := by
  induction es with
  | nil => rfl
  | cons e es ih => rw [writePredicates, ih, List.map_cons]

theorem writeBranches_eq (bs : List Branch) : d.writeBranches bs = bs.flatMap d.writeBranch := by
  induction bs with
  | nil => rfl
  | cons b bs ih => rw [writeBranches, ih, List.flatMap_cons]

theorem writeProjections_eq (ps : List Projection) :
    d.writeProjections ps = ps.map d.writeProjection := by
  induction ps with
  | nil => rfl
  | cons p ps ih => rw [writeProjections, ih, List.map_cons]

theorem writeSource_eq (lock : Option Lock) (t : Option TableRef) :
    d.writeSource lock t =
      t.elim [] fun t => lit " FROM " ++ (d.writeTable t ++ d.writeLockHint lock) := by
  cases t <;> rfl

theorem writeJoins_eq (lock : Option Lock) (js : List Join) :
    d.writeJoins lock js = js.flatMap (d.writeJoin lock) := by
  induction js with
  | nil => rfl
  | cons j js ih => rw [writeJoins, ih, List.flatMap_cons]

theorem writeOrders_eq (os : List Order) : d.writeOrders os = os.map d.writeOrder := by
  induction os with
  | nil => rfl
  | cons o os ih => rw [writeOrders, ih, List.map_cons]

theorem writeRowWindow_elim (body : Emission) (limit : Option PageBound) (offset : PageBound) :
    writeRowWindow body limit offset =
      lit ("SELECT B.* FROM (SELECT A.*, row_number() over () AS " ++ rowNumber ++ " FROM (") ++ body ++
        lit (") A) B WHERE B." ++ rowNumber ++ " > ") ++
        (offset.value.elim offset.operand fun n => lit (Number.intText n.toInt)) ++
        limit.elim [] fun l => lit (" AND B." ++ rowNumber ++ " <= ") ++ writeLastRow l offset := by
  unfold writeRowWindow
  cases offset.value <;> cases limit <;> rfl

def writeConjunction (keyword : String) (es : List Expr) : Emission :=
  conjunction keyword (es.map fun e => (e, d.writeExpr e))

def writeBody (s : Select) : Emission :=
  (if s.projections.isEmpty then [.fault .noProjection] else []) ++
    lit (if s.distinct then "SELECT DISTINCT " else "SELECT ") ++
    separated ", " (s.projections.map d.writeProjection) ++ d.writeSource s.lock s.source ++
    d.writeJoins s.lock s.joins ++ d.writeConjunction " WHERE " s.wheres ++
    clause " GROUP BY " (s.groups.map d.writeExpr) ++ d.writeConjunction " HAVING " s.havings

def writeOrderBy (s : Select) : Emission :=
  clause " ORDER BY " (s.orders.map d.writeOrder)

theorem writeSelect_eq (s : Select) :
    d.writeSelect s =
      d.writePaged (d.writeBody s ++ d.writeOrderBy s) (d.writeTrailingLock s.lock)
        (d.writeBound s.limit) (d.writeBound s.offset) := by
  cases s
  rw [writeSelect]
  simp only [writePredicates_eq, writeExprs_eq, writeProjections_eq, writeOrders_eq, List.isEmpty_map]
  rfl

end Dialect

namespace Node

def write (d : Dialect) : Node → Emission
  | expr e => d.writeExpr e
  | table t => d.writeTable t
  | select s => d.writeSelect s

section Write
variable {d : Dialect}

@[simp] theorem write_expr (e : Expr) : (expr e).write d = d.writeExpr e := rfl

@[simp] theorem write_table (t : TableRef) : (table t).write d = d.writeTable t := rfl

@[simp] theorem write_select (s : Select) : (select s).write d = d.writeSelect s := rfl

end Write

end Node

def Expr.written : Expr → List Node
  | .inList _ [] _ => []
  | e => e.parts

def Node.written : Node → List Node
  | .expr e => e.written
  | .table t => t.parts
  | .select s => s.parts

theorem Node.written_subset_parts (n : Node) : n.written ⊆ n.parts := by
  cases n with
  | expr e =>
    intro m hm
    replace hm : m ∈ e.written := hm
    unfold Expr.written at hm
    split at hm
    · cases hm
    · exact hm
  | table t => exact List.Subset.refl _
  | select s => exact List.Subset.refl _

end PolySql
