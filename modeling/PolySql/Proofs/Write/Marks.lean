import Mathlib.Data.List.Basic
import PolySql.Proofs.Write.Emission
import PolySql.Proofs.Write.Equations

namespace PolySql

def Piece.isMark : Piece → Bool
  | text _ => false
  | bind _ | fault _ => true

namespace Emission

def marks (e : Emission) : Emission :=
  e.filter Piece.isMark

variable {a b e : Emission}

@[simp] theorem marks_nil : marks [] = [] := rfl

@[simp] theorem marks_lit (s : String) : (lit s).marks = [] := rfl

@[simp] theorem marks_append (a b : Emission) : marks (a ++ b) = a.marks ++ b.marks :=
  List.filter_append ..

@[simp] theorem marks_parenthesized (e : Emission) : (parenthesized e).marks = e.marks := by
  simp [parenthesized]

@[simp] theorem marks_parenthesizedIf (x : Bool) (e : Emission) :
    (parenthesizedIf x e).marks = e.marks := by
  cases x with
  | true => exact marks_parenthesized e
  | false => rfl

@[simp] theorem marks_separated (sep : String) (es : List Emission) :
    (separated sep es).marks = es.flatMap marks := by
  induction es with
  | nil => rfl
  | cons e es ih =>
    cases es with
    | nil => simp [separated]
    | cons e' es =>
      rw [separated, marks_append, marks_append, ih, marks_lit, List.append_nil]
      · rfl
      · simp

theorem marks_flatMap {α : Type} (xs : List α) (f : α → Emission) :
    marks (xs.flatMap f) = xs.flatMap fun x => (f x).marks := by
  induction xs with
  | nil => rfl
  | cons x xs ih => rw [List.flatMap_cons, marks_append, ih, List.flatMap_cons]

theorem binds_marks (e : Emission) : e.marks.binds = e.binds := by
  induction e with
  | nil => rfl
  | cons x e ih =>
    cases x with
    | text s => exact ih
    | bind v => exact congrArg (v :: ·) ih
    | fault f => exact ih

theorem fault?_marks (e : Emission) : e.marks.fault? = e.fault? := by
  induction e with
  | nil => rfl
  | cons x e ih =>
    cases x with
    | text s => exact ih
    | bind v => exact ih
    | fault f => rfl

theorem map_finish_congr {p p' : String} (h : a.marks = b.marks) :
    (a.finish p).map Prod.snd = (b.finish p').map Prod.snd := by
  have hfault : a.fault? = b.fault? := by rw [← fault?_marks, h, fault?_marks]
  have hbinds : a.binds = b.binds := by rw [← binds_marks, h, binds_marks]
  unfold finish
  rw [hfault]
  cases b.fault? with
  | some f => rfl
  | none => exact congrArg Except.ok hbinds

end Emission

namespace Dialect

open Emission

variable {d : Dialect}

@[simp] theorem marks_writeQualifier (t : Option String) : (d.writeQualifier t).marks = [] := by
  cases t <;> rfl

@[simp] theorem marks_writeCollation : d.writeCollation.marks = [] := by
  unfold writeCollation
  split <;> rfl

@[simp] theorem marks_writeLockHint (lock : Option Lock) : (d.writeLockHint lock).marks = [] := by
  unfold writeLockHint
  split
  · rfl
  · split
    · split <;> rfl
    · rfl

@[simp] theorem marks_writeTrailingLock (lock : Option Lock) :
    (d.writeTrailingLock lock).marks = [] := by
  unfold writeTrailingLock
  split
  · rfl
  · split <;> rfl

theorem marks_writeOption (keyword : String) (o : Option Expr) :
    (d.writeOption keyword o).marks = o.toList.flatMap fun e => (d.writeExpr e).marks := by
  cases o <;> simp [writeOption]

theorem marks_writeBranches (bs : List Branch) :
    (d.writeBranches bs).marks =
      bs.flatMap fun b => (d.writeExpr b.test).marks ++ (d.writeExpr b.result).marks := by
  rw [writeBranches_eq, marks_flatMap]
  refine congrArg (List.flatMap · bs) (funext fun b => ?_)
  cases b
  simp [writeBranch]

def leafMarks : Expr → Emission
  | .bind v => [.bind v]
  | .raw text binds => (fragment text binds).marks
  | _ => []

theorem marks_writeExpr (e : Expr) :
    (d.writeExpr e).marks = leafMarks e ++ e.written.flatMap fun m => (m.write d).marks := by
  cases e with
  | inList e l n =>
    cases l with
    | nil => rfl
    | cons x xs => simp [writeExpr, leafMarks, Expr.written, Expr.parts, writeExprs_eq, List.flatMap_map]
  | case o bs e =>
    simp [writeExpr, leafMarks, Expr.written, Expr.parts, marks_writeOption, marks_writeBranches,
      List.flatMap_map, List.flatMap_assoc]
  | bind v => rfl
  | raw text binds => simp [writeExpr, leafMarks, Expr.written, Expr.parts]
  | _ => simp [writeExpr, leafMarks, Expr.written, Expr.parts, writeExprs_eq, List.flatMap_map]

theorem marks_writeTable (t : TableRef) :
    (d.writeTable t).marks = t.parts.flatMap fun m => (m.write d).marks := by
  cases t with
  | table s n label => cases label <;> simp [writeTable, TableRef.parts]
  | derived q label => simp [writeTable, TableRef.parts]
  | raw text => rfl

theorem marks_writeProjection (p : Projection) :
    (d.writeProjection p).marks = (d.writeExpr p.expr).marks := by
  obtain ⟨e, label⟩ := p
  cases label <;> simp [writeProjection]

theorem marks_writeJoin (lock : Option Lock) (j : Join) :
    (d.writeJoin lock j).marks = j.parts.flatMap fun m => (m.write d).marks := by
  cases j
  simp [writeJoin, Join.parts, marks_writeOption, List.flatMap_map]

theorem marks_writeOrder (o : Order) : (d.writeOrder o).marks = (d.writeExpr o.expr).marks := by
  obtain ⟨e, direction, nulls⟩ := o
  cases nulls with
  | none => simp [writeOrder]
  | some n =>
    unfold writeOrder
    dsimp only
    split <;> simp

theorem marks_clause (keyword : String) (items : List Emission) :
    (clause keyword items).marks = items.flatMap marks := by
  unfold clause
  split
  · rename_i hnone
    rw [List.isEmpty_iff.1 hnone]
    rfl
  · simp

theorem marks_writeConjunction (keyword : String) (es : List Expr) :
    (d.writeConjunction keyword es).marks = es.flatMap fun e => (d.writeExpr e).marks := by
  cases es with
  | nil => rfl
  | cons e es => simp [writeConjunction, conjunction, List.flatMap_map]

theorem marks_writeLimitOffset (limit offset : Option Expr) :
    (d.writeLimitOffset (d.writeBound limit) (d.writeBound offset)).marks =
      limit.toList.flatMap (fun e => (d.writeExpr e).marks) ++
        offset.toList.flatMap fun e => (d.writeExpr e).marks := by
  unfold writeLimitOffset
  rw [marks_append]
  refine congrArg₂ (· ++ ·) ?_ ?_
  · cases limit with
    | none =>
      dsimp only [writeBound]
      split <;> rfl
    | some e => simp [writeBound]
  · cases offset <;> simp [writeBound]

theorem marks_writeSelect (hd : d.capabilities.paging = .limitOffset) (s : Select) :
    (d.writeSelect s).marks =
      (if s.projections.isEmpty then [.fault .noProjection] else []) ++
        (Node.select s).children.flatMap fun m => (m.write d).marks := by
  have hfault : marks (if s.projections.isEmpty then [.fault .noProjection] else []) =
      if s.projections.isEmpty then [.fault .noProjection] else [] := by
    split <;> rfl
  have hsource : (d.writeSource s.lock s.source).marks =
      s.source.toList.flatMap fun t => (d.writeTable t).marks := by
    rw [writeSource_eq]
    cases s.source <;> simp
  have hjoins : (d.writeJoins s.lock s.joins).marks =
      (s.joins.flatMap Join.parts).flatMap fun m => (m.write d).marks := by
    rw [writeJoins_eq, marks_flatMap, List.flatMap_assoc]
    simp only [marks_writeJoin]
  rw [writeSelect_eq]
  unfold writePaged writePaging writeBody writeOrderBy
  simp only [hd, marks_append, hfault, marks_lit, marks_separated, hsource, hjoins,
    marks_writeConjunction, marks_clause, marks_writeLimitOffset, marks_writeTrailingLock,
    List.flatMap_map, marks_writeProjection, marks_writeOrder]
  simp [Node.children, Select.parts, Select.orderParts, Select.bounds, List.flatMap_map]

@[simp] theorem marks_writeColumns (columns : List String) : (d.writeColumns columns).marks = [] := by
  unfold writeColumns
  split <;> rfl

@[simp] theorem marks_writeReturned (qualifier : String) (columns : List String) :
    (d.writeReturned qualifier columns).marks = [] :=
  rfl

theorem marks_writePlainInsert (output : Bool) (s : Insert) :
    (d.writePlainInsert output s).marks = (d.writeInsertSource s.columns s.source).marks := by
  unfold writePlainInsert
  cases output <;> simp

theorem marks_writeInsert (s : Insert) :
    (d.writeInsert s).marks = (d.writeInsertSource s.columns s.source).marks := by
  unfold writeInsert
  split
  · exact marks_writePlainInsert false s
  · split <;> simp [marks_writePlainInsert]

theorem marks_writeUpdate (s : Update) :
    (d.writeUpdate s).marks =
      (if s.assignments.isEmpty then [.fault .noAssignment] else []) ++
        s.assignments.flatMap (fun a => (d.writeExpr a.value).marks) ++
        s.rows.wheres.flatMap fun e => (d.writeExpr e).marks := by
  have hfault : marks (if s.assignments.isEmpty then [.fault .noAssignment] else []) =
      if s.assignments.isEmpty then [.fault .noAssignment] else [] := by
    split <;> rfl
  have hwheres := d.marks_writeConjunction " WHERE " s.rows.wheres
  unfold writeConjunction at hwheres
  unfold writeUpdate
  rw [writePredicates_eq]
  simp only [marks_append, hfault, marks_lit, marks_separated, hwheres, List.flatMap_map,
    writeAssignment, List.append_nil, List.nil_append]

theorem marks_writeDelete (s : Delete) :
    (d.writeDelete s).marks = s.rows.wheres.flatMap fun e => (d.writeExpr e).marks := by
  have hwheres := d.marks_writeConjunction " WHERE " s.rows.wheres
  unfold writeConjunction at hwheres
  unfold writeDelete
  rw [writePredicates_eq]
  simp only [marks_append, marks_lit, hwheres, List.nil_append]

end Dialect

section Congruence
variable {d d' : Dialect}

theorem Node.marks_write_congr (hd : d.capabilities.paging = .limitOffset)
    (hd' : d'.capabilities.paging = .limitOffset) (n : Node) :
    (n.write d).marks = (n.write d').marks := by
  induction n using Node.induct with
  | step n ih =>
    have hparts {ns : List Node} (hns : ns ⊆ n.children) :
        (ns.flatMap fun m => (m.write d).marks) = ns.flatMap fun m => (m.write d').marks :=
      List.flatMap_congr fun m hm => ih m (hns hm)
    cases n with
    | expr e =>
      show (d.writeExpr e).marks = (d'.writeExpr e).marks
      rw [Dialect.marks_writeExpr, Dialect.marks_writeExpr]
      exact congrArg (_ ++ ·) (hparts (written_subset_parts (.expr e)))
    | table t =>
      show (d.writeTable t).marks = (d'.writeTable t).marks
      rw [Dialect.marks_writeTable, Dialect.marks_writeTable]
      exact hparts (List.Subset.refl _)
    | select s =>
      show (d.writeSelect s).marks = (d'.writeSelect s).marks
      rw [Dialect.marks_writeSelect hd, Dialect.marks_writeSelect hd']
      exact congrArg (_ ++ ·) (hparts (List.Subset.refl _))

namespace Dialect

open Emission

variable (hm : ∀ n : Node, (n.write d).marks = (n.write d').marks)
include hm

theorem marks_writeRows_congr (columns : List String) (start : Nat) (rs : List (List Expr)) :
    (d.writeRows columns start rs).flatMap marks = (d'.writeRows columns start rs).flatMap marks := by
  induction rs generalizing start with
  | nil => rfl
  | cons row rs ih =>
    rw [writeRows, writeRows, List.flatMap_cons, List.flatMap_cons, ih]
    refine congrArg (· ++ _) ?_
    unfold writeRow
    split
    · rfl
    · simp only [marks_parenthesized, marks_separated, writeExprs_eq, List.flatMap_map]
      exact List.flatMap_congr fun e _ => hm (.expr e)

theorem marks_writeInsertSource_congr (columns : List String) (source : InsertSource) :
    (d.writeInsertSource columns source).marks = (d'.writeInsertSource columns source).marks := by
  cases source with
  | rows rs =>
    cases rs with
    | nil => rfl
    | cons row rs => simpa [writeInsertSource] using marks_writeRows_congr hm columns 0 (row :: rs)
  | query q => simpa [writeInsertSource] using hm (.select q)
  | defaults => rfl

theorem marks_writeStatement_congr (s : Statement) :
    (d.writeStatement s).marks = (d'.writeStatement s).marks := by
  have hexprs (es : List Expr) :
      (es.flatMap fun e => (d.writeExpr e).marks) = es.flatMap fun e => (d'.writeExpr e).marks :=
    List.flatMap_congr fun e _ => hm (.expr e)
  cases s with
  | select s => exact hm (.select s)
  | insert s =>
    show (d.writeInsert s).marks = (d'.writeInsert s).marks
    rw [marks_writeInsert, marks_writeInsert, marks_writeInsertSource_congr hm]
  | update s =>
    have hvalues : (s.assignments.flatMap fun a => (d.writeExpr a.value).marks) =
        s.assignments.flatMap fun a => (d'.writeExpr a.value).marks :=
      List.flatMap_congr fun a _ => hm (.expr a.value)
    show (d.writeUpdate s).marks = (d'.writeUpdate s).marks
    rw [marks_writeUpdate, marks_writeUpdate, hvalues, hexprs]
  | delete s =>
    show (d.writeDelete s).marks = (d'.writeDelete s).marks
    rw [marks_writeDelete, marks_writeDelete, hexprs]

end Dialect

end Congruence

end PolySql
