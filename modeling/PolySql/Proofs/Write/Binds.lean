import PolySql.Proofs.Write.Marks
import PolySql.Proofs.Write.Select

namespace PolySql

open Emission

namespace Emission

theorem binds_flatMap {α : Type} (xs : List α) (f : α → Emission) :
    binds (xs.flatMap f) = xs.flatMap fun x => (f x).binds := by
  induction xs with
  | nil => rfl
  | cons x xs ih => rw [List.flatMap_cons, binds_append, ih, List.flatMap_cons]

theorem binds_of_marks {α : Type} {a : Emission} {xs : List α} {f : α → Emission}
    (h : a.marks = xs.flatMap fun x => (f x).marks) : a.binds = xs.flatMap fun x => (f x).binds := by
  rw [← binds_marks, h, binds_flatMap]
  simp only [binds_marks]

theorem binds_separated (sep : String) (es : List Emission) :
    (separated sep es).binds = es.flatMap binds :=
  binds_of_marks (marks_separated sep es)

theorem congruence_unbound : Congruence (fun _ => True) fun _ a _ => a.binds = [] where
  nil := rfl
  lit _ := rfl
  fault := rfl
  append h h' := by rw [binds_append, h, h', List.append_nil]

end Emission

namespace Dialect

variable (d : Dialect)

theorem binds_clause (keyword : String) (items : List Emission) :
    (clause keyword items).binds = items.flatMap binds :=
  binds_of_marks (marks_clause keyword items)

theorem binds_writeConjunction (keyword : String) (es : List Expr) :
    (d.writeConjunction keyword es).binds = es.flatMap fun e => (d.writeExpr e).binds :=
  binds_of_marks (marks_writeConjunction keyword es)

theorem binds_writeLockHint (lock : Option Lock) : (d.writeLockHint lock).binds = [] := by
  rw [← binds_marks, marks_writeLockHint]
  rfl

variable {d} in
theorem binds_writeTrailingLock (lock : Option Lock) : (d.writeTrailingLock lock).binds = [] := by
  rw [← binds_marks, marks_writeTrailingLock]
  rfl

theorem binds_writeSource (lock : Option Lock) (t : Option TableRef) :
    (d.writeSource lock t).binds = t.elim [] fun t => (d.writeTable t).binds := by
  cases t with
  | none => rfl
  | some t => simp [writeSource, binds_append, binds_lit, binds_writeLockHint]

def joinBinds (j : Join) : List Value :=
  (d.writeTable j.table).binds ++ j.condition.elim [] fun e => (d.writeExpr e).binds

theorem binds_writeJoin (lock : Option Lock) (j : Join) :
    (d.writeJoin lock j).binds = d.joinBinds j := by
  obtain ⟨kind, t, condition⟩ := j
  cases condition <;>
    simp [writeJoin, joinBinds, writeOption, binds_append, binds_lit, binds_writeLockHint]

theorem binds_writeJoins (lock : Option Lock) (js : List Join) :
    (d.writeJoins lock js).binds = js.flatMap d.joinBinds := by
  simp only [writeJoins_eq, binds_flatMap, binds_writeJoin]

theorem binds_writeProjection (p : Projection) :
    (d.writeProjection p).binds = (d.writeExpr p.expr).binds := by
  rw [← binds_marks, marks_writeProjection, binds_marks]

theorem binds_writeOrder (o : Order) : (d.writeOrder o).binds = (d.writeExpr o.expr).binds := by
  rw [← binds_marks, marks_writeOrder, binds_marks]

theorem binds_writeBody (s : Select) :
    (d.writeBody s).binds =
      (s.projections.flatMap fun p => (d.writeExpr p.expr).binds) ++
        (s.source.elim [] fun t => (d.writeTable t).binds) ++ s.joins.flatMap d.joinBinds ++
        (s.wheres.flatMap fun e => (d.writeExpr e).binds) ++
        (s.groups.flatMap fun e => (d.writeExpr e).binds) ++
        s.havings.flatMap fun e => (d.writeExpr e).binds := by
  have hfault : Emission.binds (if s.projections.isEmpty then [.fault .noProjection] else []) = [] := by
    cases s.projections <;> rfl
  unfold writeBody
  simp only [binds_append, hfault, binds_lit, List.nil_append, binds_separated, binds_writeSource,
    binds_writeJoins, binds_writeConjunction, binds_clause, List.flatMap_map, binds_writeProjection]

theorem binds_writeOrderBy (s : Select) :
    (d.writeOrderBy s).binds = s.orders.flatMap fun o => (d.writeExpr o.expr).binds := by
  simp only [writeOrderBy, binds_clause, List.flatMap_map, binds_writeOrder]

theorem binds_writeSelect_of_offsetFetch (hd : d.capabilities.paging = .offsetFetch) (s : Select) :
    (d.writeSelect s).binds = (d.writeBody s).binds ++ (d.writeOrderBy s).binds ++
      (writeOffsetFetch (d.writeBound s.limit) (d.writeBound s.offset)).binds := by
  rw [writeSelect_eq]
  simp only [writePaged, writePaging, hd, binds_append, binds_writeTrailingLock, List.append_nil]

end Dialect

namespace Node

def IsUnbound : Node → Prop
  | .expr (.bind _) => False
  | .expr (.raw _ binds) => binds = []
  | .expr _ | .table _ | .select _ => True

variable {d : Dialect} {n : Node}

theorem binds_interleave_nil (segments : List String) : (interleave segments []).binds = [] := by
  cases segments with
  | nil => rfl
  | cons s rest => cases rest <;> rfl

theorem binds_leaf_eq_nil {e : Expr} (h : (expr e).IsUnbound) (hleaf : e.isLeaf = true) :
    (d.writeExpr e).binds = [] := by
  cases e with
  | value v => rfl
  | bind v => exact h.elim
  | column t n => cases t <;> simp [Dialect.writeExpr, Dialect.writeQualifier, binds_append, binds_lit]
  | wildcard t => cases t <;> simp [Dialect.writeExpr, Dialect.writeQualifier, binds_append, binds_lit]
  | raw text binds =>
    obtain rfl : binds = [] := h
    unfold Dialect.writeExpr fragment
    split
    · exact binds_interleave_nil _
    · rfl
  | _ => cases hleaf

theorem binds_write_eq_nil (h : n.Throughout children IsUnbound) : (n.write d).binds = [] := by
  have hR := congruence_unbound
  have hT := Dialect.words_true (d := d) hR
  induction h with
  | @intro n h _ ih =>
    cases n with
    | expr e =>
      exact Dialect.writeExpr_mapParts (c := fun _ => True) (f := id) (g := id) (h := id) hR hT
        Expr.keepsShape_id (.inl trivial) (binds_leaf_eq_nil h) (namesIn_true d _)
        fun m hm => ih m (written_subset_parts (.expr e) hm)
    | table t =>
      exact Dialect.writeTable_mapParts (c := fun _ => True) (f := id) (g := id) (h := id) hR hT
        (namesIn_true d _) ih
    | select s =>
      obtain ⟨hp, hbounds⟩ := List.forall_mem_append.1 ih
      obtain ⟨hl, ho⟩ := Select.forall_bounds.1 hbounds
      show (d.writeSelect s).binds = []
      rw [d.writeSelect_eq]
      exact Dialect.writePaged_congr (p := True) (b := []) hR hT
        (Dialect.boundsRelated_writeBound (c := fun _ => True) hR hT Expr.keepsShape_id
          (fun _ => rfl) (fun _ _ _ _ => trivial) hl)
        (Dialect.boundsRelated_writeBound (c := fun _ => True) hR hT Expr.keepsShape_id
          (fun _ => rfl) (fun _ _ _ _ => trivial) ho)
        (Dialect.writeTrailingLock_congr hR hT fun _ _ => trivial)
        (Dialect.writeCore_mapParts (c := fun _ => True) (f := id) (g := id) (h := id) hR hT
          Expr.keepsShape_id (namesIn_true d _) hp)

end Node

end PolySql
