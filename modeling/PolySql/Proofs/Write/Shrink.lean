import PolySql.Proofs.Settle.Idle
import PolySql.Proofs.Write.Emission
import PolySql.Proofs.Write.Select

namespace PolySql

open Emission Text

structure Emission.Shrinks (p : String) (kept : Prop) (a b : Emission) : Prop where
  eq_of_kept : kept → b = a
  lt_of_not : ¬ kept → (b.sql p).length < (a.sql p).length

namespace Emission.Shrinks

variable {p : String} {c c' : Prop} {a b a' b' : Emission}

theorem length_le (h : Shrinks p c a b) : (b.sql p).length ≤ (a.sql p).length := by
  by_cases hc : c
  · exact Nat.le_of_eq (congrArg (fun e => (sql p e).length) (h.eq_of_kept hc))
  · exact Nat.le_of_lt (h.lt_of_not hc)

theorem refl (a : Emission) : Shrinks p True a a :=
  ⟨fun _ => rfl, fun h => (h trivial).elim⟩

theorem append (h : Shrinks p c a b) (h' : Shrinks p c' a' b') :
    Shrinks p (c ∧ c') (a ++ a') (b ++ b') := by
  constructor
  · rintro ⟨hc, hc'⟩
    rw [h.eq_of_kept hc, h'.eq_of_kept hc']
  · intro hn
    have hle := h.length_le
    have hle' := h'.length_le
    rw [sql_append, sql_append, String.length_append, String.length_append]
    by_cases hc : c
    · have hlt := h'.lt_of_not fun hc' => hn ⟨hc, hc'⟩
      omega
    · have hlt := h.lt_of_not hc
      omega

theorem congruence (p : String) : Congruence (fun _ => True) (Shrinks p) where
  nil := refl _
  lit _ := refl _
  fault := refl _
  append := append

end Emission.Shrinks

namespace Dialect

variable (d : Dialect) (p : String) {caps : Capabilities}

theorem boundsRelated_refl (o : Option PageBound) : BoundsRelated (Shrinks p) True o o := by
  cases o with
  | none => exact .none
  | some x => exact .some rfl (fun _ _ => trivial) (.refl _) (.refl _)

theorem shrinks_writePaged {s : Select} {kept : Prop} {a b : Emission} (h : Shrinks p kept a b) :
    Shrinks p kept
      (d.writePaged a (d.writeTrailingLock s.lock) (d.writeBound s.limit) (d.writeBound s.offset))
      (d.writePaged b (d.writeTrailingLock s.lock) (d.writeBound s.limit) (d.writeBound s.offset)) :=
  Congruence.congr (by simp) (writePaged_congr (Shrinks.congruence p)
    (words_true (Shrinks.congruence p)) (boundsRelated_refl p _) (boundsRelated_refl p _) (.refl _) h)

theorem writeOrderBy_length_pos {s : Select} (h : s.orders ≠ []) :
    0 < ((d.writeOrderBy s).sql p).length := by
  obtain ⟨o, os, ho⟩ := List.exists_cons_of_ne_nil h
  unfold writeOrderBy clause
  rw [ho, List.map_cons, if_neg (by simp), sql_append, sql_lit, String.length_append]
  have hk : 0 < (" ORDER BY " : String).length := by decide
  omega

end Dialect

namespace Node

variable (d : Dialect) (p : String) (caps : Capabilities)

def WritesNoIdleOrder (n : Node) : Prop :=
  n.Throughout written (¬ HasIdleOrder caps ·)

variable {caps} in
theorem writesNoIdleOrder_iff {n : Node} :
    n.WritesNoIdleOrder caps ↔
      ¬ n.HasIdleOrder caps ∧ ∀ m ∈ n.written, m.WritesNoIdleOrder caps :=
  throughout_iff

variable {caps} in
theorem forall_written_iff {n : Node} (h : ¬ n.HasIdleOrder caps) :
    (∀ m ∈ n.written, m.WritesNoIdleOrder caps) ↔ n.WritesNoIdleOrder caps := by
  rw [writesNoIdleOrder_iff (n := n)]
  exact (and_iff_right h).symm

theorem shrinks_write (n : Node) :
    Shrinks p (n.WritesNoIdleOrder caps) (n.write d)
      ((n.transform (Select.dropIdleOrder caps)).write d) := by
  induction n using Node.induct with
  | step n ih =>
    have hR := Shrinks.congruence p
    have hT := Dialect.words_true (d := d) hR
    have hf := Expr.keepsShape_transform (Select.dropIdleOrder caps)
    cases n with
    | expr e =>
      show Shrinks p _ (d.writeExpr e) (d.writeExpr (e.transform _))
      rw [e.transform_eq]
      have hm (m : Node) (hm : m ∈ e.written) := ih m (written_subset_parts (.expr e) hm)
      refine Congruence.congr ?_ (Dialect.writeExpr_mapParts hR hT hf (.inl trivial)
        (fun _ => .refl _)
        (namesIn_true d _) hm)
      exact forall_written_iff (n := .expr e) id
    | table t =>
      show Shrinks p _ (d.writeTable t) (d.writeTable (t.transform _))
      rw [t.transform_eq]
      refine Congruence.congr ?_ (Dialect.writeTable_mapParts hR hT (f := Expr.transform _)
        (g := TableRef.transform _) (namesIn_true d _) ih)
      exact forall_written_iff (n := .table t) id
    | select s =>
      have hm := fun m hm => ih m (mem_children_of_mem_parts hm)
      show Shrinks p _ (d.writeSelect s) (d.writeSelect (s.transform _ true))
      rw [s.transform_eq, Select.dropIdleOrder_mapParts, d.writeSelect_eq, d.writeSelect_eq]
      by_cases hidle : s.hasIdleOrder caps = true
      · have hdrop : s.dropIdleOrder caps true = s.clearOrders := by
          unfold Select.hasIdleOrder at hidle
          unfold Select.dropIdleOrder
          simp only [Bool.and_eq_true] at hidle
          rw [hidle.1.1, hidle.1.2]
          rfl
        have horders : s.orders ≠ [] := by
          simp only [Select.hasIdleOrder, Bool.and_eq_true, Bool.not_eq_true',
            List.isEmpty_eq_false_iff] at hidle
          exact hidle.2
        have hbody := (Dialect.writeBody_mapParts hR hT hf (namesIn_true d _) hm).length_le
        have hpos := d.writeOrderBy_length_pos p horders
        have hlost : ¬ (select s).WritesNoIdleOrder caps := fun h => (writesNoIdleOrder_iff.1 h).1 hidle
        rw [hdrop]
        refine d.shrinks_writePaged p (s := s) ⟨fun h => (hlost h).elim, fun _ => ?_⟩
        show ((d.writeBody (s.mapParts _ _) ++ []).sql p).length < _
        rw [List.append_nil, sql_append, String.length_append]
        omega
      · rw [Select.dropIdleOrder_of_hasIdleOrder (by simpa using hidle)]
        refine d.shrinks_writePaged p (s := s) (Congruence.congr ?_
          (Dialect.writeCore_mapParts hR hT hf (namesIn_true d _) hm))
        exact forall_written_iff (n := .select s) hidle

end Node

end PolySql
