import PolySql.Proofs.Compile.Again
import PolySql.Proofs.Settle.Kept
import PolySql.Proofs.Settle.OrderClause
import PolySql.Proofs.Settle.Width
import PolySql.Proofs.Write.Faultless

namespace PolySql

open Select

variable {caps : Capabilities} {catalog : Catalog}

theorem Select.projections_settleStep_ne_nil {nested : Bool} {s : Select} (h : s.projections ≠ []) :
    (settleStep caps catalog nested s).projections ≠ [] := by
  have hprepared : (s.prepared caps catalog nested).projections ≠ [] := by
    rw [projections_prepared, probeWithTop_eq]
    dsimp only
    split
    · exact List.cons_ne_nil _ _
    · exact h
  rw [settleStep_eq, projectDistinctOrders_eq]
  dsimp only
  split
  · exact List.append_ne_nil_of_right_ne_nil _ hprepared
  · exact hprepared

namespace Node

theorem isValid_of_added {s : Select} {e : Expr} (h : s.Added caps catalog e)
    (ho : ∀ o ∈ s.orders, (expr o.expr).IsValid) : (expr e).IsValid := by
  cases h with
  | top n _ _ =>
    show Text.placeholderCount topOne = 1
    decide
  | key _ h =>
    obtain ⟨qualifier, column, he⟩ := orderedBy_keyOrder h
    rw [he]
    trivial
  -- Neither a direction nor a rule for NULL holds a placeholder, so the binds are as many as before.
  | @bare text binds o _ _ hm hx =>
    have hcount : Text.placeholderCount text = binds.length := by
      have hvalid := ho o hm
      rw [hx] at hvalid
      exact hvalid
    exact (OrderText.placeholderCount_bare text).trans hcount

theorem isValid_settleStep (nested : Bool) (s : Select)
    (h : (select s).Throughout children IsValid) :
    (select (settleStep caps catalog nested s)).Throughout children IsValid := by
  obtain ⟨hs, hm⟩ := throughout_iff.1 h
  refine throughout_settleStep (projections_settleStep_ne_nil hs) (fun e he => ?_) trivial hm
  refine isValid_of_added he fun o ho => ?_
  have hparts := (List.forall_mem_append.1 hm).1
  exact (throughout_iff.1 ((Select.forall_parts.1 hparts).2.2.2.2.2.2 o ho)).1

theorem isValid_transform_expr (e : Expr) (h : (expr e).IsValid) :
    (expr (e.transform (settleStep caps catalog))).IsValid := by
  rw [e.transform_eq]
  cases e with
  | raw text binds => exact h
  | _ => trivial

theorem isValid_mapParts (s : Select) (h : (select s).IsValid) :
    (select (s.mapParts (Expr.transform (settleStep caps catalog))
      (TableRef.transform (settleStep caps catalog)))).IsValid := by
  have hp : s.projections ≠ [] := h
  exact mt List.map_eq_nil_iff.1 hp

theorem isKept_isValid : IsKept caps catalog IsValid where
  expr := isValid_transform_expr
  table _ _ := trivial
  select := isValid_mapParts
  step := isValid_settleStep

theorem allowsKeys_isValid : AllowsKeys IsValid where
  number _ := trivial
  among _ _ := trivial
  keys _ _ _ _ := List.cons_ne_nil _ _

end Node

namespace Statement

structure IsValid (caps : Capabilities) (s : Statement) : Prop where
  trees : ∀ n ∈ s.trees, n.Throughout Node.children Node.IsValid
  filled : s.IsFilled
  keyed : s.rows.NeedsKey caps → s.rows.key.isSome

variable {s t : Statement}

theorem isFilled_withRows {r : RowFilter} : (s.withRows r).IsFilled ↔ s.IsFilled := by
  cases s <;> exact Iff.rfl

theorem isFilled_mapRoots {f : Expr → Expr} {h : Select → Select} (hs : s.IsFilled) :
    (s.mapRoots f h).IsFilled := by
  cases s with
  | select s | delete s => trivial
  | update s => exact mt List.map_eq_nil_iff.1 hs
  | insert s =>
    obtain ⟨schema, table, columns, source, returning⟩ := s
    cases source with
    | query q | defaults => trivial
    | rows rs =>
      refine ⟨mt List.map_eq_nil_iff.1 hs.1, fun hc => List.forall_mem_map.2 fun row hr => ?_⟩
      rw [List.length_map]
      exact hs.2 hc row hr

theorem IsValid.of_settle (hs : s.IsValid caps) (h : s.settle caps catalog = .ok t) :
    t.IsFilled ∧ ∀ n ∈ t.roots, n.Throughout Node.children Node.IsValid := by
  obtain ⟨r, -, rfl⟩ := exists_rows_of_settle h
  refine ⟨isFilled_withRows.2 (isFilled_mapRoots hs.filled), ?_⟩
  exact Node.isKept_isValid.settle Node.allowsKeys_isValid trivial hs.trees h

end Statement

theorem exists_compile_of_isValid {d : Dialect} {s : Statement} (h : s.IsValid d.capabilities) :
    ∃ c, compile d catalog s = .ok c := by
  obtain ⟨t, ht⟩ : ∃ t, s.settle d.capabilities catalog = .ok t := Statement.exists_settle h.keyed
  obtain ⟨hfilled, hroots⟩ := h.of_settle ht
  have hwritten : (d.writeStatement t).IsFaultless :=
    Dialect.isFaultless_writeStatement hfilled fun n hn => Node.isFaultless_write (hroots n hn)
  rw [compile_of_settle ht, Emission.finish_of_isFaultless _ hwritten]
  exact ⟨_, rfl⟩

def rankedNames : Statement :=
  .select
    { Select.ofTable (.table none "t" none) with
      distinct := true
      projections := [⟨.column none "name", none⟩]
      wheres := [.raw "kind = ? AND note <> '?'" [.int 1]]
      orders := [⟨.raw "LEFT(name, ?) desc nulls last" [.int 2], .asc, none⟩]
      limit := some (.bind (.int 10)) }

theorem isValid_rankedNames : rankedNames.IsValid SqlServer.capabilities where
  trees := by
    have hleaf {e : Expr} (hp : e.parts = []) (he : (Node.expr e).IsValid) :
        (Node.expr e).Throughout Node.children Node.IsValid :=
      Node.throughout_of_eq_nil hp he
    refine List.forall_mem_singleton.2 (.intro (List.cons_ne_nil _ _) ?_)
    refine List.forall_mem_append.2 ⟨?_, List.forall_mem_singleton.2 (hleaf rfl trivial)⟩
    have hname := hleaf (e := .column none "name") rfl trivial
    have htable : (Node.table (.table none "t" none)).Throughout Node.children Node.IsValid :=
      Node.throughout_of_eq_nil rfl trivial
    have hkind := hleaf (e := .raw "kind = ? AND note <> '?'" [.int 1]) rfl
      (show Text.placeholderCount _ = 1 by decide)
    have hrank := hleaf (e := .raw "LEFT(name, ?) desc nulls last" [.int 2]) rfl
      (show Text.placeholderCount _ = 1 by decide)
    exact List.forall_mem_cons.2 ⟨hname, List.forall_mem_cons.2 ⟨htable, List.forall_mem_cons.2
      ⟨hkind, List.forall_mem_singleton.2 hrank⟩⟩⟩
  filled := trivial
  keyed := by
    rintro (h | h | h)
    · cases h
    · cases h
    · exact absurd rfl h.2

theorem exists_compile_of_isValid_rankedNames :
    ∃ c, compile SqlServer.dialect ⟨fun _ => ["id"], fun _ => []⟩ rankedNames = .ok c :=
  exists_compile_of_isValid isValid_rankedNames

end PolySql
