import PolySql.Proofs.Settle.Statement

namespace PolySql

open Select

variable {caps : Capabilities} {catalog : Catalog} {c : Node → Prop}

namespace Node

structure IsKept (caps : Capabilities) (catalog : Catalog) (c : Node → Prop) : Prop where
  expr (e : Expr) : c (.expr e) → c (.expr (e.transform (settleStep caps catalog)))
  table (t : TableRef) : c (.table t) → c (.table (t.transform (settleStep caps catalog)))
  select (s : Select) : c (.select s) →
    c (.select (s.mapParts (Expr.transform (settleStep caps catalog))
      (TableRef.transform (settleStep caps catalog))))
  step (nested : Bool) (s : Select) : (Node.select s).Throughout children c →
    (Node.select (settleStep caps catalog nested s)).Throughout children c

structure AllowsKeys (c : Node → Prop) : Prop where
  number (n : Int64) : c (.expr (.value (.int n)))
  among (key : Expr) (q : Select) : c (.expr (.inSubquery key q false))
  keys (f : RowFilter) (schema : Option String) (table : String) (key : Expr) :
    c (.select (f.keySelect schema table key))

variable {n : Node}

theorem IsKept.transform (hc : IsKept caps catalog c) (h : n.Throughout children c) :
    (n.transform (settleStep caps catalog)).Throughout children c :=
  throughout_transform hc.expr hc.table hc.select hc.step h

theorem IsKept.transformRoot (hc : IsKept caps catalog c) (h : n.Throughout children c) :
    (n.transformRoot (settleStep caps catalog)).Throughout children c :=
  throughout_transformRoot hc.expr hc.table hc.select hc.step h

section Restrict
variable {f f' : RowFilter} {statement table : String} {schema : Option String}
  (hk : AllowsKeys c) (ht : c (.table (.table schema table none)))
  (hw : ∀ e ∈ f.wheres, (Node.expr e).Throughout children c)
  (hl : ∀ n ∈ f.limits, n.Throughout children c)
include hk ht hw hl

theorem AllowsKeys.keySelect {key : Expr} (hkey : f.key = some key) :
    (Node.select ((f.withNeededLimit caps).keySelect schema table key)).Throughout children c := by
  refine RowFilter.throughout_keySelect (hk.keys _ _ _ _) ht ?_ ?_
    (RowFilter.key_withNeededLimit.trans hkey)
  · rwa [RowFilter.wheres_withNeededLimit]
  · exact RowFilter.limits_withNeededLimit (fun n => throughout_of_eq_nil rfl (hk.number n)) hl

theorem IsKept.restrict (hc : IsKept caps catalog c)
    (h : f.restrict caps catalog statement schema table = .ok f') :
    ∀ e ∈ f'.wheres, (Node.expr e).Throughout children c := by
  rcases RowFilter.restrict_cases h with ⟨rfl, -⟩ | ⟨key, hkey, -, rfl⟩
  · exact RowFilter.wheres_withNeededLimit (f := f) ▸ hw
  · have hselect : (Node.select ((f.withNeededLimit caps).keySelect schema table key)).Throughout
        children c :=
      hk.keySelect ht hw hl hkey
    have hplain : (Node.expr key).Throughout children c :=
      (Select.forall_parts.1 (List.forall_mem_append.1 (throughout_iff.1 hselect).2).1).1 _
        (List.mem_singleton_self _)
    refine List.forall_mem_singleton.2 (.intro (hk.among _ _) (List.forall_mem_cons.2 ⟨hplain, ?_⟩))
    exact List.forall_mem_singleton.2 (hc.transformRoot hselect)

end Restrict

theorem IsKept.settle (hc : IsKept caps catalog c) (hk : AllowsKeys c) {s t : Statement}
    (ht : c (.table (.table s.target.2.1 s.target.2.2 none)))
    (h : ∀ n ∈ s.trees, n.Throughout children c) (hs : s.settle caps catalog = .ok t) :
    ∀ n ∈ t.roots, n.Throughout children c := by
  obtain ⟨hroots, hlimits⟩ := List.forall_mem_append.1 h
  obtain ⟨hvalues, hwheres⟩ := List.forall_mem_append.1 hroots
  obtain ⟨hv, hr⟩ := Statement.of_settle_eq_ok hs
  refine List.forall_mem_append.2 ⟨?_, List.forall_mem_map.2 ?_⟩
  · rw [hv, List.forall_mem_map]
    exact fun n hn => hc.transformRoot (hvalues n hn)
  · refine IsKept.restrict (f := s.rows.mapWheres _) hk ht ?_ hlimits hc hr
    exact List.forall_mem_map.2 fun e he => hc.transform (hwheres _ (List.mem_map_of_mem he))

end Node

end PolySql
