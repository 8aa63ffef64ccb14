import PolySql.Proofs.Settle.Statement

namespace PolySql

open Select

variable {caps : Capabilities} {catalog catalog' : Catalog}

structure Catalog.AgreeAt (catalog catalog' : Catalog) (table : String) : Prop where
  primaryKeys_eq : catalog.primaryKeys table = catalog'.primaryKeys table
  columns_eq : catalog.columns table = catalog'.columns table

theorem Catalog.AgreeAt.orderingColumn? {table : String} (h : catalog.AgreeAt catalog' table) :
    catalog.orderingColumn? table = catalog'.orderingColumn? table := by
  rw [Catalog.orderingColumn?, Catalog.orderingColumn?, h.primaryKeys_eq, h.columns_eq]

theorem keyOrder?_congr {source : Option TableRef}
    (h : ∀ t ∈ source, ∀ name ∈ t.catalogName?, catalog.AgreeAt catalog' name.1) :
    keyOrder? catalog source = keyOrder? catalog' source := by
  cases source with
  | none => rfl
  | some t =>
    simp only [keyOrder?, Option.bind_eq_bind, Option.bind_some]
    refine Option.bind_congr fun name hname => ?_
    rw [(h t rfl name hname).orderingColumn?]

namespace Select

variable {s : Select} {nested : Bool}

theorem settleStep_congr (h : keyOrder? catalog s.source = keyOrder? catalog' s.source) :
    settleStep caps catalog nested s = settleStep caps catalog' nested s := by
  have hsource : ((s.dropIdleOrder caps nested).probeWithTop caps).source = s.source := by
    rw [probeWithTop_eq, dropIdleOrder_eq]
  rw [settleStep, settleStep, orderPaging_eq, orderPaging_eq, hsource, h]

end Select

namespace Node

def SameKey (catalog catalog' : Catalog) : Node → Prop
  | .select s => keyOrder? catalog s.source = keyOrder? catalog' s.source
  | .expr _ | .table _ => True

theorem select_transform_congr {s : Select} (hs : SameKey catalog catalog' (.select s))
    (hm : ∀ m ∈ s.parts,
      m.transform (settleStep caps catalog) = m.transform (settleStep caps catalog'))
    (nested : Bool) :
    s.transform (settleStep caps catalog) nested = s.transform (settleStep caps catalog') nested := by
  rw [s.transform_eq, s.transform_eq, Select.mapParts_congr hm]
  refine settleStep_congr ?_
  exact (keyOrder?_transform s.source).trans (hs.trans (keyOrder?_transform s.source).symm)

theorem transform_congr {n : Node} (h : n.Throughout children (SameKey catalog catalog')) :
    n.transform (settleStep caps catalog) = n.transform (settleStep caps catalog') := by
  induction n using Node.induct with
  | step n ih =>
    obtain ⟨hn, hm⟩ := throughout_iff.1 h
    have hparts := fun m hmem =>
      ih m (mem_children_of_mem_parts hmem) (hm m (mem_children_of_mem_parts hmem))
    cases n with
    | expr e =>
      show expr (e.transform _) = expr (e.transform _)
      rw [e.transform_eq, e.transform_eq]
      exact congrArg expr (Expr.mapParts_congr hparts)
    | table t =>
      show table (t.transform _) = table (t.transform _)
      rw [t.transform_eq, t.transform_eq]
      exact congrArg table (TableRef.mapParts_congr hparts)
    | select s => exact congrArg select (select_transform_congr hn hparts true)

theorem transformRoot_congr {n : Node} (h : n.Throughout children (SameKey catalog catalog')) :
    n.transformRoot (settleStep caps catalog) = n.transformRoot (settleStep caps catalog') := by
  cases n with
  | expr e => exact transform_congr h
  | table t => exact transform_congr h
  | select s =>
    obtain ⟨hs, hm⟩ := throughout_iff.1 h
    refine congrArg select (select_transform_congr hs (fun m hmem => ?_) false)
    exact transform_congr (hm m (List.mem_append_left _ hmem))

theorem sameKey_transform {known : Catalog} {n : Node}
    (h : n.Throughout children (SameKey catalog catalog')) :
    (n.transform (settleStep caps known)).Throughout children (SameKey catalog catalog') := by
  refine throughout_transform (fun _ _ => trivial) (fun _ _ => trivial) ?_ ?_ h
  · intro s hs
    exact (keyOrder?_transform s.source).trans (hs.trans (keyOrder?_transform s.source).symm)
  · intro nested s hs
    obtain ⟨hs, hm⟩ := throughout_iff.1 hs
    refine throughout_settleStep ?_ (fun _ _ => trivial) trivial hm
    rw [SameKey, settleStep_keeps]
    exact hs

end Node

namespace RowFilter

variable {f : RowFilter} {statement table : String} {schema : Option String}

theorem restrict_congr (htable : catalog.AgreeAt catalog' table)
    (hw : ∀ e ∈ f.wheres, (Node.expr e).Throughout Node.children (Node.SameKey catalog catalog'))
    (hl : ∀ n ∈ f.limits, n.Throughout Node.children (Node.SameKey catalog catalog')) :
    f.restrict caps catalog statement schema table =
      f.restrict caps catalog' statement schema table := by
  have hwheres : ∀ e ∈ (f.withNeededLimit caps).wheres,
      (Node.expr e).Throughout Node.children (Node.SameKey catalog catalog') := by
    rwa [wheres_withNeededLimit]
  unfold restrict
  dsimp only
  split
  · rfl
  · split
    · rfl
    · rename_i key hkey
      have hsource : Node.SameKey catalog catalog'
          (.select ((f.withNeededLimit caps).keySelect schema table key)) := by
        refine keyOrder?_congr ?_
        rintro t ⟨⟩ name ⟨⟩
        exact htable
      have hthroughout := throughout_keySelect hsource trivial hwheres
        (limits_withNeededLimit (fun _ => Node.throughout_of_eq_nil rfl trivial) hl) hkey
      have hsettle :
          ((f.withNeededLimit caps).keySelect schema table key).settle caps catalog false =
            ((f.withNeededLimit caps).keySelect schema table key).settle caps catalog' false :=
        Node.select.inj (Node.transformRoot_congr hthroughout)
      rw [hsettle]

end RowFilter

namespace Statement

inductive Asks (s : Statement) : String → Prop
  | source {n : Node} {q : Select} {t : TableRef} {name : String × String} : n ∈ s.trees →
    n.Reaches Node.children (.select q) → t ∈ q.source → t.catalogName? = some name → Asks s name.1
  | updated {u : Update} : s = .update u → Asks s u.table
  | deleted {u : Delete} : s = .delete u → Asks s u.table

def AgreeOn (s : Statement) (catalog catalog' : Catalog) : Prop :=
  ∀ table, s.Asks table → catalog.AgreeAt catalog' table

variable {s : Statement}

theorem AgreeOn.sameKey (h : s.AgreeOn catalog catalog') {n : Node} (hn : n ∈ s.trees) :
    n.Throughout Node.children (Node.SameKey catalog catalog') := by
  refine (Node.throughout_reaches (fun _ => List.Subset.refl _) n).imp fun m hm => ?_
  cases m with
  | expr e => trivial
  | table t => trivial
  | select q => exact keyOrder?_congr fun t ht name hname => h _ (.source hn hm ht hname)

theorem settle_congr (h : s.AgreeOn catalog catalog') :
    s.settle caps catalog = s.settle caps catalog' := by
  obtain ⟨hroots, hlimits⟩ := List.forall_mem_append.1 fun n (hn : n ∈ s.trees) => h.sameKey hn
  obtain ⟨-, hwheres⟩ := List.forall_mem_append.1 hroots
  rw [List.forall_mem_map] at hwheres
  have hmap : s.mapRoots (Expr.transform (settleStep caps catalog))
        (Select.transform (settleStep caps catalog) false) =
      s.mapRoots (Expr.transform (settleStep caps catalog'))
        (Select.transform (settleStep caps catalog') false) :=
    mapRoots_congr fun n hn => Node.transformRoot_congr (hroots n hn)
  have hrows : ∀ e ∈ (s.rows.mapWheres (Expr.transform (settleStep caps catalog'))).wheres,
      (Node.expr e).Throughout Node.children (Node.SameKey catalog catalog') :=
    List.forall_mem_map.2 fun e he => Node.sameKey_transform (hwheres e he)
  rw [settle_eq, settle_eq, hmap]
  dsimp only
  rw [rows_mapRoots]
  cases s with
  | select q => rfl
  | insert i => rfl
  | update u =>
    exact congrArg (Except.map _) (RowFilter.restrict_congr (h _ (.updated rfl)) hrows hlimits)
  | delete u =>
    exact congrArg (Except.map _) (RowFilter.restrict_congr (h _ (.deleted rfl)) hrows hlimits)

end Statement

end PolySql
