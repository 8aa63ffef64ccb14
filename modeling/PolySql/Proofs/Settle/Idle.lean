import PolySql.Proofs.Settle.Statement

namespace PolySql

variable {caps : Capabilities} {catalog : Catalog}

namespace Select

variable {s : Select}

def hasIdleOrder (caps : Capabilities) (s : Select) : Bool :=
  !caps.orderedSubqueries && !s.isPaged && !s.orders.isEmpty

def isOrderedProbe (s : Select) : Bool :=
  s.isProbe && s.limit.isSome && !s.orders.isEmpty

def losesOrder (caps : Capabilities) (s : Select) : Bool :=
  caps.topExistsCheck && !caps.orderedSubqueries && s.isOrderedProbe

theorem dropIdleOrder_of_hasIdleOrder (h : s.hasIdleOrder caps = false) (nested : Bool) :
    s.dropIdleOrder caps nested = s := by
  unfold dropIdleOrder
  split
  · rename_i hc
    simp only [Bool.and_eq_true] at hc
    have ho : s.orders = [] := by
      unfold hasIdleOrder at h
      rw [hc.1.2, hc.2] at h
      simpa using h
    cases s
    dsimp only at ho
    rw [clearOrders, ho]
  · rfl

theorem hasIdleOrder_projectDistinctOrders :
    (s.projectDistinctOrders caps).hasIdleOrder caps = s.hasIdleOrder caps := by
  rw [projectDistinctOrders_eq]
  rfl

theorem hasIdleOrder_completeOffset :
    (s.completeOffset caps).hasIdleOrder caps = s.hasIdleOrder caps := by
  unfold completeOffset
  split
  · rename_i hc
    simp only [Bool.and_eq_true] at hc
    simp [hasIdleOrder, isPaged, hc.1.2]
  · rfl

theorem hasIdleOrder_orderPaging :
    (s.orderPaging caps catalog).hasIdleOrder caps = s.hasIdleOrder caps := by
  unfold orderPaging
  split
  · rename_i hc
    simp only [Bool.and_eq_true] at hc
    have hp := hc.1.1
    unfold hasIdleOrder
    rw [hp, show isPaged { s with orders := (keyOrder? catalog s.source).toList } = true from hp]
    simp
  · rfl

theorem hasIdleOrder_dropIdleOrder : (s.dropIdleOrder caps true).hasIdleOrder caps = false := by
  unfold dropIdleOrder
  split
  · simp [hasIdleOrder, clearOrders]
  · rename_i hc
    simp only [Bool.true_and] at hc
    simp [hasIdleOrder, hc]

theorem hasIdleOrder_probeWithTop (h : s.hasIdleOrder caps = false) :
    (s.probeWithTop caps).hasIdleOrder caps = s.losesOrder caps := by
  unfold probeWithTop
  split
  · rename_i hc
    rw [Bool.and_eq_true] at hc
    obtain ⟨hd, hn, hp, hl, ho⟩ := isProbe_iff.1 hc.2
    -- The limit moves into the TOP, so that the order is left without paging.
    unfold losesOrder isOrderedProbe hasIdleOrder at *
    rw [hc.1, hc.2]
    have hpaged : isPaged
        { s with
          projections := [⟨.raw topOne [.int ((s.limit.bind Expr.intValue?).getD 1)], some probeAlias⟩]
          limit := none } = false := by
      simp [isPaged, ho]
    rw [hpaged]
    cases hlim : s.limit with
    | some e => simp
    | none =>
      have hs : s.isPaged = false := by simp [isPaged, hlim, ho]
      rw [hs] at h
      simpa using h
  · rename_i hc
    rw [h]
    have hc' : (caps.topExistsCheck && s.isProbe) = false := by simpa using hc
    unfold losesOrder isOrderedProbe
    cases ht : caps.topExistsCheck with
    | false => rfl
    | true =>
      rw [ht] at hc'
      rw [show s.isProbe = false from hc']
      simp

theorem losesOrder_dropIdleOrder : (s.dropIdleOrder caps true).losesOrder caps = s.losesOrder caps := by
  unfold dropIdleOrder
  split
  · rename_i hc
    simp only [Bool.and_eq_true, Bool.not_eq_true', isPaged, Bool.or_eq_false_iff] at hc
    unfold losesOrder isOrderedProbe
    rw [hc.2.1]
    simp [clearOrders]
  · rfl

theorem hasIdleOrder_settleStep {nested : Bool}
    (h : (s.dropIdleOrder caps nested).hasIdleOrder caps = false) :
    (settleStep caps catalog nested s).hasIdleOrder caps =
      (s.dropIdleOrder caps nested).losesOrder caps := by
  unfold settleStep
  rw [hasIdleOrder_projectDistinctOrders, hasIdleOrder_completeOffset, hasIdleOrder_orderPaging,
    hasIdleOrder_probeWithTop h]

theorem hasIdleOrder_settleStep_true :
    (settleStep caps catalog true s).hasIdleOrder caps = s.losesOrder caps := by
  rw [hasIdleOrder_settleStep hasIdleOrder_dropIdleOrder, losesOrder_dropIdleOrder]

theorem losesOrder_mapParts {step : Bool → Select → Select} {g : TableRef → TableRef} :
    (s.mapParts (Expr.transform step) g).losesOrder caps = s.losesOrder caps := by
  unfold losesOrder isOrderedProbe
  rw [isProbe_mapParts]
  simp [mapParts]

theorem losesOrder_of_topExistsCheck (h : caps.topExistsCheck = false) :
    s.losesOrder caps = false := by
  simp [losesOrder, h]

end Select

namespace Node

def HasIdleOrder (caps : Capabilities) : Node → Prop
  | .select s => s.hasIdleOrder caps = true
  | .expr _ | .table _ => False

theorem transform_dropIdleOrder {n : Node} (h : n.Throughout parts (¬ HasIdleOrder caps ·)) :
    n.transform (Select.dropIdleOrder caps) = n :=
  transform_eq_self
    (fun _ hs => Select.dropIdleOrder_of_hasIdleOrder (by simpa [HasIdleOrder] using hs) true) h

section Nested
variable {c : Node → Prop} (he : ∀ e, c (.expr e)) (ht : ∀ t, c (.table t))
  (hs : ∀ s, c (.select (Select.settleStep caps catalog true s)))
include he ht hs

theorem throughout_transform_settleStep (n : Node) :
    (n.transform (Select.settleStep caps catalog)).Throughout parts c := by
  induction n using Node.induct with
  | step n ih =>
    have hm := fun m hm => ih m (mem_children_of_mem_parts hm)
    refine .intro ?_ (forall_parts_transform (fun s _ => throughout_settleStep_parts he true) hm)
    cases n with
    | expr e => exact he _
    | table t => exact ht _
    | select s =>
      rw [transform, map_select, s.transform_eq]
      exact hs _

theorem throughout_select_transform_settleStep (s : Select) (nested : Bool) :
    ∀ m ∈ (s.transform (Select.settleStep caps catalog) nested).parts, m.Throughout parts c := by
  rw [s.transform_eq]
  refine throughout_settleStep_parts he nested ?_
  exact s.forall_parts_transform _ fun m _ => throughout_transform_settleStep he ht hs m

end Nested

theorem not_hasIdleOrder_settleStep (h : caps.topExistsCheck = false) (s : Select) :
    ¬ HasIdleOrder caps (.select (Select.settleStep caps catalog true s)) := by
  simp [HasIdleOrder, Select.hasIdleOrder_settleStep_true, Select.losesOrder_of_topExistsCheck h]

end Node

namespace RowFilter

variable {schema : Option String} {table statement : String} {key : Expr} {f f' : RowFilter}

theorem hasIdleOrder_settle_keySelect (h : (f.limit.isNone && f.offset.isNone) = false) :
    ((f.keySelect schema table key).settle caps catalog false).hasIdleOrder caps = false := by
  unfold Select.settle
  rw [Select.transform_eq, Select.hasIdleOrder_settleStep, Select.dropIdleOrder_false,
    Select.losesOrder_mapParts]
  · simp [Select.losesOrder, Select.isOrderedProbe, Select.isProbe, keySelect, Select.ofTable,
      Select.empty]
  · rw [Select.dropIdleOrder_false]
    have hp : ((f.keySelect schema table key).mapParts
        (Expr.transform (Select.settleStep caps catalog))
        (TableRef.transform (Select.settleStep caps catalog))).isPaged = true := by
      show (f.limit.isSome || f.offset.isSome) = true
      rwa [← Option.not_isNone, ← Option.not_isNone, ← Bool.not_and, Bool.not_eq_true']
    simp [Select.hasIdleOrder, hp]

end RowFilter

namespace Statement

def KeepsOrders (caps : Capabilities) (s : Statement) : Prop :=
  ∀ n ∈ s.roots, ∀ m ∈ n.parts, m.Throughout Node.parts (¬ Node.HasIdleOrder caps ·)

theorem KeepsOrders.dropIdleOrders {s : Statement} (h : s.KeepsOrders caps) :
    s.dropIdleOrders caps = s := by
  refine .trans (mapRoots_congr (g := id) (k := id) fun n hn => ?_) (mapRoots_id s)
  have hm := h n hn
  rw [Node.map_id]
  cases n with
  | expr e => exact Node.transform_dropIdleOrder (.intro id hm)
  | table t => rfl
  | select s =>
    have hparts (m : Node) (hmem : m ∈ s.parts) :
        m.map (Expr.transform (Select.dropIdleOrder caps))
          (TableRef.transform (Select.dropIdleOrder caps))
          (Select.transform (Select.dropIdleOrder caps) true) = m.map id id id := by
      rw [Node.map_id]
      exact Node.transform_dropIdleOrder (hm m hmem)
    show Node.select (s.transform _ false) = .select s
    rw [s.transform_eq, Select.dropIdleOrder_false, Select.mapParts_congr hparts, s.mapParts_id]

section Nested
variable {c : Node → Prop} (he : ∀ e, c (.expr e)) (ht : ∀ t, c (.table t))
  (hs : ∀ s, c (.select (Select.settleStep caps catalog true s)))
  (hk : ∀ (f : RowFilter) (schema : Option String) (table : String) (key : Expr),
    (f.limit.isNone && f.offset.isNone) = false →
      c (.select ((f.keySelect schema table key).settle caps catalog false)))
include he ht hs hk

theorem throughout_nested_restrict {f f' : RowFilter} {statement table : String}
    {schema : Option String} (hkey : f.HasPlainKey)
    (h : (f.mapWheres (Expr.transform (Select.settleStep caps catalog))).restrict caps catalog
      statement schema table = .ok f') :
    ∀ e ∈ f'.wheres, (Node.expr e).Throughout Node.parts c := by
  rcases RowFilter.restrict_cases h with ⟨rfl, -⟩ | ⟨key, hkeyed, hc, rfl⟩
  · show ∀ e ∈ (RowFilter.withNeededLimit caps _).wheres, _
    rw [RowFilter.wheres_withNeededLimit]
    exact List.forall_mem_map.2 fun e _ => Node.throughout_transform_settleStep he ht hs (.expr e)
  · refine List.forall_mem_singleton.2 (.intro (he _) ?_)
    refine List.forall_mem_cons.2 ⟨?_, List.forall_mem_singleton.2 (.intro (hk _ _ _ _ hc) ?_)⟩
    · exact Node.throughout_of_isNotSelect (fun _ _ => Node.mem_children_of_mem_parts) he ht
        (hkey key hkeyed)
    · exact Node.throughout_select_transform_settleStep he ht hs _ false

theorem throughout_nested_settle {s t : Statement} (hkey : s.rows.HasPlainKey)
    (h : s.settle caps catalog = .ok t) :
    ∀ n ∈ t.roots, ∀ m ∈ n.parts, m.Throughout Node.parts c := by
  obtain ⟨hv, hr⟩ := of_settle_eq_ok h
  refine List.forall_mem_append.2 ⟨?_, List.forall_mem_map.2 fun e hmem => ?_⟩
  · rw [hv, List.forall_mem_map]
    intro n _
    cases n with
    | expr e =>
      exact (Node.throughout_iff.1 (Node.throughout_transform_settleStep he ht hs (.expr e))).2
    | table t =>
      exact (Node.throughout_iff.1 (Node.throughout_transform_settleStep he ht hs (.table t))).2
    | select s => exact Node.throughout_select_transform_settleStep he ht hs s false
  · exact (Node.throughout_iff.1 (throughout_nested_restrict he ht hs hk hkey hr e hmem)).2

end Nested

theorem keepsOrders_settle {s t : Statement} (htop : caps.topExistsCheck = false)
    (hkey : s.rows.HasPlainKey) (h : s.settle caps catalog = .ok t) : t.KeepsOrders caps := by
  refine throughout_nested_settle (fun _ => id) (fun _ => id)
    (Node.not_hasIdleOrder_settleStep htop) ?_ hkey h
  intro f schema table key hc
  simp [Node.HasIdleOrder, RowFilter.hasIdleOrder_settle_keySelect hc]

end Statement

end PolySql
