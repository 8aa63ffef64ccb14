import PolySql.Proofs.Compile.Probe
import PolySql.Proofs.Settle.Width

namespace PolySql

variable {caps : Capabilities} {catalog : Catalog} {nested : Bool} {q : Select}

inductive Statement.Selects (s : Statement) : Bool → Select → Prop
  | root {q : Select} : .select q ∈ s.roots → Selects s false q
  | nested {n m : Node} {q : Select} : n ∈ s.roots → m ∈ n.parts → m.Reaches Node.parts (.select q) →
    Selects s true q

theorem Statement.Selects.of_throughout {s : Statement} {c : Node → Prop}
    (hc : ∀ n ∈ s.roots, n.Throughout Node.parts c) (h : s.Selects nested q) : c (.select q) := by
  cases h with
  | root hn => exact (Node.throughout_iff.1 (hc _ hn)).1
  | nested hn hm hq => exact (hc _ hn).of_reaches (.head hm hq)

theorem Statement.Selects.of_nested {s : Statement} {c : Node → Prop}
    (hc : ∀ n ∈ s.roots, ∀ m ∈ n.parts, m.Throughout Node.parts c) (h : s.Selects true q) :
    c (.select q) := by
  cases h with
  | nested hn hm hq => exact (hc _ hn _ hm).of_reaches hq

namespace Node

def OrdersOnlyTop (caps : Capabilities) : Node → Prop
  | .select s => s.hasIdleOrder caps = true → s.hasTopOne = true
  | .expr _ | .table _ => True

-- An order without paging is left in a nested SELECT only where the limit went into a TOP.
theorem ordersOnlyTop_settleStep (s : Select) :
    OrdersOnlyTop caps (.select (Select.settleStep caps catalog true s)) := by
  intro h
  rw [Select.hasIdleOrder_settleStep_true] at h
  simp only [Select.losesOrder, Select.isOrderedProbe, Bool.and_eq_true] at h
  exact Select.hasTopOne_settleStep h.1.1 h.2.1.1

end Node

theorem Statement.ordersOnlyTop_settle {s t : Statement} (hkey : s.rows.HasPlainKey)
    (h : s.settle caps catalog = .ok t) :
    ∀ n ∈ t.roots, ∀ m ∈ n.parts, m.Throughout Node.parts (Node.OrdersOnlyTop caps) := by
  refine throughout_nested_settle (fun _ => trivial) (fun _ => trivial)
    Node.ordersOnlyTop_settleStep ?_ hkey h
  intro f schema table key hc hidle
  rw [RowFilter.hasIdleOrder_settle_keySelect hc] at hidle
  cases hidle

def Catalog.KnowsNoOrder (catalog : Catalog) (table : String) : Prop :=
  (catalog.primaryKeys table = [] ∧ catalog.columns table = []) ∨
    (2 ≤ (catalog.primaryKeys table).length ∧
      ∀ c ∈ catalog.columns table, c.name ∉ catalog.primaryKeys table)

theorem Catalog.orderingColumn?_eq_none_iff {table : String} :
    catalog.orderingColumn? table = none ↔ catalog.KnowsNoOrder table := by
  unfold orderingColumn? KnowsNoOrder
  cases hkeys : catalog.primaryKeys table with
  | nil => simp
  | cons key keys =>
    cases keys with
    | nil => simp
    | cons key' keys =>
      simp only [Option.map_eq_none_iff, Option.or_eq_none_iff, List.head?_eq_none_iff,
        List.filter_eq_nil_iff, decide_eq_true_eq]
      constructor
      · exact fun h => .inr ⟨by simp, h.2⟩
      · rintro (⟨h, -⟩ | ⟨-, h⟩)
        · cases h
        · refine ⟨List.find?_eq_none.2 fun c hc => ?_, h⟩
          obtain ⟨hmem, hkey⟩ := List.mem_filter.1 hc
          exact absurd (of_decide_eq_true hkey) (h c hmem)

inductive Catalog.LeavesUnordered (catalog : Catalog) : Option TableRef → Prop
  | unsourced : LeavesUnordered catalog none
  | derived {q : Select} {label : String} : LeavesUnordered catalog (some (.derived q label))
  | table {schema label : Option String} {name : String} : catalog.KnowsNoOrder name →
    LeavesUnordered catalog (some (.table schema name label))
  | raw {text : String} : catalog.KnowsNoOrder text → LeavesUnordered catalog (some (.raw text))

theorem Catalog.leavesUnordered_of_keyOrder? {source : Option TableRef}
    (h : keyOrder? catalog source = none) : catalog.LeavesUnordered source := by
  have hcolumn {table : String} {order : String → Order}
      (h : ((catalog.orderingColumn? table).bind fun column => some (order column)) = none) :
      catalog.KnowsNoOrder table :=
    orderingColumn?_eq_none_iff.1 (Option.map_eq_none_iff.1 (Option.map_eq_bind.trans h))
  match source with
  | none => exact .unsourced
  | some (.derived q label) => exact .derived
  | some (.table schema name label) => exact .table (hcolumn h)
  | some (.raw text) => exact .raw (hcolumn h)

structure Select.IsNormal (catalog : Catalog) (nested : Bool) (q : Select) : Prop where
  offset_of_limit : q.limit.isSome → q.offset.isSome
  paged_of_order : nested = true → q.orders ≠ [] →
    q.limit.isSome ∨ q.offset.isSome ∨ q.hasTopOne = true
  order_of_paging : q.limit.isSome ∨ q.offset.isSome → q.orders = [] →
    catalog.LeavesUnordered q.source
  orders_selected : q.distinct = true → q.hasTopOne = false → q.selectsAll = false →
    ∀ o ∈ q.orders, q.selects (Select.orderedBy o.expr) = true

theorem Select.isNormal_of_isSettled (hs : q.IsSettled SqlServer.capabilities catalog)
    (hidle : nested = true → Node.OrdersOnlyTop SqlServer.capabilities (.select q)) :
    q.IsNormal catalog nested where
  offset_of_limit := hs.offset_of_limit rfl
  paged_of_order hn ho := by
    rw [← or_assoc, ← Bool.or_eq_true]
    cases hp : q.isPaged with
    | true => exact .inl hp
    | false => exact .inr (hidle hn (by simp [hasIdleOrder, SqlServer.capabilities, hp, ho]))
  order_of_paging hp ho :=
    Catalog.leavesUnordered_of_keyOrder? (hs.order_of_paging rfl (by simpa [isPaged] using hp) ho)
  orders_selected := hs.orders_selected rfl

theorem SqlServer.isNormal_of_compile {zone : Calendar.Timezone} {collation : String} {s : Statement}
    {c : Compiled} (hnan : s.IsNaNFree) (hkey : s.rows.HasPlainKey)
    (h : compile (SqlServer.dialectWith zone collation) catalog s = .ok c)
    (hq : c.statement.Selects nested q) : q.IsNormal catalog nested := by
  obtain ⟨hsettle, -⟩ := of_compile_eq_ok h
  have hsettled := (Statement.isSettled_settle hnan hkey hsettle).roots_settled
  refine Select.isNormal_of_isSettled (hq.of_throughout hsettled) ?_
  rintro rfl
  exact hq.of_nested (Statement.ordersOnlyTop_settle hkey hsettle)

def distinctNames : Select :=
  { Select.ofTable (.table none "users" none) with
    distinct := true
    projections := [⟨.column none "name", none⟩]
    limit := some (.value (.int 5)) }

def pagedMembers : Select :=
  { Select.ofTable (.table none "members" none) with
    projections := [⟨.column none "name", none⟩]
    wheres := [.inSubquery (.column none "name") distinctNames false]
    limit := some (.value (.int 3)) }

theorem isNaNFree_pagedMembers : (Statement.select pagedMembers).IsNaNFree := by
  have hleaf {e : Expr} (h : e.parts = []) (he : e.isNaNFree = true) :
      (Node.expr e).Throughout Node.children Node.IsNaNFree :=
    Node.throughout_of_eq_nil h he
  have htable {t : TableRef} (h : t.parts = []) :
      (Node.table t).Throughout Node.children Node.IsNaNFree :=
    Node.throughout_of_eq_nil h trivial
  have hnames : (Node.select distinctNames).Throughout Node.children Node.IsNaNFree :=
    .intro trivial (List.forall_mem_cons.2 ⟨hleaf rfl rfl, List.forall_mem_cons.2 ⟨htable rfl,
      List.forall_mem_singleton.2 (hleaf rfl rfl)⟩⟩)
  have hmember : (Node.expr (.inSubquery (.column none "name") distinctNames false)).Throughout
      Node.children Node.IsNaNFree :=
    .intro rfl (List.forall_mem_cons.2 ⟨hleaf rfl rfl, List.forall_mem_singleton.2 hnames⟩)
  exact List.forall_mem_singleton.2 (.intro trivial (List.forall_mem_cons.2 ⟨hleaf rfl rfl,
    List.forall_mem_cons.2 ⟨htable rfl, List.forall_mem_cons.2 ⟨hmember,
      List.forall_mem_singleton.2 (hleaf rfl rfl)⟩⟩⟩))

theorem SqlServer.isNormal_of_compile_pagedMembers :
    let catalog : Catalog := ⟨fun t => if t = "users" then ["id"] else ["group", "user"], fun _ => []⟩
    ∃ c q q', compile SqlServer.dialect catalog (.select pagedMembers) = .ok c ∧
      (c.statement.Selects false q ∧ q.limit.isSome ∧ q.orders = [] ∧ q.IsNormal catalog false) ∧
      c.statement.Selects true q' ∧ q'.limit.isSome ∧ q'.distinct = true ∧ q'.orders ≠ [] ∧
        q'.IsNormal catalog true := by
  intro catalog
  have hok : (compile SqlServer.dialect catalog (.select pagedMembers)).isOk = true := by
    decide +kernel
  obtain ⟨c, hc⟩ := exists_eq_ok hok
  have hstatement := Except.ok.inj (of_compile_eq_ok hc).1
  have hkey : (Statement.select pagedMembers).rows.HasPlainKey := by rintro key ⟨⟩
  have hroot : c.statement.Selects false (pagedMembers.settle SqlServer.capabilities catalog false) := by
    rw [← hstatement]
    exact .root (List.mem_singleton_self _)
  have hnested : c.statement.Selects true (distinctNames.settle SqlServer.capabilities catalog true) := by
    rw [← hstatement]
    refine .nested (m := .expr (.inSubquery (.column none "name")
      (distinctNames.settle SqlServer.capabilities catalog true) false)) (List.mem_singleton_self _) ?_
      (.single (List.mem_cons_of_mem _ (List.mem_singleton_self _)))
    exact List.mem_append_left _ (List.mem_append_left _ (List.mem_append_left _
      (List.mem_append_right _ (List.mem_singleton_self _))))
  refine ⟨c, _, _, hc, ⟨hroot, rfl, rfl, ?_⟩, hnested, rfl, rfl, List.cons_ne_nil _ _, ?_⟩
  · exact SqlServer.isNormal_of_compile isNaNFree_pagedMembers hkey hc hroot
  · exact SqlServer.isNormal_of_compile isNaNFree_pagedMembers hkey hc hnested

end PolySql
