import PolySql.Proofs.Tree.Map

namespace PolySql

variable {f f' : Expr → Expr} {g k : TableRef → TableRef} {h h' : Select → Select}

def Assignment.map (f : Expr → Expr) (a : Assignment) : Assignment :=
  ⟨a.column, f a.value⟩

namespace InsertSource

def roots : InsertSource → List Node
  | .rows rs => rs.flatten.map .expr
  | .query q => [.select q]
  | .defaults => []

def mapRoots (f : Expr → Expr) (h : Select → Select) : InsertSource → InsertSource
  | .rows rs => .rows (rs.map (List.map f))
  | .query q => .query (h q)
  | .defaults => .defaults

theorem mapRoots_congr {s : InsertSource} (hm : ∀ n ∈ s.roots, n.map f g h = n.map f' k h') :
    s.mapRoots f h = s.mapRoots f' h' := by
  cases s with
  | rows rs =>
    refine congrArg InsertSource.rows (List.map_congr_left fun row hr => ?_)
    refine List.map_congr_left fun e he => ?_
    have heq := hm (.expr e) (List.mem_map_of_mem (List.mem_flatten_of_mem hr he))
    exact Node.expr.inj heq
  | query q =>
    have heq := hm (.select q) (List.mem_singleton_self _)
    exact congrArg InsertSource.query (Node.select.inj heq)
  | defaults => rfl

theorem mapRoots_id (s : InsertSource) : s.mapRoots id id = s := by
  cases s <;> simp [mapRoots]

theorem mapRoots_mapRoots (s : InsertSource) :
    (s.mapRoots f h).mapRoots f' h' = s.mapRoots (f' ∘ f) (h' ∘ h) := by
  cases s <;> simp [mapRoots]

end InsertSource

namespace RowFilter

def limits (f : RowFilter) : List Node :=
  f.orders.map (fun o => .expr o.expr) ++ f.limit.toList.map .expr ++ f.offset.toList.map .expr ++
    f.key.toList.map .expr

def mapWheres (f : Expr → Expr) (r : RowFilter) : RowFilter :=
  { r with wheres := r.wheres.map f }

structure IsUnlimited (f : RowFilter) : Prop where
  orders_eq : f.orders = []
  limit_eq : f.limit = none
  offset_eq : f.offset = none

theorem IsUnlimited.mapWheres {r : RowFilter} (h : r.IsUnlimited) : (r.mapWheres f).IsUnlimited :=
  ⟨h.orders_eq, h.limit_eq, h.offset_eq⟩

theorem isUnlimited_empty : RowFilter.empty.IsUnlimited :=
  ⟨rfl, rfl, rfl⟩

end RowFilter

namespace Statement

def rows : Statement → RowFilter
  | select _ | insert _ => .empty
  | update s => s.rows
  | delete s => s.rows

def values : Statement → List Node
  | select s => [.select s]
  | insert s => s.source.roots
  | update s => s.assignments.map fun a => .expr a.value
  | delete _ => []

def roots (s : Statement) : List Node :=
  s.values ++ s.rows.wheres.map .expr

def trees (s : Statement) : List Node :=
  s.roots ++ s.rows.limits

def names : Statement → List String
  | select _ => []
  | insert s => s.schema.toList ++ s.table :: (s.columns ++ s.returning)
  | update s => s.schema.toList ++ s.table :: s.assignments.map Assignment.column
  | delete s => s.schema.toList ++ [s.table]

def mapRoots (f : Expr → Expr) (h : Select → Select) : Statement → Statement
  | select s => .select (h s)
  | insert s => .insert { s with source := s.source.mapRoots f h }
  | update s =>
    .update { s with
      assignments := s.assignments.map (Assignment.map f)
      rows := s.rows.mapWheres f }
  | delete s => .delete { s with rows := s.rows.mapWheres f }

theorem mapRoots_congr {s : Statement} (hm : ∀ n ∈ s.roots, n.map f g h = n.map f' k h') :
    s.mapRoots f h = s.mapRoots f' h' := by
  have hexprs {es : List Expr} (he : ∀ n ∈ es.map Node.expr, n.map f g h = n.map f' k h') :
      es.map f = es.map f' :=
    List.map_congr_left fun e hmem => Node.expr.inj (he _ (List.mem_map_of_mem hmem))
  obtain ⟨ha, hw⟩ := List.forall_mem_append.1 hm
  cases s with
  | select s => exact congrArg Statement.select (Node.select.inj (ha _ (List.mem_singleton_self _)))
  | insert s => simp only [mapRoots, InsertSource.mapRoots_congr ha]
  | update s =>
    have hassign : s.assignments.map (Assignment.map f) = s.assignments.map (Assignment.map f') := by
      refine List.map_congr_left fun a hmem => ?_
      have heq := Node.expr.inj (ha _ (List.mem_map_of_mem hmem))
      rw [Assignment.map, Assignment.map, heq]
    simp only [mapRoots, RowFilter.mapWheres, hassign, show s.rows.wheres.map f = _ from hexprs hw]
  | delete s =>
    simp only [mapRoots, RowFilter.mapWheres, show s.rows.wheres.map f = _ from hexprs hw]

theorem values_mapRoots (s : Statement) :
    (s.mapRoots f h).values = s.values.map (Node.map f g h) := by
  cases s with
  | select s => rfl
  | insert s =>
    cases hs : s.source with
    | rows rs =>
      simp only [mapRoots, values, hs, InsertSource.mapRoots, InsertSource.roots, ← List.map_flatten,
        List.map_map]
      rfl
    | query q => simp only [mapRoots, values, hs, InsertSource.mapRoots, InsertSource.roots]; rfl
    | defaults => simp only [mapRoots, values, hs, InsertSource.mapRoots, InsertSource.roots]; rfl
  | update s => simp [mapRoots, values, Assignment.map]
  | delete s => rfl

theorem rows_mapRoots (s : Statement) : (s.mapRoots f h).rows = s.rows.mapWheres f := by
  cases s <;> rfl

theorem names_mapRoots (s : Statement) : (s.mapRoots f h).names = s.names := by
  cases s with
  | update s => simp [mapRoots, names, Assignment.map, Function.comp_def]
  | _ => rfl

theorem mapRoots_mapRoots (s : Statement) :
    (s.mapRoots f h).mapRoots f' h' = s.mapRoots (f' ∘ f) (h' ∘ h) := by
  cases s <;> simp [mapRoots, RowFilter.mapWheres, InsertSource.mapRoots_mapRoots, Assignment.map]

theorem mapRoots_id (s : Statement) : s.mapRoots id id = s := by
  have ha : Assignment.map id = id := rfl
  cases s <;> simp [mapRoots, RowFilter.mapWheres, InsertSource.mapRoots_id, ha]

end Statement

end PolySql
