import PolySql.Compiler.Settle.Statement
import PolySql.Proofs.Settle.Twice
import PolySql.Proofs.Tree.Statement

namespace PolySql

open Select

variable {caps : Capabilities} {catalog : Catalog}

namespace Node

def IsNotSelect : Node → Prop
  | .select _ => False
  | .expr _ | .table _ => True

theorem throughout_of_isNotSelect {c : Node → Prop} {n : Node} {next : Node → List Node}
    (hn : ∀ m, next m ⊆ m.children) (he : ∀ e, c (.expr e)) (ht : ∀ t, c (.table t))
    (h : n.Throughout children IsNotSelect) : n.Throughout next c := by
  refine h.mono hn fun m hm => ?_
  cases m with
  | expr e => exact he e
  | table t => exact ht t
  | select s => exact hm.elim

end Node

namespace RowFilter

def HasPlainKey (f : RowFilter) : Prop :=
  ∀ key ∈ f.key, (Node.expr key).Throughout Node.children Node.IsNotSelect

end RowFilter

namespace Statement

def IsNaNFree (s : Statement) : Prop :=
  ∀ n ∈ s.trees, n.Throughout Node.children Node.IsNaNFree

structure IsSettled (caps : Capabilities) (catalog : Catalog) (s : Statement) : Prop where
  roots_settled : ∀ n ∈ s.roots, n.Throughout Node.parts (Node.IsSettled caps catalog)
  rows_unlimited : s.rows.IsUnlimited

end Statement

namespace Node

theorem isSettled_transformRoot {n : Node} (h : n.Throughout children IsNaNFree) :
    (n.transformRoot (settleStep caps catalog)).Throughout parts (IsSettled caps catalog) := by
  cases n with
  | expr e => exact isSettled_transform h
  | table t => exact isSettled_transform h
  | select s =>
    have hparts := (List.forall_mem_append.1 (throughout_iff.1 h).2).1
    exact isSettled_select_transform h (fun m hm => isSettled_transform (hparts m hm)) false

theorem transformRoot_of_isSettled {n : Node} (h : n.Throughout parts (IsSettled caps catalog)) :
    n.transformRoot (settleStep caps catalog) = n.transformRoot (dropIdleOrder caps) := by
  cases n with
  | expr e => exact transform_of_isSettled h
  | table t => exact transform_of_isSettled h
  | select s =>
    obtain ⟨hs, hm⟩ := throughout_iff.1 h
    refine congrArg select (select_transform_of_isSettled hs (fun m hmem => ?_) false)
    exact transform_of_isSettled (hm m hmem)

end Node

namespace RowFilter

variable {statement table : String} {schema : Option String} {f f' : RowFilter}

theorem restrict_of_isUnlimited (h : f.IsUnlimited) :
    f.restrict caps catalog statement schema table = .ok f := by
  obtain ⟨ws, os, l, o, k⟩ := f
  obtain ⟨rfl, rfl, rfl⟩ : os = [] ∧ l = none ∧ o = none := ⟨h.orders_eq, h.limit_eq, h.offset_eq⟩
  rfl

theorem throughout_keySelect {c : Node → Prop} {key : Expr}
    (hs : c (.select (f.keySelect schema table key))) (ht : c (.table (.table schema table none)))
    (hw : ∀ e ∈ f.wheres, (Node.expr e).Throughout Node.children c)
    (hl : ∀ n ∈ f.limits, n.Throughout Node.children c) (hk : f.key = some key) :
    (Node.select (f.keySelect schema table key)).Throughout Node.children c := by
  simp only [limits, List.forall_mem_append, List.forall_mem_map, Option.mem_toList, hk,
    Option.some.injEq, forall_eq'] at hl
  obtain ⟨⟨⟨ho, hlimit⟩, hoffset⟩, hkey⟩ := hl
  refine .intro hs (List.forall_mem_append.2 ⟨?_, Select.forall_bounds.2 ⟨hlimit, hoffset⟩⟩)
  rw [Select.forall_parts]
  simp only [keySelect, Select.ofTable, Select.empty, List.forall_mem_singleton, Option.mem_def,
    Option.some.injEq, forall_eq', List.not_mem_nil, false_imp_iff, implies_true, true_and]
  exact ⟨hkey, Node.throughout_of_eq_nil rfl ht, hw, ho⟩

theorem wheres_withNeededLimit : (f.withNeededLimit caps).wheres = f.wheres := by
  unfold withNeededLimit
  split <;> rfl

theorem orders_withNeededLimit : (f.withNeededLimit caps).orders = f.orders := by
  unfold withNeededLimit
  split <;> rfl

theorem key_withNeededLimit : (f.withNeededLimit caps).key = f.key := by
  unfold withNeededLimit
  split <;> rfl

theorem limits_withNeededLimit {P : Node → Prop} (hv : ∀ i, P (.expr (.value (.int i))))
    (h : ∀ n ∈ f.limits, P n) : ∀ n ∈ (f.withNeededLimit caps).limits, P n := by
  unfold withNeededLimit
  split
  · simp only [limits, List.forall_mem_append] at h ⊢
    exact ⟨⟨⟨h.1.1.1, List.forall_mem_singleton.2 (hv _)⟩, h.1.2⟩, h.2⟩
  · exact h

theorem restrict_cases (h : f.restrict caps catalog statement schema table = .ok f') :
    f' = { f.withNeededLimit caps with orders := [] } ∧
        ((f.withNeededLimit caps).limit.isNone && (f.withNeededLimit caps).offset.isNone) = true ∨
      ∃ key, f.key = some key ∧
        ((f.withNeededLimit caps).limit.isNone && (f.withNeededLimit caps).offset.isNone) = false ∧
        f' = ⟨[.inSubquery key (((f.withNeededLimit caps).keySelect schema table key).settle caps
          catalog false) false], [], none, none, some key⟩ := by
  unfold restrict at h
  dsimp only at h
  split at h
  · rename_i hc
    exact .inl ⟨(Except.ok.inj h).symm, hc⟩
  · rename_i hc
    split at h
    · cases h
    · rename_i key hk
      rw [Bool.not_eq_true] at hc
      exact .inr ⟨key, key_withNeededLimit ▸ hk, hc, (Except.ok.inj h).symm⟩

theorem isUnlimited_of_restrict (h : f.restrict caps catalog statement schema table = .ok f') :
    f'.IsUnlimited := by
  rcases restrict_cases h with ⟨rfl, hc⟩ | ⟨key, -, -, rfl⟩
  · rw [Bool.and_eq_true, Option.isNone_iff_eq_none, Option.isNone_iff_eq_none] at hc
    exact ⟨rfl, hc.1, hc.2⟩
  · exact ⟨rfl, rfl, rfl⟩

def NeedsKey (caps : Capabilities) (f : RowFilter) : Prop :=
  f.limit.isSome ∨ f.offset.isSome ∨ (caps.updateOrderRequiresLimit = true ∧ f.orders ≠ [])

theorem needsKey_of_paged
    (h : ((f.withNeededLimit caps).limit.isNone && (f.withNeededLimit caps).offset.isNone) = false) :
    f.NeedsKey caps := by
  unfold withNeededLimit at h
  split at h
  · rename_i hc
    simp only [Bool.and_eq_true, Bool.not_eq_true', List.isEmpty_eq_false_iff] at hc
    exact .inr (.inr ⟨hc.2, hc.1.1⟩)
  · rw [Bool.and_eq_false_iff, Option.isNone_eq_false_iff, Option.isNone_eq_false_iff] at h
    exact h.imp_right .inl

theorem exists_restrict (hkey : f.NeedsKey caps → f.key.isSome) :
    ∃ f', f.restrict caps catalog statement schema table = .ok f' := by
  unfold restrict
  dsimp only
  split
  · exact ⟨_, rfl⟩
  · rename_i hc
    obtain ⟨key, hk⟩ := Option.isSome_iff_exists.1 (hkey (needsKey_of_paged (Bool.eq_false_iff.2 hc)))
    rw [key_withNeededLimit, hk]
    exact ⟨_, rfl⟩

theorem isSettled_of_restrict
    (hw : ∀ e ∈ f.wheres, (Node.expr e).Throughout Node.children Node.IsNaNFree)
    (hs : ∀ e ∈ f.wheres, (Node.expr e).Throughout Node.parts (Node.IsSettled caps catalog))
    (hl : ∀ n ∈ f.limits, n.Throughout Node.children Node.IsNaNFree) (hkey : f.HasPlainKey)
    (h : f.restrict caps catalog statement schema table = .ok f') :
    ∀ e ∈ f'.wheres, (Node.expr e).Throughout Node.parts (Node.IsSettled caps catalog) := by
  have hwheres : (f.withNeededLimit caps).wheres = f.wheres := wheres_withNeededLimit
  rcases restrict_cases h with ⟨rfl, -⟩ | ⟨key, hk, -, rfl⟩
  · intro e he
    exact hs e (hwheres ▸ he)
  · intro e he
    obtain rfl := List.mem_singleton.1 he
    refine .intro trivial (List.forall_mem_cons.2 ⟨?_, List.forall_mem_singleton.2 ?_⟩)
    · exact Node.throughout_of_isNotSelect (fun _ _ => Node.mem_children_of_mem_parts)
        (fun _ => trivial) (fun _ => trivial) (hkey key hk)
    · refine Node.isSettled_transformRoot (n := .select _) ?_
      refine throughout_keySelect trivial trivial ?_ ?_ (key_withNeededLimit.trans hk)
      · rwa [hwheres]
      · exact limits_withNeededLimit (fun _ => Node.throughout_of_eq_nil rfl rfl) hl

end RowFilter

namespace Statement

def target : Statement → String × Option String × String
  | select _ | insert _ => ("", none, "")
  | update s => ("UPDATE", s.schema, s.table)
  | delete s => ("DELETE", s.schema, s.table)

def withRows (s : Statement) (r : RowFilter) : Statement :=
  match s with
  | select s => .select s
  | insert s => .insert s
  | update s => .update { s with rows := r }
  | delete s => .delete { s with rows := r }

theorem settle_eq (s : Statement) :
    s.settle caps catalog =
      let t := s.mapRoots (Expr.transform (settleStep caps catalog))
        (Select.transform (settleStep caps catalog) false)
      (t.rows.restrict caps catalog s.target.1 s.target.2.1 s.target.2.2).map t.withRows := by
  have hempty : RowFilter.empty.restrict caps catalog "" none "" = .ok .empty :=
    RowFilter.restrict_of_isUnlimited RowFilter.isUnlimited_empty
  have hl : Expr.transformList (settleStep caps catalog) =
      List.map (Expr.transform (settleStep caps catalog)) :=
    funext (Expr.transformList_eq _)
  cases s with
  | select s =>
    dsimp only [mapRoots, rows, target]
    rw [hempty]
    rfl
  | insert s =>
    dsimp only [mapRoots, rows, target]
    rw [hempty]
    obtain ⟨schema, table, columns, source, returning⟩ := s
    cases source with
    | rows rs => simp only [settle, InsertSource.mapRoots, hl, Except.map, withRows]
    | query q => rfl
    | defaults => rfl
  | update s =>
    simp only [settle, Expr.transformList_eq]
    rfl
  | delete s =>
    simp only [settle, Expr.transformList_eq]
    rfl

theorem withRows_rows (s : Statement) : s.withRows s.rows = s := by
  cases s <;> rfl

theorem values_withRows {r : RowFilter} (s : Statement) : (s.withRows r).values = s.values := by
  cases s <;> rfl

theorem settle_of_isUnlimited {s : Statement} (h : s.rows.IsUnlimited) :
    s.settle caps catalog =
      .ok (s.mapRoots (Expr.transform (settleStep caps catalog))
        (Select.transform (settleStep caps catalog) false)) := by
  rw [settle_eq]
  dsimp only
  rw [RowFilter.restrict_of_isUnlimited (rows_mapRoots s ▸ h.mapWheres), Except.map, withRows_rows]

theorem exists_rows_of_settle {s t : Statement} (h : s.settle caps catalog = .ok t) :
    ∃ r, (s.rows.mapWheres (Expr.transform (settleStep caps catalog))).restrict caps catalog
        s.target.1 s.target.2.1 s.target.2.2 = .ok r ∧
      t = (s.mapRoots (Expr.transform (settleStep caps catalog))
        (Select.transform (settleStep caps catalog) false)).withRows r := by
  rw [settle_eq] at h
  dsimp only at h
  rw [rows_mapRoots] at h
  cases hr : (s.rows.mapWheres (Expr.transform (settleStep caps catalog))).restrict caps catalog
      s.target.1 s.target.2.1 s.target.2.2 with
  | error e =>
    rw [hr] at h
    cases h
  | ok r =>
    rw [hr] at h
    exact ⟨r, rfl, (Except.ok.inj h).symm⟩

theorem of_settle_eq_ok {s t : Statement} (h : s.settle caps catalog = .ok t) :
    t.values = s.values.map (Node.transformRoot (settleStep caps catalog)) ∧
      (s.rows.mapWheres (Expr.transform (settleStep caps catalog))).restrict caps catalog s.target.1
          s.target.2.1 s.target.2.2 = .ok t.rows := by
  obtain ⟨r, hr, rfl⟩ := exists_rows_of_settle h
  rw [values_withRows]
  refine ⟨values_mapRoots s, ?_⟩
  cases s with
  | update s => exact hr
  | delete s => exact hr
  | _ => exact RowFilter.restrict_of_isUnlimited RowFilter.isUnlimited_empty

theorem names_settle {s t : Statement} (h : s.settle caps catalog = .ok t) : t.names = s.names := by
  obtain ⟨r, -, rfl⟩ := exists_rows_of_settle h
  have hrows (s : Statement) : (s.withRows r).names = s.names := by
    cases s <;> rfl
  rw [hrows, names_mapRoots]

theorem exists_settle {s : Statement} (hkey : s.rows.NeedsKey caps → s.rows.key.isSome) :
    ∃ t, s.settle caps catalog = .ok t := by
  rw [settle_eq]
  dsimp only
  rw [rows_mapRoots]
  obtain ⟨r, hr⟩ : ∃ r, (s.rows.mapWheres (Expr.transform (settleStep caps catalog))).restrict caps
      catalog s.target.1 s.target.2.1 s.target.2.2 = .ok r :=
    RowFilter.exists_restrict hkey
  exact ⟨_, by rw [hr]; rfl⟩

theorem isSettled_settle {s t : Statement} (hnan : s.IsNaNFree) (hkey : s.rows.HasPlainKey)
    (h : s.settle caps catalog = .ok t) : t.IsSettled caps catalog := by
  obtain ⟨hroots, hlimits⟩ := List.forall_mem_append.1 hnan
  obtain ⟨hvalues, hwheres⟩ := List.forall_mem_append.1 hroots
  rw [List.forall_mem_map] at hwheres
  obtain ⟨hv, hr⟩ := of_settle_eq_ok h
  refine ⟨List.forall_mem_append.2 ⟨?_, List.forall_mem_map.2 ?_⟩, RowFilter.isUnlimited_of_restrict hr⟩
  · rw [hv, List.forall_mem_map]
    exact fun n hn => Node.isSettled_transformRoot (hvalues n hn)
  · refine RowFilter.isSettled_of_restrict (f := s.rows.mapWheres _) ?_ ?_ hlimits hkey hr
    · exact List.forall_mem_map.2 fun e he => Node.isNaNFree_transform (hwheres e he)
    · exact List.forall_mem_map.2 fun e he => Node.isSettled_transform (hwheres e he)

def dropIdleOrders (caps : Capabilities) (s : Statement) : Statement :=
  s.mapRoots (Expr.transform (dropIdleOrder caps)) (Select.transform (dropIdleOrder caps) false)

theorem IsSettled.settle {s : Statement} (h : s.IsSettled caps catalog) :
    s.settle caps catalog = .ok (s.dropIdleOrders caps) := by
  rw [settle_of_isUnlimited h.rows_unlimited]
  refine congrArg Except.ok (mapRoots_congr (g := TableRef.transform (settleStep caps catalog))
    (k := TableRef.transform (dropIdleOrder caps)) fun n hn => ?_)
  exact Node.transformRoot_of_isSettled (h.roots_settled n hn)

end Statement

end PolySql
