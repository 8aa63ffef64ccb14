import PolySql.Proofs.Inline.Names
import PolySql.Proofs.Paging.Select
import PolySql.Proofs.Rows.Engine
import PolySql.Proofs.Settle.Statement

namespace PolySql

open Select

variable {caps : Capabilities} {catalog : Catalog}

namespace RowFilter

variable {statement table : String} {schema : Option String} {f : RowFilter} {key : Expr}

def HasPlainWheres (f : RowFilter) : Prop :=
  ∀ e ∈ f.wheres, (Node.expr e).Throughout Node.children Node.IsNotSelect

def keyOrders (caps : Capabilities) (catalog : Catalog) (schema : Option String) (table : String)
    (f : RowFilter) : List Order :=
  if f.orders.isEmpty && caps.deterministicPaging then
    (keyOrder? catalog (some (.table schema table none))).toList
  else f.orders.map (Order.map (Expr.transform (settleStep caps catalog)))

theorem transform_of_isNotSelect {e : Expr} {step : Bool → Select → Select}
    (h : (Node.expr e).Throughout Node.children Node.IsNotSelect) : e.transform step = e := by
  have hparts := h.mono (fun _ _ => Node.mem_children_of_mem_parts) fun _ hm => hm
  exact Node.expr.inj (Node.transform_eq_self (c := Node.IsNotSelect) (by rintro s ⟨⟩) hparts)

theorem HasPlainWheres.map_transform (h : f.HasPlainWheres) (step : Bool → Select → Select) :
    f.wheres.map (Expr.transform step) = f.wheres :=
  (List.map_congr_left fun e he => transform_of_isNotSelect (h e he)).trans (List.map_id _)

theorem settle_keySelect (hkey : (Node.expr key).Throughout Node.children Node.IsNotSelect)
    (hwheres : f.HasPlainWheres) (hpaged : (f.limit.isSome || f.offset.isSome) = true) :
    (f.keySelect schema table key).settle caps catalog false =
      { f.keySelect schema table key with
        orders := f.keyOrders caps catalog schema table
        offset :=
          if caps.paging = .offsetFetch && f.limit.isSome && f.offset.isNone then some zero
          else f.offset } := by
  have hinside : (f.keySelect schema table key).settleInside caps catalog =
      { f.keySelect schema table key with
        orders := f.orders.map (Order.map (Expr.transform (settleStep caps catalog))) } := by
    simp only [settleInside, mapParts, keySelect, Select.ofTable, Select.empty, List.map_cons,
      List.map_nil, Projection.map, transform_of_isNotSelect hkey, hwheres.map_transform, Option.map_some,
      TableRef.transform_eq, TableRef.mapParts]
  have horders : (f.orders.map (Order.map (Expr.transform (settleStep caps catalog)))).isEmpty =
      f.orders.isEmpty := List.isEmpty_map
  rw [settle_eq, hinside, settleStep_eq, prepared, probeWithTop_of_not_isProbe rfl,
    projectDistinctOrders_eq, completeOffset_eq, orderPaging_eq, dropIdleOrder_eq]
  simp only [keySelect, Select.ofTable, Select.empty, isPaged, hpaged, Bool.false_and, Bool.and_false,
    Bool.false_eq_true, if_false, Bool.true_and, keyOrders, horders]
  rfl

theorem keyOrders_withNeededLimit :
    (f.withNeededLimit caps).keyOrders caps catalog schema table =
      f.keyOrders caps catalog schema table := by
  rw [keyOrders, orders_withNeededLimit, keyOrders]

theorem offset_withNeededLimit : (f.withNeededLimit caps).offset = f.offset := by
  unfold withNeededLimit
  split <;> rfl

variable {L O : Option Int64}

theorem hasCount_withNeededLimit (h : HasCount L f.limit) :
    ∃ L', HasCount L' (f.withNeededLimit caps).limit ∧
      (L' = L ∨ L' = some caps.maxRowLimit ∧ L = none) := by
  unfold withNeededLimit
  split
  · rename_i hc
    have hnone : f.limit = none := by
      simp only [Bool.and_eq_true, Option.isNone_iff_eq_none] at hc
      exact hc.1.2
    rw [hnone] at h
    cases h
    exact ⟨_, .value _, .inr ⟨rfl, rfl⟩⟩
  · exact ⟨L, h, .inl rfl⟩

end RowFilter

theorem filter_eq_of_perm {α : Type} {p q : α → Bool} {l : List α}
    (h : (l.filter p).Perm (l.filter q)) : l.filter p = l.filter q := by
  refine List.filter_congr fun a ha => Bool.eq_iff_iff.2 ?_
  have hmem := h.mem_iff (a := a)
  rwa [List.mem_filter, List.mem_filter, and_iff_right ha, and_iff_right ha] at hmem

namespace Engine

variable {ρ κ : Type} [DecidableEq κ] (m : Engine ρ κ)
  {statement table : String} {schema : Option String} {f : RowFilter} {key : Expr} {L O : Option Int64}

theorem selected?_settle_keySelect
    (hkey : (Node.expr key).Throughout Node.children Node.IsNotSelect) (hwheres : f.HasPlainWheres)
    (hl : HasCount L f.limit) (ho : HasCount O f.offset)
    (hpaged : (f.limit.isSome || f.offset.isSome) = true) :
    m.selected? ((f.keySelect schema table key).settle caps catalog false) =
      some ((pageRows L O (m.arrange (f.keyOrders caps catalog schema table)
        ((m.table schema table).filter (m.meets f.wheres)))).map (m.value key)) := by
  rw [RowFilter.settle_keySelect hkey hwheres hpaged]
  simp only [RowFilter.keySelect, Select.ofTable, Select.empty, selected?, count?_of_hasCount hl]
  split
  · rename_i hc
    have hnone : f.offset = none := by
      simp only [Bool.and_eq_true, Option.isNone_iff_eq_none] at hc
      exact hc.2
    rw [hnone] at ho
    cases ho
    rfl
  · rw [count?_of_hasCount ho]
    rfl

theorem perm_restrict (hmax : caps.maxRowLimit = Int64.maxValue) (hk : f.key = some key)
    (hkey : f.HasPlainKey) (hwheres : f.HasPlainWheres) (hl : HasCount L f.limit)
    (ho : HasCount O f.offset) (hfew : (m.table schema table).length < 2 ^ 63)
    (hapart : m.TellsApart key (m.table schema table)) {f' : RowFilter}
    (h : f.restrict caps catalog statement schema table = .ok f') :
    ((m.table schema table).filter (m.meets f'.wheres)).Perm
      (pageRows L O (m.arrange (f.keyOrders caps catalog schema table)
        ((m.table schema table).filter (m.meets f.wheres)))) := by
  set found := (m.table schema table).filter (m.meets f.wheres) with hfound
  set arranged := m.arrange (f.keyOrders caps catalog schema table) found
  have harranged : arranged.Perm found := m.perm_arrange _ _
  obtain ⟨L', hl', hL⟩ : ∃ L', HasCount L' (f.withNeededLimit caps).limit ∧
      (L' = L ∨ L' = some caps.maxRowLimit ∧ L = none) :=
    RowFilter.hasCount_withNeededLimit hl
  have ho' : HasCount O (f.withNeededLimit caps).offset := by
    rwa [RowFilter.offset_withNeededLimit]
  have hpage : pageRows L' O arranged = pageRows L O arranged := by
    obtain rfl | ⟨rfl, rfl⟩ := hL
    · rfl
    · rw [hmax]
      refine pageRows_maxValue ?_
      rw [harranged.length_eq]
      exact Nat.lt_of_le_of_lt (List.length_filter_le _ _) hfew
  rw [← hpage]
  rcases RowFilter.restrict_cases h with ⟨rfl, hc⟩ | ⟨key', hk', hc, rfl⟩
  · rw [Bool.and_eq_true, Option.isNone_iff_eq_none, Option.isNone_iff_eq_none] at hc
    rw [hc.1] at hl'
    rw [hc.2] at ho'
    cases hl'
    cases ho'
    dsimp only
    rw [RowFilter.wheres_withNeededLimit]
    exact harranged.symm
  · obtain rfl : key = key' := Option.some.inj (hk.symm.trans hk')
    have hwheres' : (f.withNeededLimit caps).HasPlainWheres := by
      rwa [RowFilter.HasPlainWheres, RowFilter.wheres_withNeededLimit]
    have hpaged : ((f.withNeededLimit caps).limit.isSome ||
        (f.withNeededLimit caps).offset.isSome) = true := by
      rw [Bool.and_eq_false_iff, Option.isNone_eq_false_iff, Option.isNone_eq_false_iff] at hc
      exact Bool.or_eq_true_iff.2 hc
    have hselected : m.selected? (((f.withNeededLimit caps).keySelect schema table key).settle caps
        catalog false) = some ((pageRows L' O arranged).map (m.value key)) := by
      rw [m.selected?_settle_keySelect (hkey key hk) hwheres' hl' ho' hpaged,
        RowFilter.keyOrders_withNeededLimit, RowFilter.wheres_withNeededLimit]
    dsimp only
    simp only [meets_singleton, m.accepts_inSubquery hselected]
    have hsub : pageRows L' O arranged ⊆ m.table schema table := fun r hr =>
      List.mem_of_mem_filter (harranged.subset (sublist_pageRows.subset hr))
    refine hapart.perm_filter_isIn hsub ?_
    have hnodup : found.Nodup := (List.Nodup.of_map _ hapart.nodup_values).filter _
    exact (harranged.nodup_iff.2 hnodup).sublist sublist_pageRows

end Engine

namespace Statement

def assigned : Statement → List String
  | update s => s.assignments.map (·.column)
  | select _ | insert _ | delete _ => []

variable {s t : Statement}

theorem target_settle (h : s.settle caps catalog = .ok t) : t.target = s.target := by
  obtain ⟨r, -, rfl⟩ := exists_rows_of_settle h
  cases s <;> rfl

theorem assigned_settle (h : s.settle caps catalog = .ok t) : t.assigned = s.assigned := by
  obtain ⟨r, -, rfl⟩ := exists_rows_of_settle h
  cases s with
  | update s => simp [assigned, mapRoots, withRows, Assignment.map]
  | _ => rfl

end Statement

def Engine.found {ρ κ : Type} [DecidableEq κ] (m : Engine ρ κ) (s : Statement) : List ρ :=
  (m.table s.target.2.1 s.target.2.2).filter (m.meets s.rows.wheres)

theorem Dialect.IsBuiltIn.maxRowLimit_eq {d : Dialect} (hd : d.IsBuiltIn) :
    d.capabilities.maxRowLimit = Int64.maxValue := by
  cases hd <;> rfl

theorem Dialect.IsBuiltIn.perm_found_settle {d : Dialect} (hd : d.IsBuiltIn) {ρ κ : Type}
    [DecidableEq κ] (m : Engine ρ κ) (catalog : Catalog) {s : Statement} {key : Expr}
    {L O : Option Int64} (hk : s.rows.key = some key) (hkey : s.rows.HasPlainKey)
    (hwheres : s.rows.HasPlainWheres) (hl : HasCount L s.rows.limit) (ho : HasCount O s.rows.offset)
    (hfew : (m.table s.target.2.1 s.target.2.2).length < 2 ^ 63)
    (hapart : m.TellsApart key (m.table s.target.2.1 s.target.2.2)) :
    let orders := s.rows.keyOrders d.capabilities catalog s.target.2.1 s.target.2.2
    ∃ t, s.settle d.capabilities catalog = .ok t ∧ t.target = s.target ∧ t.assigned = s.assigned ∧
      t.rows.IsUnlimited ∧ (m.found t).Perm (pageRows L O (m.arrange orders (m.found s))) ∧
      (L = none → O = none → m.found t = m.found s) := by
  intro orders
  obtain ⟨t, ht⟩ : ∃ t, s.settle d.capabilities catalog = .ok t :=
    Statement.exists_settle fun _ => Option.isSome_iff_exists.2 ⟨key, hk⟩
  have htarget := Statement.target_settle ht
  obtain ⟨-, hrestrict⟩ := Statement.of_settle_eq_ok ht
  have hplain : s.rows.mapWheres (Expr.transform (settleStep d.capabilities catalog)) = s.rows := by
    rw [RowFilter.mapWheres, hwheres.map_transform]
  rw [hplain] at hrestrict
  have hperm := m.perm_restrict hd.maxRowLimit_eq hk hkey hwheres hl ho hfew hapart hrestrict
  have hfound : (m.table s.target.2.1 s.target.2.2).filter (m.meets t.rows.wheres) = m.found t := by
    rw [Engine.found, htarget]
  rw [hfound] at hperm
  refine ⟨t, ht, htarget, Statement.assigned_settle ht, RowFilter.isUnlimited_of_restrict hrestrict,
    hperm, ?_⟩
  rintro rfl rfl
  rw [pageRows_none] at hperm
  rw [Engine.found, htarget]
  exact filter_eq_of_perm (hfound.symm ▸ hperm.trans (m.perm_arrange _ _))

def allButLast : Statement :=
  .update
    { schema := none
      table := "t"
      assignments := [⟨"kept", .value (.bool true)⟩]
      rows :=
        { RowFilter.empty with
          wheres := [.raw "n <> 3" []]
          orders := [⟨.column none "n", .desc, none⟩]
          offset := some (.bind (.int 1))
          key := some (.column none "n") } }

def numbers : Engine Nat Nat where
  table _ _ := [1, 2, 3, 4, 5]
  value _ n := some n
  truth _ n := some (n != 3)
  arrange os ns := if os.isEmpty then ns else ns.reverse
  perm_arrange os ns := by
    split
    · exact .refl _
    · exact ns.reverse_perm

theorem Dialect.IsBuiltIn.perm_found_settle_numbers :
    ∃ t, allButLast.settle SqlServer.capabilities ⟨fun _ => ["n"], fun _ => []⟩ = .ok t ∧
      t.assigned = ["kept"] ∧ (numbers.found t).Perm [4, 2, 1] := by
  have hplain {e : Expr} (h : e.parts = []) :
      (Node.expr e).Throughout Node.children Node.IsNotSelect :=
    Node.throughout_of_eq_nil h trivial
  have hapart : numbers.TellsApart (.column none "n") [1, 2, 3, 4, 5] :=
    ⟨fun _ _ => rfl, by decide⟩
  obtain ⟨t, ht, -, hassigned, -, hperm, -⟩ :=
    Dialect.IsBuiltIn.perm_found_settle (.sqlServer .utc) numbers ⟨fun _ => ["n"], fun _ => []⟩
      (show allButLast.rows.key = some (.column none "n") from rfl)
      (by rintro key ⟨⟩; exact hplain rfl)
      (List.forall_mem_singleton.2 (hplain rfl)) .absent (.bind 1) (by decide) hapart
  exact ⟨t, ht, hassigned, hperm⟩

end PolySql
