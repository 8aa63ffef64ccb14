import PolySql.Proofs.Settle.Step

namespace PolySql

variable {caps : Capabilities} {catalog : Catalog} {step : Bool → Select → Select}

namespace Select

inductive Added (caps : Capabilities) (catalog : Catalog) (s : Select) : Expr → Prop
  | top (n : Int64) : caps.topExistsCheck = true → s.distinct = true →
    Added caps catalog s (.raw topOne [.int n])
  | key {o : Order} : caps.deterministicPaging = true → keyOrder? catalog s.source = some o →
    Added caps catalog s o.expr
  | bare {text : String} {binds : List Value} {o : Order} : caps.distinctOrderProjections = true →
    s.distinct = true → o ∈ s.orders → o.expr = .raw text binds →
      Added caps catalog s (.raw (OrderText.bare text) binds)

variable {nested : Bool} {s : Select} {P : Node → Prop}

theorem Added.parts_eq_nil {e : Expr} (h : s.Added caps catalog e) : e.parts = [] := by
  cases h with
  | top n _ _ => rfl
  | key _ h =>
    obtain ⟨qualifier, column, he⟩ := orderedBy_keyOrder h
    rw [he]
    rfl
  | bare _ _ _ _ => rfl

theorem forall_parts_dropIdleOrder (hs : ∀ m ∈ s.parts, P m) :
    ∀ m ∈ (s.dropIdleOrder caps nested).parts, P m := by
  rw [forall_parts] at hs ⊢
  have ho (o : Order) : o ∈ (s.dropIdleOrder caps nested).orders → o ∈ s.orders :=
    mem_orders_dropIdleOrder nested
  rw [dropIdleOrder_eq] at ho ⊢
  obtain ⟨hp, ht, hj, hw, hg, hh, hs⟩ := hs
  exact ⟨hp, ht, hj, hw, hg, hh, fun o hm => hs o (ho o hm)⟩

theorem forall_parts_probeWithTop (hs : ∀ m ∈ s.parts, P m)
    (hadd : ∀ e, s.Added caps catalog e → P (.expr e)) : ∀ m ∈ (s.probeWithTop caps).parts, P m := by
  rw [forall_parts] at hs ⊢
  rw [probeWithTop_eq]
  refine ⟨?_, hs.2⟩
  dsimp only
  split
  · rename_i hc
    rw [Bool.and_eq_true] at hc
    intro p hp
    rw [List.mem_singleton.1 hp]
    exact hadd _ (.top _ hc.1 (isProbe_iff.1 hc.2).1)
  · exact hs.1

theorem forall_parts_orderPaging (hs : ∀ m ∈ s.parts, P m)
    (hadd : ∀ e, s.Added caps catalog e → P (.expr e)) :
    ∀ m ∈ (s.orderPaging caps catalog).parts, P m := by
  rw [forall_parts] at hs ⊢
  rw [orderPaging_eq]
  obtain ⟨hp, ht, hj, hw, hg, hh, ho⟩ := hs
  refine ⟨hp, ht, hj, hw, hg, hh, ?_⟩
  dsimp only
  split
  · rename_i hc
    rw [Bool.and_eq_true] at hc
    intro o ho
    exact hadd _ (.key hc.2 (Option.mem_toList.1 ho))
  · exact ho

theorem forall_parts_projectDistinctOrders (hs : ∀ m ∈ s.parts, P m)
    (hadd : ∀ e, s.Added caps catalog e → P (.expr e)) :
    ∀ m ∈ (s.projectDistinctOrders caps).parts, P m := by
  rw [forall_parts] at hs ⊢
  rw [projectDistinctOrders_eq]
  refine ⟨?_, hs.2⟩
  dsimp only
  split
  · rename_i hc
    simp only [Bool.and_eq_true] at hc
    intro p hp
    rcases List.mem_append.1 hp with hp | hp
    · have hm : p.expr ∈ s.missingOrders := by
        rw [← numbered_exprs s.missingOrders s.stemCount]
        exact List.mem_map_of_mem hp
      obtain ⟨o, ho, he⟩ := mem_of_mem_missingOrders s hm
      rw [← he]
      have hoe := hs.2.2.2.2.2.2 o ho
      cases hx : o.expr with
      | raw text binds => exact hadd _ (.bare hc.1.1.1 hc.1.1.2 ho hx)
      | _ => rw [hx] at hoe; exact hoe
    · exact hs.1 p hp
  · exact hs.1

theorem parts_completeOffset : (s.completeOffset caps).parts = s.parts := by
  rw [completeOffset_eq]
  rfl

theorem forall_parts_settleStep (hs : ∀ m ∈ (s.dropIdleOrder caps nested).parts, P m)
    (hadd : ∀ e, s.Added caps catalog e → P (.expr e)) :
    ∀ m ∈ (settleStep caps catalog nested s).parts, P m := by
  have hdrop : ∀ e, (s.dropIdleOrder caps nested).Added caps catalog e → P (.expr e) := by
    intro e he
    rw [dropIdleOrder_eq] at he
    cases he with
    | top n hc hd => exact hadd _ (.top n hc hd)
    | key hc h => exact hadd _ (.key hc h)
    | bare hc hd ho hx =>
      rw [← dropIdleOrder_eq] at ho
      exact hadd _ (.bare hc hd (mem_orders_dropIdleOrder nested ho) hx)
  have hprobe : ∀ e, ((s.dropIdleOrder caps nested).probeWithTop caps).Added caps catalog e →
      P (.expr e) := by
    intro e he
    rw [probeWithTop_eq] at he
    cases he with
    | top n hc hd => exact hdrop _ (.top n hc hd)
    | key hc h => exact hdrop _ (.key hc h)
    | bare hc hd ho hx => exact hdrop _ (.bare hc hd ho hx)
  have hpaged : ∀ e,
      ((((s.dropIdleOrder caps nested).probeWithTop caps).orderPaging caps catalog).completeOffset
        caps).Added caps catalog e → P (.expr e) := by
    intro e he
    rw [completeOffset_eq] at he
    cases he with
    | top n hc hd =>
      rw [orderPaging_eq] at hd
      exact hprobe _ (.top n hc hd)
    | key hc h =>
      rw [orderPaging_eq] at h
      exact hprobe _ (.key hc h)
    | bare hc hd ho hx =>
      rcases mem_orders_orderPaging ho with ho | ho
      · rw [orderPaging_eq] at hd
        exact hprobe _ (.bare hc hd ho hx)
      · obtain ⟨qualifier, column, he⟩ := orderedBy_keyOrder ho
        rw [he] at hx
        cases hx
  unfold settleStep
  refine forall_parts_projectDistinctOrders ?_ hpaged
  rw [parts_completeOffset]
  exact forall_parts_orderPaging (forall_parts_probeWithTop hs hdrop) hprobe

theorem isOne_parts {e : Expr} (h : isOne e = true) : e.parts = [] := by
  cases e with
  | value v | raw text binds => rfl
  | _ => cases h

theorem forall_parts_of_probeWithTop (hleaf : ∀ e : Expr, e.parts = [] → P (.expr e))
    (hs : ∀ m ∈ (s.probeWithTop caps).parts, P m) : ∀ m ∈ s.parts, P m := by
  rw [forall_parts] at hs ⊢
  rw [probeWithTop_eq] at hs
  refine ⟨?_, hs.2⟩
  intro p hp
  by_cases hprobe : (caps.topExistsCheck && s.isProbe) = true
  · rw [Bool.and_eq_true] at hprobe
    have hone := (isProbe_iff.1 hprobe.2).2.2.1 p hp
    rw [isProbeProjection, Bool.and_eq_true] at hone
    exact hleaf _ (isOne_parts hone.1)
  · have hproj := hs.1
    simp only [if_neg hprobe] at hproj
    exact hproj p hp

theorem forall_parts_of_orderPaging (hs : ∀ m ∈ (s.orderPaging caps catalog).parts, P m) :
    ∀ m ∈ s.parts, P m := by
  rw [forall_parts] at hs ⊢
  rw [orderPaging_eq] at hs
  obtain ⟨hp, ht, hj, hw, hg, hh, ho⟩ := hs
  refine ⟨hp, ht, hj, hw, hg, hh, ?_⟩
  intro o hmem
  have hne : s.orders.isEmpty = false := List.isEmpty_eq_false_iff.2 (List.ne_nil_of_mem hmem)
  simp only [hne, Bool.and_false, Bool.false_and, Bool.false_eq_true, if_false] at ho
  exact ho o hmem

theorem forall_parts_of_projectDistinctOrders
    (hs : ∀ m ∈ (s.projectDistinctOrders caps).parts, P m) : ∀ m ∈ s.parts, P m := by
  rw [forall_parts] at hs ⊢
  rw [projectDistinctOrders_eq] at hs
  refine ⟨?_, hs.2⟩
  intro p hp
  refine hs.1 p ?_
  dsimp only
  split
  · exact List.mem_append_right _ hp
  · exact hp

theorem forall_parts_of_settleStep (hleaf : ∀ e : Expr, e.parts = [] → P (.expr e))
    (hs : ∀ m ∈ (settleStep caps catalog nested s).parts, P m) :
    ∀ m ∈ (s.dropIdleOrder caps nested).parts, P m := by
  have hpaged := forall_parts_of_projectDistinctOrders hs
  rw [parts_completeOffset] at hpaged
  exact forall_parts_of_probeWithTop hleaf (forall_parts_of_orderPaging hpaged)

theorem forall_bounds_probeWithTop (hs : ∀ m ∈ s.bounds, P m) :
    ∀ m ∈ (s.probeWithTop caps).bounds, P m := by
  rw [forall_bounds] at hs ⊢
  rw [probeWithTop_eq]
  refine ⟨?_, hs.2⟩
  dsimp only
  split
  · rintro e ⟨⟩
  · exact hs.1

theorem forall_bounds_completeOffset (hs : ∀ m ∈ s.bounds, P m) (hzero : P (.expr zero)) :
    ∀ m ∈ (s.completeOffset caps).bounds, P m := by
  rw [forall_bounds] at hs ⊢
  rw [completeOffset_eq]
  refine ⟨hs.1, ?_⟩
  dsimp only
  split
  · rintro e ⟨⟩
    exact hzero
  · exact hs.2

theorem forall_bounds_settleStep (hs : ∀ m ∈ s.bounds, P m) (hzero : P (.expr zero)) :
    ∀ m ∈ (settleStep caps catalog nested s).bounds, P m := by
  have hdrop : (s.dropIdleOrder caps nested).bounds = s.bounds := by
    rw [dropIdleOrder_eq]
    rfl
  rw [← hdrop] at hs
  unfold settleStep
  rw [projectDistinctOrders_eq]
  refine forall_bounds_completeOffset ?_ hzero
  rw [orderPaging_eq]
  exact forall_bounds_probeWithTop hs

end Select

end PolySql
