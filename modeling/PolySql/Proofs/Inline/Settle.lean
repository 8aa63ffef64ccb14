import PolySql.Proofs.Inline.Tree
import PolySql.Proofs.Settle.Statement

namespace PolySql

open Select

variable {caps : Capabilities} {catalog : Catalog} {nested : Bool}

namespace Select

def IsUnprobed (caps : Capabilities) (s : Select) : Prop :=
  caps.topExistsCheck = true ∨ caps.distinctOrderProjections = true → s.distinct = false

variable {s : Select}

theorem inline_clearOrders : s.clearOrders.inline = s.inline.clearOrders := by
  rw [inline_eq, inline_eq]
  rfl

theorem isPaged_inline : s.inline.isPaged = s.isPaged := by
  rw [inline_eq]
  cases hl : s.limit <;> cases ho : s.offset <;> simp [isPaged, mapBounds, mapParts, hl, ho]

theorem catalogName?_inline (t : TableRef) : t.inline.catalogName? = t.catalogName? := by
  cases t <;> rfl

theorem keyOrder?_inline (t : Option TableRef) :
    keyOrder? catalog (t.map TableRef.inline) = keyOrder? catalog t := by
  cases t with
  | none => rfl
  | some t =>
    show (t.inline.catalogName? >>= _) = (t.catalogName? >>= _)
    rw [catalogName?_inline]

theorem map_inline_keyOrder? (t : Option TableRef) :
    (keyOrder? catalog t).toList.map (Order.map Expr.inline) = (keyOrder? catalog t).toList := by
  cases h : keyOrder? catalog t with
  | none => rfl
  | some o =>
    obtain ⟨qualifier, column, he⟩ := orderedBy_keyOrder h
    cases o
    obtain rfl : _ = Expr.column (some qualifier) column := he
    rfl

theorem inline_dropIdleOrder :
    (s.dropIdleOrder caps nested).inline = s.inline.dropIdleOrder caps nested := by
  unfold dropIdleOrder
  rw [isPaged_inline]
  split
  · exact inline_clearOrders
  · rfl

theorem inline_orderPaging :
    (s.orderPaging caps catalog).inline = s.inline.orderPaging caps catalog := by
  have hempty : s.inline.orders.isEmpty = s.orders.isEmpty := by
    rw [inline_eq]
    exact List.isEmpty_map
  have hsource : s.inline.source = s.source.map TableRef.inline := by
    rw [inline_eq]
    rfl
  unfold orderPaging
  rw [isPaged_inline, hempty, hsource, keyOrder?_inline]
  split
  · rw [inline_eq, inline_eq, ← map_inline_keyOrder?]
    simp only [mapParts, mapBounds, map_inline_keyOrder?]
  · rfl

theorem inline_completeOffset : (s.completeOffset caps).inline = s.inline.completeOffset caps := by
  have hlimit : s.inline.limit.isSome = s.limit.isSome := by
    rw [inline_eq]
    exact Option.isSome_map
  have hoffset : s.inline.offset.isNone = s.offset.isNone := by
    rw [inline_eq]
    exact Option.isNone_map
  unfold completeOffset
  rw [hlimit, hoffset]
  split
  · rw [inline_eq, inline_eq]
    rfl
  · rfl

theorem IsUnprobed.settleStep (h : s.IsUnprobed caps) :
    settleStep caps catalog nested s =
      ((s.dropIdleOrder caps nested).orderPaging caps catalog).completeOffset caps := by
  have hprobe {s : Select} (h : s.IsUnprobed caps) : s.probeWithTop caps = s := by
    unfold probeWithTop
    split
    · rename_i hc
      rw [Bool.and_eq_true] at hc
      have hd := (isProbe_iff.1 hc.2).1
      rw [h (.inl hc.1)] at hd
      cases hd
    · rfl
  have hproject {s : Select} (h : s.IsUnprobed caps) : s.projectDistinctOrders caps = s := by
    unfold projectDistinctOrders
    split
    · rename_i hc
      simp only [Bool.and_eq_true] at hc
      rw [h (.inr hc.1.1)] at hc
      cases hc.1.2
    · rfl
  have hdrop : (s.dropIdleOrder caps nested).IsUnprobed caps := by
    rw [dropIdleOrder_eq]
    exact h
  unfold Select.settleStep
  rw [hprobe hdrop, hproject]
  rw [completeOffset_eq, orderPaging_eq]
  exact hdrop

theorem isUnprobed_inline (h : s.IsUnprobed caps) : s.inline.IsUnprobed caps := by
  rw [inline_eq]
  exact h

theorem IsUnprobed.inline_settleStep (h : s.IsUnprobed caps) :
    (Select.settleStep caps catalog nested s).inline =
      Select.settleStep caps catalog nested s.inline := by
  rw [h.settleStep, (isUnprobed_inline h).settleStep, inline_completeOffset, inline_orderPaging,
    inline_dropIdleOrder]

end Select

namespace Node

def IsUnprobed (caps : Capabilities) : Node → Prop
  | .select s => s.IsUnprobed caps
  | .expr _ | .table _ => True

theorem map_inline_transform {m : Node} (h : (m.transform (settleStep caps catalog)).inline =
      m.inline.transform (settleStep caps catalog)) :
    m.map (Expr.inline ∘ Expr.transform (settleStep caps catalog))
        (TableRef.inline ∘ TableRef.transform (settleStep caps catalog))
        (Select.inline ∘ Select.transform (settleStep caps catalog) true) =
      m.map (Expr.transform (settleStep caps catalog) ∘ Expr.inline)
        (TableRef.transform (settleStep caps catalog) ∘ TableRef.inline)
        (Select.transform (settleStep caps catalog) true ∘ Select.inline) := by
  rw [← map_map, ← map_map]
  exact h

theorem inline_select_transform {s : Select} (h : s.IsUnprobed caps)
    (hm : ∀ m ∈ s.parts, (m.transform (settleStep caps catalog)).inline =
      m.inline.transform (settleStep caps catalog)) (nested : Bool) :
    (s.transform (settleStep caps catalog) nested).inline =
      s.inline.transform (settleStep caps catalog) nested := by
  have hmap : IsUnprobed caps (.select (s.mapParts (Expr.transform (settleStep caps catalog))
      (TableRef.transform (settleStep caps catalog)))) := h
  have hparts := fun m hmem => map_inline_transform (hm m hmem)
  rw [s.transform_eq, Select.transform_eq, Select.IsUnprobed.inline_settleStep hmap, Select.inline_eq,
    Select.mapParts_mapParts, Select.mapParts_congr hparts, ← Select.mapParts_mapParts, s.inline_eq]
  rfl

theorem inline_transform {n : Node} (h : n.Throughout children (IsUnprobed caps)) :
    (n.transform (settleStep caps catalog)).inline =
      n.inline.transform (settleStep caps catalog) := by
  induction h with
  | @intro n h _ ih =>
    have hm := fun m hm => ih m (mem_children_of_mem_parts hm)
    have hparts := fun m hmem => map_inline_transform (hm m hmem)
    cases n with
    | expr e =>
      by_cases hb : ∃ v, e = .bind v
      · obtain ⟨v, rfl⟩ := hb
        rfl
      · have hne (v : Value) : e ≠ .bind v := fun he => hb ⟨v, he⟩
        have hne' (v : Value) : e.transform (settleStep caps catalog) ≠ .bind v := by
          rw [e.transform_eq]
          intro he
          cases e <;> simp_all [Expr.mapParts]
        show expr (e.transform _).inline = expr (e.inline.transform _)
        rw [Expr.inline_eq hne', Expr.inline_eq hne, e.transform_eq, Expr.transform_eq,
          Expr.mapParts_mapParts, Expr.mapParts_mapParts, Expr.mapParts_congr hparts]
    | table t =>
      show table (t.transform _).inline = table (t.inline.transform _)
      rw [TableRef.inline_eq, TableRef.inline_eq, t.transform_eq, TableRef.transform_eq,
        TableRef.mapParts_mapParts, TableRef.mapParts_mapParts, TableRef.mapParts_congr hparts]
    | select s => exact congrArg select (inline_select_transform h hm true)

end Node

end PolySql
