import PolySql.Proofs.Settle.Width
import PolySql.Proofs.Tree.Place

namespace PolySql

open Select

variable {caps : Capabilities} {catalog : Catalog}

namespace Node

-- An order of a distinct SELECT is copied in front of all that the SELECT has selected.
inductive Shift (n : Node) : Place → Place → Prop
  | stays (p : Place) : Shift n p p
  | selected {s : Select} {i j : Nat} : n = .select s → s.distinct = true → s.hasTopOne = false →
    s.width ≤ j → Shift n ⟨.orders, i⟩ ⟨.projections, j⟩

inductive Shifts : Node → List Place → List Place → Prop
  | nil (n : Node) : Shifts n [] []
  | cons {n m : Node} {p p' : Place} {path path' : List Place} : n.Shift p p' → n.at? p = some m →
    Shifts m path path' → Shifts n (p :: path) (p' :: path')

variable {n n' m m' : Node} {p p' : Place} {nested : Bool} {s : Select} {i j : Nat}

theorem isLeaf_keyOrder {t : Option TableRef} {o : Order} (h : keyOrder? catalog t = some o) :
    (expr o.expr).IsLeaf := by
  obtain ⟨qualifier, column, he⟩ := orderedBy_keyOrder h
  rw [he]
  exact rfl

theorem orderedBy_cases (e : Expr) : (expr (orderedBy e)).IsLeaf ∨ orderedBy e = e := by
  cases e with
  | raw text binds => exact .inl rfl
  | _ => exact .inr rfl

theorem orders_settleStep :
    (settleStep caps catalog nested s).orders = (s.prepared caps catalog nested).orders := by
  rw [settleStep_eq, projectDistinctOrders_eq]

section Cases
variable (caps catalog nested s)

theorem orders_settleStep_cases :
    (settleStep caps catalog nested s).orders = (keyOrder? catalog s.source).toList ∨
      (settleStep caps catalog nested s).orders = [] ∨
        (settleStep caps catalog nested s).orders = s.orders := by
  rw [orders_settleStep, prepared, completeOffset_eq, orderPaging_eq]
  dsimp only
  split
  · rw [probeWithTop_eq, dropIdleOrder_eq]
    exact .inl rfl
  · rw [probeWithTop_eq, dropIdleOrder_eq]
    exact .inr (ite_eq_or_eq ..)

theorem limit_settleStep_cases :
    (settleStep caps catalog nested s).limit = none ∨ (settleStep caps catalog nested s).limit = s.limit := by
  rw [settleStep, projectDistinctOrders_eq, completeOffset_eq, orderPaging_eq, probeWithTop_eq,
    dropIdleOrder_eq]
  exact ite_eq_or_eq ..

theorem offset_settleStep_cases :
    (settleStep caps catalog nested s).offset = some zero ∨
      (settleStep caps catalog nested s).offset = s.offset := by
  rw [settleStep, projectDistinctOrders_eq, completeOffset_eq, orderPaging_eq, probeWithTop_eq,
    dropIdleOrder_eq]
  exact ite_eq_or_eq ..

end Cases

theorem at?_orders_settleStep
    (hm : (select (settleStep caps catalog nested s)).at? ⟨.orders, i⟩ = some m) :
    m.IsLeaf ∨ (select s).at? ⟨.orders, i⟩ = some m := by
  change ((settleStep caps catalog nested s).orders.map fun o => expr o.expr)[i]? = some m at hm
  obtain h | h | h := orders_settleStep_cases caps catalog nested s
  · rw [h] at hm
    obtain ⟨o, ho, rfl⟩ := List.mem_map.1 (List.mem_of_getElem? hm)
    exact .inl (isLeaf_keyOrder (Option.mem_toList.1 ho))
  · rw [h] at hm
    cases hm
  · rw [h] at hm
    exact .inr hm

theorem at?_limit_settleStep
    (hm : (select (settleStep caps catalog nested s)).at? ⟨.limit, i⟩ = some m) :
    (select s).at? ⟨.limit, i⟩ = some m := by
  change ((settleStep caps catalog nested s).limit.toList.map expr)[i]? = some m at hm
  obtain h | h := limit_settleStep_cases caps catalog nested s
  · rw [h] at hm
    cases hm
  · rw [h] at hm
    exact hm

theorem at?_offset_settleStep
    (hm : (select (settleStep caps catalog nested s)).at? ⟨.offset, i⟩ = some m) :
    m.IsLeaf ∨ (select s).at? ⟨.offset, i⟩ = some m := by
  change ((settleStep caps catalog nested s).offset.toList.map expr)[i]? = some m at hm
  obtain h | h := offset_settleStep_cases caps catalog nested s
  · rw [h] at hm
    obtain rfl := List.mem_singleton.1 (List.mem_of_getElem? hm)
    exact .inl rfl
  · rw [h] at hm
    exact .inr hm

theorem at?_of_mem_numbered {start : Nat} {p : Projection}
    (hp : p ∈ numbered start (s.prepared caps catalog nested).missingOrders) :
    (expr p.expr).IsLeaf ∨ ∃ i, (select s).at? ⟨.orders, i⟩ = some (expr p.expr) := by
  have hmissing : p.expr ∈ (s.prepared caps catalog nested).missingOrders := by
    rw [← numbered_exprs (s.prepared caps catalog nested).missingOrders]
    exact List.mem_map_of_mem hp
  obtain ⟨o, ho, he⟩ := mem_of_mem_missingOrders _ hmissing
  have horder : expr o.expr ∈ (settleStep caps catalog nested s).orderParts := by
    rw [orderParts, orders_settleStep]
    exact List.mem_map_of_mem ho
  obtain ⟨i, hi⟩ := List.mem_iff_getElem?.1 horder
  rw [← he]
  obtain hleaf | hsame := orderedBy_cases o.expr
  · exact .inl hleaf
  · rw [hsame]
    exact (at?_orders_settleStep hi).imp_right fun h => ⟨i, h⟩

theorem getElem?_reverse_append {ps added : List Projection} {m : Node}
    (hm : ((added ++ ps).reverse.map fun p => expr p.expr)[j]? = some m) :
    (ps.reverse.map fun p => expr p.expr)[j]? = some m ∨
      ps.length ≤ j ∧ ∃ p ∈ added, m = expr p.expr := by
  rw [List.reverse_append, List.map_append] at hm
  by_cases hj : j < ps.length
  · rw [List.getElem?_append_left (by simpa using hj)] at hm
    exact .inl hm
  · rw [List.getElem?_append_right (by simpa using hj)] at hm
    obtain ⟨p, hp, rfl⟩ := List.mem_map.1 (List.mem_of_getElem? hm)
    exact .inr ⟨Nat.le_of_not_lt hj, p, List.mem_reverse.1 hp, rfl⟩

theorem at?_projections_settleStep (htop : caps.topExistsCheck = true)
    (hm : (select (settleStep caps catalog nested s)).at? ⟨.projections, j⟩ = some m) :
    m.IsLeaf ∨ ∃ p, (select s).at? p = some m ∧ (select s).Shift p ⟨.projections, j⟩ := by
  change ((settleStep caps catalog nested s).projections.reverse.map fun p => expr p.expr)[j]? = some m at hm
  cases hprobe : s.isProbe with
  | true =>
    rw [projections_settleStep_of_isProbe htop hprobe, probeWithTop_eq, htop, hprobe] at hm
    obtain rfl := List.mem_singleton.1 (List.mem_of_getElem? hm)
    exact .inl rfl
  | false =>
    have hp : (s.prepared caps catalog nested).projections = s.projections := by
      rw [projections_prepared, probeWithTop_of_not_isProbe hprobe]
    rw [settleStep_eq, projectDistinctOrders_eq] at hm
    dsimp only at hm
    rw [hp, distinct_prepared, hasTopOne_congr hp] at hm
    split at hm
    · rename_i hc
      simp only [Bool.and_eq_true, Bool.not_eq_true'] at hc
      obtain hm | ⟨hj, p, hadded, rfl⟩ := getElem?_reverse_append hm
      · exact .inr ⟨⟨.projections, j⟩, hm, .stays _⟩
      · refine (at?_of_mem_numbered hadded).imp_right ?_
        rintro ⟨i, hi⟩
        exact ⟨⟨.orders, i⟩, hi, .selected rfl hc.1.1.2 hc.1.2 hj⟩
    · exact .inr ⟨⟨.projections, j⟩, hm, .stays _⟩

theorem at?_settleStep (htop : caps.topExistsCheck = true)
    (hm : (select (settleStep caps catalog nested s)).at? p' = some m) :
    m.IsLeaf ∨ ∃ p, (select s).at? p = some m ∧ (select s).Shift p p' := by
  have hsame {c : Slot} {i : Nat} (h : (select s).at? ⟨c, i⟩ = some m) :
      ∃ p, (select s).at? p = some m ∧ (select s).Shift p ⟨c, i⟩ :=
    ⟨_, h, .stays _⟩
  obtain ⟨c, i⟩ := p'
  cases c with
  | projections => exact at?_projections_settleStep htop hm
  | orders => exact (at?_orders_settleStep hm).imp_right hsame
  | limit => exact .inr (hsame (at?_limit_settleStep hm))
  | offset => exact (at?_offset_settleStep hm).imp_right hsame
  | parts => cases hm
  | source | joins | wheres | groups | havings =>
    rw [settleStep_keeps] at hm
    exact .inr (hsame hm)

theorem Shift.of_settleInside (h : (select (s.settleInside caps catalog)).Shift p p') :
    (select s).Shift p p' := by
  cases h with
  | stays p => exact .stays p
  | selected hn hd ht hj =>
    obtain rfl := Node.select.inj hn
    exact .selected rfl hd (hasTopOne_settleInside.symm.trans ht) (width_settleInside ▸ hj)

theorem at?_settle (htop : caps.topExistsCheck = true)
    (hm : (select (s.settle caps catalog nested)).at? p' = some m') :
    m'.IsLeaf ∨ ∃ p m, (select s).at? p = some m ∧ (select s).Shift p p' ∧
      (m' = m ∨ m' = m.transform (settleStep caps catalog)) := by
  rw [settle_eq] at hm
  obtain hleaf | ⟨p, hm, hshift⟩ := at?_settleStep htop hm
  · exact .inl hleaf
  · obtain ⟨m, hm, hm'⟩ := at?_select_mapParts hm
    exact .inr ⟨p, m, hm, hshift.of_settleInside, hm'⟩

theorem at?_transform (htop : caps.topExistsCheck = true)
    (hm : (n.transform (settleStep caps catalog)).at? p' = some m') :
    m'.IsLeaf ∨ ∃ p m, n.at? p = some m ∧ n.Shift p p' ∧
      (m' = m ∨ m' = m.transform (settleStep caps catalog)) := by
  cases n with
  | expr e =>
    rw [transform, map_expr, e.transform_eq] at hm
    obtain ⟨m, hm, hm'⟩ := at?_expr_mapParts hm
    exact .inr ⟨p', m, hm, .stays p', .inr hm'⟩
  | table t =>
    rw [transform, map_table, t.transform_eq] at hm
    obtain ⟨m, hm, hm'⟩ := at?_table_mapParts hm
    exact .inr ⟨p', m, hm, .stays p', .inr hm'⟩
  | select s => exact at?_settle htop hm

theorem IsLeaf.transform (hn : n.IsLeaf) : n.transform (settleStep caps catalog) = n := by
  cases n with
  | expr e =>
    have he : e.parts = [] := hn
    have hparts : ∀ m ∈ e.parts, m.map (Expr.transform (settleStep caps catalog))
        (TableRef.transform (settleStep caps catalog)) (Select.transform (settleStep caps catalog) true) =
          m.map id id id := by
      rw [he]
      exact List.forall_mem_nil _
    rw [Node.transform, map_expr, e.transform_eq, Expr.mapParts_congr hparts, e.mapParts_id]
  | table t =>
    cases t with
    | derived q a => cases hn
    | _ => rfl
  | select s => cases hn

section Passes
variable (htop : caps.topExistsCheck = true) {k : Nat}

theorem iterate_transform_expr (e : Expr) :
    (Node.transform (settleStep caps catalog))^[k] (expr e) =
      expr ((Expr.transform (settleStep caps catalog))^[k] e) :=
  (Function.Semiconj.iterate_right (f := expr) (fun _ => rfl) k e).symm

theorem iterate_transform_table (t : TableRef) :
    (Node.transform (settleStep caps catalog))^[k] (table t) =
      table ((TableRef.transform (settleStep caps catalog))^[k] t) :=
  (Function.Semiconj.iterate_right (f := table) (fun _ => rfl) k t).symm

theorem iterate_transform_select (s : Select) :
    (Node.transform (settleStep caps catalog))^[k] (select s) =
      select ((Select.settle caps catalog true)^[k] s) :=
  (Function.Semiconj.iterate_right (f := select) (fun _ => rfl) k s).symm

theorem distinct_iterate_settle : ((Select.settle caps catalog nested)^[k] s).distinct = s.distinct := by
  induction k with
  | zero => rfl
  | succ k ih =>
    rw [Function.iterate_succ_apply', settle_eq, settleStep_keeps]
    exact ih

theorem hasTopOne_iterate_of_hasTopOne (h : s.hasTopOne = true) :
    ((Select.settle caps catalog nested)^[k] s).hasTopOne = true := by
  induction k with
  | zero => exact h
  | succ k ih =>
    rw [Function.iterate_succ_apply']
    exact hasTopOne_settle ih

include htop

theorem width_le_of_hasTopOne (hc : caps.distinctOrderProjections = true)
    (h : ((Select.settle caps catalog nested)^[k] s).hasTopOne = false) :
    s.width ≤ ((Select.settle caps catalog nested)^[k] s).width := by
  cases hprobe : s.isProbe with
  | false => exact width_le_iterate_settle htop hc hprobe
  | true =>
    cases k with
    | zero => exact Nat.le_refl _
    | succ k =>
      rw [hasTopOne_iterate_settle htop hprobe] at h
      cases h

variable (hc : caps.distinctOrderProjections = true)
include hc

theorem Shift.trans (h : n.Shift p p')
    {p'' : Place} (h' : ((Node.transform (settleStep caps catalog))^[k] n).Shift p' p'') : n.Shift p p'' := by
  cases h' with
  | stays p' => exact h
  | selected hn hd ht hj =>
    cases h with
    | stays p =>
      cases n with
      | expr e =>
        rw [iterate_transform_expr] at hn
        cases hn
      | table t =>
        rw [iterate_transform_table] at hn
        cases hn
      | select s =>
        rw [iterate_transform_select] at hn
        obtain rfl := Node.select.inj hn
        refine .selected rfl (distinct_iterate_settle.symm.trans hd) ?_ ?_
        · exact Bool.eq_false_iff.2 fun htop' =>
            Bool.false_ne_true (ht.symm.trans (hasTopOne_iterate_of_hasTopOne htop'))
        · exact Nat.le_trans (width_le_of_hasTopOne htop hc ht) hj

theorem at?_iterate_transform
    (hm : ((Node.transform (settleStep caps catalog))^[k] n).at? p' = some m') :
    m'.IsLeaf ∨ ∃ p m l, n.at? p = some m ∧ n.Shift p p' ∧
      m' = (Node.transform (settleStep caps catalog))^[l] m := by
  induction k generalizing p' m' with
  | zero => exact .inr ⟨p', m', 0, hm, .stays p', rfl⟩
  | succ k ih =>
    rw [Function.iterate_succ_apply'] at hm
    obtain hleaf | ⟨p₁, m₁, hm₁, hshift, hm'⟩ := at?_transform htop hm
    · exact .inl hleaf
    obtain hleaf | ⟨p, m, l, hat, hshift', rfl⟩ := ih hm₁
    · obtain rfl | rfl := hm'
      · exact .inl hleaf
      · rw [hleaf.transform]
        exact .inl hleaf
    · have hplace := hshift'.trans htop hc hshift
      obtain rfl | rfl := hm'
      · exact .inr ⟨p, m, l, hat, hplace, rfl⟩
      · exact .inr ⟨p, m, l + 1, hat, hplace, (Function.iterate_succ_apply' ..).symm⟩

end Passes

inductive Settles (caps : Capabilities) (catalog : Catalog) : Node → Node → Prop
  | passes (k : Nat) (n : Node) : Settles caps catalog n ((Node.transform (settleStep caps catalog))^[k] n)
  | root (s : Select) : Settles caps catalog (.select s) (.select (s.settle caps catalog false))

namespace Settles

theorem at? (htop : caps.topExistsCheck = true) (hc : caps.distinctOrderProjections = true)
    (h : Settles caps catalog n n') (hm : n'.at? p' = some m') :
    m'.IsLeaf ∨ ∃ p m, n.at? p = some m ∧ n.Shift p p' ∧ Settles caps catalog m m' := by
  cases h with
  | passes k n =>
    refine (at?_iterate_transform htop hc hm).imp_right ?_
    rintro ⟨p, m, l, hat, hshift, rfl⟩
    exact ⟨p, m, hat, hshift, .passes l m⟩
  | root s =>
    refine (at?_settle htop hm).imp_right ?_
    rintro ⟨p, m, hat, hshift, rfl | rfl⟩
    · exact ⟨p, m', hat, hshift, .passes 0 m'⟩
    · exact ⟨p, m, hat, hshift, .passes 1 m⟩

theorem find? (htop : caps.topExistsCheck = true) (hc : caps.distinctOrderProjections = true)
    {path' : List Place} (h : Settles caps catalog n n') (hm : n'.find? path' = some m') :
    m'.IsLeaf ∨ ∃ path m, n.find? path = some m ∧ n.Shifts path path' ∧ Settles caps catalog m m' := by
  induction path' generalizing n n' with
  | nil =>
    obtain rfl := Option.some.inj hm
    exact .inr ⟨[], n, rfl, .nil n, h⟩
  | cons p' path' ih =>
    obtain ⟨k', hk', hm⟩ := Option.bind_eq_some_iff.1 hm
    obtain hleaf | ⟨p, k, hk, hshift, hsettles⟩ := h.at? htop hc hk'
    · exact .inl (hleaf.eq_of_find? hm ▸ hleaf)
    · refine (ih hsettles hm).imp_right ?_
      rintro ⟨path, m, hpath, hshifts, hsettled⟩
      exact ⟨p :: path, m, Option.bind_eq_some_iff.2 ⟨k, hk, hpath⟩, .cons hshift hk hshifts, hsettled⟩

end Settles

end Node

end PolySql
