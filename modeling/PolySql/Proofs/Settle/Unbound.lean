import PolySql.Proofs.Settle.Width
import PolySql.Proofs.Write.Binds

namespace PolySql

open Select

variable {caps : Capabilities} {catalog : Catalog} {nested : Bool}

def Expr.IsUnbound (e : Expr) : Prop :=
  (Node.expr e).Throughout Node.children Node.IsUnbound

namespace Select

variable {s : Select}

theorem isUnbound_keyOrder {source : Option TableRef} {o : Order}
    (h : keyOrder? catalog source = some o) : o.expr.IsUnbound := by
  obtain ⟨qualifier, column, he⟩ := orderedBy_keyOrder h
  rw [he]
  exact Node.throughout_of_eq_nil rfl trivial

theorem isUnbound_orderedBy {e : Expr} (h : e.IsUnbound) : (orderedBy e).IsUnbound := by
  cases e with
  | raw text binds =>
    have hbinds : binds = [] := (Node.throughout_iff.1 h).1
    exact Node.throughout_of_eq_nil rfl hbinds
  | _ => exact h

section NoProbe
variable (h : s.isProbe = false) (ho : ∀ o ∈ s.orders, o.expr.IsUnbound)
include h ho

theorem isUnbound_orders_prepared :
    ∀ o ∈ (s.prepared caps catalog nested).orders, o.expr.IsUnbound := by
  intro o hmem
  rw [orders_prepared h, settledOrders] at hmem
  rcases mem_orders_orderPaging hmem with hmem | hkey
  · exact ho o (mem_orders_dropIdleOrder nested hmem)
  · exact isUnbound_keyOrder hkey

theorem isUnbound_orders_settleStep :
    ∀ o ∈ (settleStep caps catalog nested s).orders, o.expr.IsUnbound := by
  rw [settleStep_eq, projectDistinctOrders_eq]
  exact isUnbound_orders_prepared h ho

theorem isUnbound_projections_settleStep (hp : ∀ p ∈ s.projections, p.expr.IsUnbound) :
    ∀ p ∈ (settleStep caps catalog nested s).projections, p.expr.IsUnbound := by
  have hprepared : ∀ p ∈ (s.prepared caps catalog nested).projections, p.expr.IsUnbound := by
    rwa [projections_prepared, probeWithTop_of_not_isProbe h]
  intro p hmem
  rw [settleStep_eq, projectDistinctOrders_eq] at hmem
  dsimp only at hmem
  split at hmem
  · rcases List.mem_append.1 hmem with hmem | hmem
    · have hmissing : p.expr ∈ (s.prepared caps catalog nested).missingOrders := by
        rw [← numbered_exprs (s.prepared caps catalog nested).missingOrders
          (s.prepared caps catalog nested).stemCount]
        exact List.mem_map_of_mem hmem
      obtain ⟨o, hmemo, he⟩ := mem_of_mem_missingOrders _ hmissing
      exact he ▸ isUnbound_orderedBy (isUnbound_orders_prepared h ho o hmemo)
    · exact hprepared p hmem
  · exact hprepared p hmem

end NoProbe

theorem settleStep_of_not_isProbe (h : s.isProbe = false) :
    settleStep caps catalog nested s =
      settleStep { caps with topExistsCheck := false } catalog nested s := by
  have hskip (c : Capabilities) :
      (s.dropIdleOrder c nested).probeWithTop c = s.dropIdleOrder c nested :=
    probeWithTop_of_not_isProbe (isProbe_dropIdleOrder.trans h)
  unfold settleStep
  rw [hskip, hskip]
  rfl

end Select

namespace Node

def IsNoProbe : Node → Prop
  | .select s => s.isProbe = false
  | .expr _ | .table _ => True

theorem isUnbound_of_added (htop : caps.topExistsCheck = false) {s : Select} {e : Expr}
    (h : s.Added caps catalog e) (ho : ∀ o ∈ s.orders, o.expr.IsUnbound) : (expr e).IsUnbound := by
  cases h with
  | top n hc _ =>
    rw [htop] at hc
    cases hc
  | key _ h => exact (throughout_iff.1 (isUnbound_keyOrder h)).1
  | bare _ _ hm hx =>
    have hbare := (throughout_iff.1 (isUnbound_orderedBy (ho _ hm))).1
    rw [hx] at hbare
    exact hbare

theorem isUnbound_expr_transform {step : Bool → Select → Select} {e : Expr}
    (h : (expr e).IsUnbound) : (expr (e.transform step)).IsUnbound := by
  rw [e.transform_eq]
  cases e with
  | bind v => exact h.elim
  | raw text binds => exact h
  | _ => trivial

theorem isUnbound_transform {n : Node} (h : n.Throughout children IsUnbound)
    (hp : n.Throughout parts IsNoProbe) :
    (n.transform (settleStep caps catalog)).Throughout children IsUnbound := by
  induction n using Node.induct with
  | step n ih =>
    obtain ⟨hn, hchildren⟩ := throughout_iff.1 h
    obtain ⟨hprobe, hparts⟩ := throughout_iff.1 hp
    have hm := fun m hm => ih m (mem_children_of_mem_parts hm)
      (hchildren m (mem_children_of_mem_parts hm)) (hparts m hm)
    cases n with
    | expr e => exact .intro (isUnbound_expr_transform hn) (forall_parts_transform (by rintro s ⟨⟩) hm)
    | table t => exact .intro trivial (forall_parts_transform (by rintro s ⟨⟩) hm)
    | select s =>
      have hstep : (s.settleInside caps catalog).isProbe = false := isProbe_settleInside.trans hprobe
      have hinside : ∀ m ∈ (select (s.settleInside caps catalog)).children,
          m.Throughout children IsUnbound :=
        List.forall_mem_append.2 ⟨s.forall_parts_transform _ hm, (List.forall_mem_append.1 hchildren).2⟩
      have horders := (Select.forall_parts.1 (List.forall_mem_append.1 hinside).1).2.2.2.2.2.2
      show (select (s.settle caps catalog true)).Throughout children IsUnbound
      rw [Select.settle_eq, settleStep_of_not_isProbe hstep]
      exact throughout_settleStep trivial (fun e he => isUnbound_of_added rfl he horders) trivial hinside

end Node

structure Expr.IsClear (e : Expr) : Prop where
  unbound : e.IsUnbound
  no_probe : (Node.expr e).Throughout Node.parts Node.IsNoProbe

theorem Expr.IsClear.transform {e : Expr} (h : e.IsClear) :
    (e.transform (settleStep caps catalog)).IsUnbound :=
  Node.isUnbound_transform h.unbound h.no_probe

namespace Select

variable {s : Select}

structure BindsRowsOnly (s : Select) : Prop where
  projections : ∀ p ∈ s.projections, p.expr.IsClear
  groups : ∀ e ∈ s.groups, e.IsClear
  orders : ∀ o ∈ s.orders, o.expr.IsClear

theorem BindsRowsOnly.settle (hs : s.BindsRowsOnly) (h : s.isProbe = false) :
    (∀ p ∈ (s.settle caps catalog nested).projections, p.expr.IsUnbound) ∧
      (∀ e ∈ (s.settle caps catalog nested).groups, e.IsUnbound) ∧
      ∀ o ∈ (s.settle caps catalog nested).orders, o.expr.IsUnbound := by
  have hinside : (s.settleInside caps catalog).isProbe = false := isProbe_settleInside.trans h
  have hprojections : ∀ p ∈ (s.settleInside caps catalog).projections, p.expr.IsUnbound :=
    List.forall_mem_map.2 fun p hp => (hs.projections p hp).transform
  have hgroups : ∀ e ∈ (s.settleInside caps catalog).groups, e.IsUnbound :=
    List.forall_mem_map.2 fun e he => (hs.groups e he).transform
  have horders : ∀ o ∈ (s.settleInside caps catalog).orders, o.expr.IsUnbound :=
    List.forall_mem_map.2 fun o ho => (hs.orders o ho).transform
  have hkept : (settleStep caps catalog nested (s.settleInside caps catalog)).groups =
      (s.settleInside caps catalog).groups := by
    rw [settleStep_keeps]
  rw [settle_eq, hkept]
  exact ⟨isUnbound_projections_settleStep hinside horders hprojections, hgroups,
    isUnbound_orders_settleStep hinside horders⟩

end Select

end PolySql
