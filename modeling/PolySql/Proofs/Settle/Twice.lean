import PolySql.Proofs.Settle.Parts

namespace PolySql

open Select

variable {caps : Capabilities} {catalog : Catalog}

section Tests
variable {f : Expr → Expr} {g : TableRef → TableRef} {h : Select → Select}
  {step : Bool → Select → Select}

theorem Expr.isNaNFree_mapParts (e : Expr) : (e.mapParts f h).isNaNFree = e.isNaNFree := by
  cases e <;> rfl

namespace Select

theorem isOne_transform (e : Expr) : isOne (e.transform step) = isOne e := by
  rw [e.transform_eq]
  cases e <;> rfl

theorem isTopOne_transform (e : Expr) : isTopOne (e.transform step) = isTopOne e := by
  rw [e.transform_eq]
  cases e <;> rfl

theorem isStar_transform (e : Expr) : isStar (e.transform step) = isStar e := by
  rw [e.transform_eq]
  cases e <;> rfl

theorem orderedBy_transform (e : Expr) :
    orderedBy (e.transform step) = (orderedBy e).transform step := by
  rw [e.transform_eq, (orderedBy e).transform_eq]
  cases e <;> rfl

theorem catalogName?_transform (t : TableRef) :
    (t.transform step).catalogName? = t.catalogName? := by
  rw [t.transform_eq]
  cases t <;> rfl

theorem keyOrder?_transform (t : Option TableRef) :
    keyOrder? catalog (t.map (TableRef.transform step)) = keyOrder? catalog t := by
  cases t with
  | none => rfl
  | some t =>
    show ((t.transform step).catalogName? >>= _) = (t.catalogName? >>= _)
    rw [catalogName?_transform]

variable {s : Select}

theorem isProbe_mapParts : (s.mapParts (Expr.transform step) g).isProbe = s.isProbe := by
  have hp (p : Projection) :
      isProbeProjection (p.map (Expr.transform step)) = isProbeProjection p := by
    show (isOne _ && _) = (isOne _ && _)
    rw [Projection.map, isOne_transform]
  simp only [isProbe, mapParts, List.isEmpty_map, List.all_map, Function.comp_def, hp]

theorem hasTopOne_mapParts : (s.mapParts (Expr.transform step) g).hasTopOne = s.hasTopOne := by
  simp only [hasTopOne, mapParts, List.any_map, Function.comp_def, Projection.map,
    isTopOne_transform]

theorem selectsAll_mapParts : (s.mapParts (Expr.transform step) g).selectsAll = s.selectsAll := by
  simp only [selectsAll, mapParts, List.any_map, Function.comp_def, Projection.map,
    isStar_transform]

theorem dropIdleOrder_mapParts (nested : Bool) :
    (s.mapParts f g).dropIdleOrder caps nested = (s.dropIdleOrder caps nested).mapParts f g := by
  have hp : (s.mapParts f g).isPaged = s.isPaged := rfl
  unfold dropIdleOrder
  rw [hp]
  split <;> rfl

theorem IsSettled.mapParts (hs : s.IsSettled caps catalog)
    (hsame : ∀ e e' : Expr, (e == e') = true → (e.transform step == e'.transform step) = true) :
    (s.mapParts (Expr.transform step) (TableRef.transform step)).IsSettled caps catalog where
  no_probe hc := by
    rw [isProbe_mapParts]
    exact hs.no_probe hc
  offset_of_limit := hs.offset_of_limit
  order_of_paging hc hp ho := by
    refine (keyOrder?_transform s.source).trans (hs.order_of_paging hc hp ?_)
    simpa [Select.mapParts] using ho
  orders_selected hc hd ht ha o ho := by
    rw [hasTopOne_mapParts] at ht
    rw [selectsAll_mapParts] at ha
    obtain ⟨o, hmem, rfl⟩ := List.mem_map.1 ho
    have hsel := hs.orders_selected hc hd ht ha o hmem
    obtain ⟨p, hp, he⟩ := List.any_eq_true.1 hsel
    refine List.any_eq_true.2 ⟨p.map (Expr.transform step), List.mem_map_of_mem hp, ?_⟩
    show (p.expr.transform step == orderedBy (o.expr.transform step)) = true
    rw [orderedBy_transform]
    exact hsame _ _ he

end Select

end Tests

namespace Node

def IsSettled (caps : Capabilities) (catalog : Catalog) : Node → Prop
  | .select s => s.IsSettled caps catalog
  | .expr _ | .table _ => True

theorem isNaNFree_raw (text text' : String) {binds : List Value}
    (h : (Expr.raw text binds).isNaNFree = true) : (Expr.raw text' binds).isNaNFree = true :=
  h

theorem isNaNFree_of_added {s : Select} {e : Expr} (h : s.Added caps catalog e)
    (ho : ∀ o ∈ s.orders, o.expr.isNaNFree = true) : e.isNaNFree = true := by
  cases h with
  | top n _ _ => rfl
  | key _ h =>
    obtain ⟨qualifier, column, he⟩ := orderedBy_keyOrder h
    rw [he]
    rfl
  | bare _ _ hm hx =>
    have hb := ho _ hm
    rw [hx] at hb
    exact isNaNFree_raw _ _ hb

theorem throughout_settleStep {c : Node → Prop} {nested : Bool} {s : Select}
    (hs : c (.select (settleStep caps catalog nested s)))
    (hadd : ∀ e, s.Added caps catalog e → c (.expr e)) (hzero : c (.expr zero))
    (h : ∀ m ∈ (select s).children, m.Throughout children c) :
    (select (settleStep caps catalog nested s)).Throughout children c := by
  obtain ⟨hp, hb⟩ := List.forall_mem_append.1 h
  refine .intro hs (List.forall_mem_append.2 ⟨?_, ?_⟩)
  · exact Select.forall_parts_settleStep (Select.forall_parts_dropIdleOrder hp)
      fun e he => throughout_of_eq_nil he.parts_eq_nil (hadd e he)
  · exact Select.forall_bounds_settleStep hb (throughout_of_eq_nil rfl hzero)

theorem isNaNFree_settleStep {nested : Bool} {s : Select}
    (h : (Node.select s).Throughout children IsNaNFree) :
    (Node.select (settleStep caps catalog nested s)).Throughout children IsNaNFree := by
  have hm := (throughout_iff.1 h).2
  refine throughout_settleStep trivial (fun e he => isNaNFree_of_added he fun o ho => ?_) rfl hm
  have ho := (Select.forall_parts.1 (List.forall_mem_append.1 hm).1).2.2.2.2.2.2 o ho
  exact (throughout_iff.1 ho).1

theorem isNaNFree_transform {n : Node} (h : n.Throughout children IsNaNFree) :
    (n.transform (settleStep caps catalog)).Throughout children IsNaNFree := by
  refine throughout_transform ?_ (fun t _ => trivial) (fun s _ => trivial)
    (fun nested s => isNaNFree_settleStep) h
  intro e he
  show (e.transform _).isNaNFree = true
  rw [e.transform_eq, Expr.isNaNFree_mapParts]
  exact he

theorem orders_beq_self {s : Select} (h : (select s).Throughout children IsNaNFree) :
    ∀ o ∈ s.orders, (orderedBy o.expr == orderedBy o.expr) = true := by
  intro o ho
  have hp := (List.forall_mem_append.1 (throughout_iff.1 h).2).1
  have hm := (Select.forall_parts.1 hp).2.2.2.2.2.2 o ho
  cases hx : o.expr with
  | raw text binds =>
    rw [hx] at hm
    have hb : (Expr.raw text binds).isNaNFree = true := (throughout_iff.1 hm).1
    have hbare : (Node.expr (.raw (OrderText.bare text) binds)).Throughout children IsNaNFree :=
      throughout_of_eq_nil rfl (isNaNFree_raw text _ hb)
    exact sameSelf_of_isNaNFree hbare
  | _ =>
    rw [hx] at hm
    exact sameSelf_of_isNaNFree hm

theorem throughout_settleStep_parts {s : Select} {c : Node → Prop} (hleaf : ∀ e, c (.expr e))
    (nested : Bool) (h : ∀ m ∈ s.parts, m.Throughout parts c) :
    ∀ m ∈ (settleStep caps catalog nested s).parts, m.Throughout parts c :=
  Select.forall_parts_settleStep (Select.forall_parts_dropIdleOrder h)
    fun e he => throughout_of_eq_nil he.parts_eq_nil (hleaf e)

theorem isSettled_select_transform {s : Select}
    (h : (select s).Throughout children IsNaNFree)
    (hm : ∀ m ∈ s.parts,
      (m.transform (settleStep caps catalog)).Throughout parts (IsSettled caps catalog))
    (nested : Bool) :
    (select (s.transform (settleStep caps catalog) nested)).Throughout parts
      (IsSettled caps catalog) := by
  rw [s.transform_eq]
  obtain ⟨hp, hb⟩ := List.forall_mem_append.1 (throughout_iff.1 h).2
  refine .intro (isSettled_settleStep nested (orders_beq_self ?_))
    (throughout_settleStep_parts (fun _ => trivial) nested (s.forall_parts_transform _ hm))
  refine .intro trivial (List.forall_mem_append.2 ⟨?_, hb⟩)
  exact s.forall_parts_transform _ fun m hm => isNaNFree_transform (hp m hm)

theorem isSettled_transform {n : Node} (h : n.Throughout children IsNaNFree) :
    (n.transform (settleStep caps catalog)).Throughout parts (IsSettled caps catalog) := by
  induction n using Node.induct with
  | step n ih =>
    have hm := fun m hm => ih m (mem_children_of_mem_parts hm)
      ((throughout_iff.1 h).2 m (mem_children_of_mem_parts hm))
    cases n with
    | expr e => exact .intro trivial (forall_parts_transform (by rintro s ⟨⟩) hm)
    | table t => exact .intro trivial (forall_parts_transform (by rintro s ⟨⟩) hm)
    | select s => exact isSettled_select_transform h hm true

theorem sameList_clear {os os' : List Order} {c : Prop} [Decidable c]
    (h : Order.sameList os os' = true) :
    Order.sameList (if c then [] else os) (if c then [] else os') = true := by
  split
  · simp [Order.sameList]
  · exact h

theorem dropIdleOrder_same {s s' : Select} (h : s.same s' = true) :
    (s.dropIdleOrder caps true).same (s'.dropIdleOrder caps true) = true := by
  rw [dropIdleOrder_eq, dropIdleOrder_eq]
  cases s
  cases s'
  simp only [Select.same, Bool.and_eq_true] at h ⊢
  obtain ⟨⟨⟨⟨⟨⟨⟨⟨⟨⟨sd, sp⟩, st⟩, sj⟩, sw⟩, sg⟩, sh⟩, so⟩, sl⟩, sk⟩, sx⟩ := h
  refine ⟨⟨⟨⟨⟨⟨⟨⟨⟨⟨sd, sp⟩, st⟩, sj⟩, sw⟩, sg⟩, sh⟩, ?_⟩, sl⟩, sk⟩, sx⟩
  have hisSome (a b : Option Expr) (h : Expr.sameOption a b = true) : a.isSome = b.isSome := by
    cases a <;> cases b <;> first | rfl | simp [Expr.sameOption] at h
  simp only [isPaged, hisSome _ _ sl, hisSome _ _ sk]
  exact sameList_clear so

theorem beq_transform_dropIdleOrder (e e' : Expr) (h : (e == e') = true) :
    (e.transform (dropIdleOrder caps) == e'.transform (dropIdleOrder caps)) = true :=
  keepsSame_transform (fun _ _ => dropIdleOrder_same) (.expr e) e' h

theorem select_transform_of_isSettled {s : Select} (hs : s.IsSettled caps catalog)
    (hm : ∀ m ∈ s.parts,
      m.transform (settleStep caps catalog) = m.transform (dropIdleOrder caps)) (nested : Bool) :
    s.transform (settleStep caps catalog) nested = s.transform (dropIdleOrder caps) nested := by
  rw [s.transform_eq, s.transform_eq, Select.mapParts_congr hm]
  exact (IsSettled.mapParts hs beq_transform_dropIdleOrder).settleStep nested

theorem transform_of_isSettled {n : Node} (h : n.Throughout parts (IsSettled caps catalog)) :
    n.transform (settleStep caps catalog) = n.transform (dropIdleOrder caps) := by
  induction h with
  | @intro n h _ ih =>
    cases n with
    | expr e =>
      show expr (e.transform _) = expr (e.transform _)
      rw [e.transform_eq, e.transform_eq]
      exact congrArg expr (Expr.mapParts_congr ih)
    | table t =>
      show table (t.transform _) = table (t.transform _)
      rw [t.transform_eq, t.transform_eq]
      exact congrArg table (TableRef.mapParts_congr ih)
    | select s => exact congrArg select (select_transform_of_isSettled h ih true)

end Node

end PolySql
