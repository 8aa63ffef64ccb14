import PolySql.Proofs.Tree.Node
import PolySql.Tree.Transform

namespace PolySql

def Branch.map (f : Expr → Expr) (b : Branch) : Branch :=
  ⟨f b.test, f b.result⟩

def Projection.map (f : Expr → Expr) (p : Projection) : Projection :=
  ⟨f p.expr, p.label⟩

def Order.map (f : Expr → Expr) (o : Order) : Order :=
  ⟨f o.expr, o.direction, o.nulls⟩

def Join.map (f : Expr → Expr) (g : TableRef → TableRef) (j : Join) : Join :=
  ⟨j.kind, g j.table, j.condition.map f⟩

def Expr.mapParts (f : Expr → Expr) (h : Select → Select) : Expr → Expr
  | .value v => .value v
  | .bind v => .bind v
  | .column t n => .column t n
  | .binary l o r => .binary (f l) o (f r)
  | .unary o e => .unary o (f e)
  | .function n as d => .function n (as.map f) d
  | .subquery q => .subquery (h q)
  | .exists q n => .exists (h q) n
  | .inSubquery e q n => .inSubquery (f e) (h q) n
  | .isNull e n => .isNull (f e) n
  | .inList e l n => .inList (f e) (l.map f) n
  | .between e low high n => .between (f e) (f low) (f high) n
  | .case o bs e => .case (o.map f) (bs.map (Branch.map f)) (e.map f)
  | .group e => .group (f e)
  | .bin e => .bin (f e)
  | .raw t bs => .raw t bs
  | .wildcard t => .wildcard t

def TableRef.mapParts (h : Select → Select) : TableRef → TableRef
  | .table s n a => .table s n a
  | .derived q a => .derived (h q) a
  | .raw t => .raw t

def Select.mapParts (f : Expr → Expr) (g : TableRef → TableRef) (s : Select) : Select :=
  { s with
    projections := s.projections.map (Projection.map f)
    source := s.source.map g
    joins := s.joins.map (Join.map f g)
    wheres := s.wheres.map f
    groups := s.groups.map f
    havings := s.havings.map f
    orders := s.orders.map (Order.map f) }

def Select.mapBounds (f : Expr → Expr) (s : Select) : Select :=
  { s with limit := s.limit.map f, offset := s.offset.map f }

def Node.map (f : Expr → Expr) (g : TableRef → TableRef) (h : Select → Select) : Node → Node
  | .expr e => .expr (f e)
  | .table t => .table (g t)
  | .select s => .select (h s)

section Laws
variable {f f' f'' : Expr → Expr} {g g' g'' : TableRef → TableRef} {h h' h'' : Select → Select}

@[simp] theorem Node.map_expr (e : Expr) : (Node.expr e).map f g h = .expr (f e) := rfl

@[simp] theorem Node.map_table (t : TableRef) : (Node.table t).map f g h = .table (g t) := rfl

@[simp] theorem Node.map_select (s : Select) : (Node.select s).map f g h = .select (h s) := rfl

theorem Node.map_map (n : Node) :
    (n.map f g h).map f' g' h' = n.map (f' ∘ f) (g' ∘ g) (h' ∘ h) := by
  cases n <;> rfl

theorem Expr.parts_mapParts (e : Expr) :
    (e.mapParts f h).parts = e.parts.map (Node.map f g h) := by
  cases e with
  | case o bs e =>
    cases o <;> cases e <;>
      simp [mapParts, parts, Branch.map, List.flatMap_map, List.map_flatMap]
  | _ => simp [mapParts, parts]

theorem TableRef.parts_mapParts (t : TableRef) :
    (t.mapParts h).parts = t.parts.map (Node.map f g h) := by
  cases t <;> simp [mapParts, parts]

theorem Join.parts_map (j : Join) : (j.map f g).parts = j.parts.map (Node.map f g h) := by
  obtain ⟨k, t, o⟩ := j
  cases o <;> simp [map, parts]

theorem Select.parts_mapParts (s : Select) :
    (s.mapParts f g).parts = s.parts.map (Node.map f g h) := by
  obtain ⟨d, ps, t, js, ws, gs, hs, os, l, o, k⟩ := s
  have hj : js.flatMap (fun j => (j.map f g).parts) =
      js.flatMap fun j => j.parts.map (Node.map f g h) := by
    rw [funext fun j : Join => Join.parts_map (g := g) (h := h) (f := f) j]
  have ht : (t.map g).toList.map Node.table = (t.toList.map Node.table).map (Node.map f g h) := by
    cases t <;> rfl
  simp only [mapParts, parts, orderParts, List.map_append, List.map_map, List.flatMap_map,
    List.map_flatMap, hj, ht]
  rfl

theorem Expr.mapParts_congr {e : Expr}
    (hm : ∀ m ∈ e.parts, m.map f g h = m.map f' g' h') :
    e.mapParts f h = e.mapParts f' h' := by
  cases e with
  | case o bs e =>
    simp only [forall_parts_case, Node.map_expr, Node.expr.injEq] at hm
    obtain ⟨ho, hb, he⟩ := hm
    simp only [mapParts, case.injEq]
    refine ⟨Option.map_congr ho, List.map_congr_left fun b h => ?_, Option.map_congr he⟩
    simp only [Branch.map, (hb b h).1, (hb b h).2]
  | _ => simp_all [mapParts, parts]

theorem TableRef.mapParts_congr {t : TableRef}
    (hm : ∀ m ∈ t.parts, m.map f g h = m.map f' g' h') : t.mapParts h = t.mapParts h' := by
  cases t <;> simp_all [mapParts, parts]

theorem Select.mapParts_congr {s : Select}
    (hm : ∀ m ∈ s.parts, m.map f g h = m.map f' g' h') :
    s.mapParts f g = s.mapParts f' g' := by
  simp only [forall_parts, Node.map_expr, Node.map_table, Node.expr.injEq, Node.table.injEq] at hm
  obtain ⟨hp, ht, hj, hw, hg, hh, ho⟩ := hm
  simp only [mapParts, mk.injEq, true_and, and_true]
  refine ⟨List.map_congr_left fun p h => ?_, Option.map_congr ht, List.map_congr_left fun j h => ?_,
    List.map_congr_left hw, List.map_congr_left hg, List.map_congr_left hh,
    List.map_congr_left fun o h => ?_⟩
  · simp only [Projection.map, hp p h]
  · simp only [Join.map, (hj j h).1, Option.map_congr (hj j h).2]
  · simp only [Order.map, ho o h]

theorem Expr.mapParts_mapParts (e : Expr) :
    (e.mapParts f h).mapParts f' h' = e.mapParts (f' ∘ f) (h' ∘ h) := by
  cases e <;> simp [mapParts, Branch.map, Function.comp_def]

theorem TableRef.mapParts_mapParts (t : TableRef) :
    (t.mapParts h).mapParts h' = t.mapParts (h' ∘ h) := by
  cases t <;> rfl

theorem Select.mapParts_mapParts (s : Select) :
    (s.mapParts f g).mapParts f' g' = s.mapParts (f' ∘ f) (g' ∘ g) := by
  simp [mapParts, Projection.map, Join.map, Order.map, Function.comp_def]

@[simp] theorem Branch.map_id : Branch.map id = id := by
  funext b
  cases b
  rfl

@[simp] theorem Projection.map_id : Projection.map id = id := by
  funext p
  cases p
  rfl

@[simp] theorem Order.map_id : Order.map id = id := by
  funext o
  cases o
  rfl

@[simp] theorem Join.map_id : Join.map id id = id := by
  funext j
  cases j
  simp [map]

theorem Expr.mapParts_id (e : Expr) : e.mapParts id id = e := by
  cases e <;> simp [mapParts]

theorem TableRef.mapParts_id (t : TableRef) : t.mapParts id = t := by
  cases t <;> rfl

theorem Select.mapParts_id (s : Select) : s.mapParts id id = s := by
  cases s
  simp [mapParts]

end Laws

section Transform
variable (step : Bool → Select → Select)

@[simp] theorem Expr.transformList_eq (es : List Expr) :
    Expr.transformList step es = es.map (Expr.transform step) := by
  induction es with
  | nil => rfl
  | cons e es ih => simp [transformList, ih]

@[simp] theorem Expr.transformOption_eq (o : Option Expr) :
    Expr.transformOption step o = o.map (Expr.transform step) := by
  cases o <;> rfl

theorem Branch.transform_eq (b : Branch) : b.transform step = b.map (Expr.transform step) := by
  cases b
  simp [transform, map]

theorem Branch.transformList_eq (bs : List Branch) :
    Branch.transformList step bs = bs.map (Branch.map (Expr.transform step)) := by
  induction bs with
  | nil => rfl
  | cons b bs ih => rw [transformList, ih, transform_eq, List.map_cons]

theorem Projection.transform_eq (p : Projection) : p.transform step = p.map (Expr.transform step) := by
  cases p
  simp [transform, map]

theorem Projection.transformList_eq (ps : List Projection) :
    Projection.transformList step ps = ps.map (Projection.map (Expr.transform step)) := by
  induction ps with
  | nil => rfl
  | cons p ps ih => rw [transformList, ih, transform_eq, List.map_cons]

theorem TableRef.transformOption_eq (o : Option TableRef) :
    TableRef.transformOption step o = o.map (TableRef.transform step) := by
  cases o <;> rfl

theorem Join.transformList_eq (js : List Join) :
    Join.transformList step js =
      js.map (Join.map (Expr.transform step) (TableRef.transform step)) := by
  induction js with
  | nil => rfl
  | cons j js ih =>
    obtain ⟨k, t, o⟩ := j
    rw [transformList, ih, transform, Expr.transformOption_eq]
    rfl

theorem Order.transform_eq (o : Order) : o.transform step = o.map (Expr.transform step) := by
  cases o
  simp [transform, map]

theorem Order.transformList_eq (os : List Order) :
    Order.transformList step os = os.map (Order.map (Expr.transform step)) := by
  induction os with
  | nil => rfl
  | cons o os ih => rw [transformList, ih, transform_eq, List.map_cons]

theorem Expr.transform_eq (e : Expr) :
    e.transform step = e.mapParts (Expr.transform step) (Select.transform step true) := by
  cases e <;> simp [transform, mapParts, Branch.transformList_eq]

theorem TableRef.transform_eq (t : TableRef) :
    t.transform step = t.mapParts (Select.transform step true) := by
  cases t <;> simp [transform, mapParts]

theorem Select.transform_eq (nested : Bool) (s : Select) :
    s.transform step nested =
      step nested (s.mapParts (Expr.transform step) (TableRef.transform step)) := by
  obtain ⟨d, ps, t, js, ws, gs, hs, os, l, o, k⟩ := s
  simp [transform, mapParts, Projection.transformList_eq, TableRef.transformOption_eq,
    Join.transformList_eq, Order.transformList_eq]

theorem Select.forall_parts_transform {s : Select} {P : Node → Prop}
    (h : ∀ m ∈ s.parts,
      P (m.map (Expr.transform step) (TableRef.transform step) (Select.transform step true))) :
    ∀ m ∈ (s.mapParts (Expr.transform step) (TableRef.transform step)).parts, P m := by
  rw [Select.parts_mapParts (h := Select.transform step true)]
  exact List.forall_mem_map.2 h

def Node.transform : Node → Node :=
  Node.map (Expr.transform step) (TableRef.transform step) (Select.transform step true)

def Node.transformRoot : Node → Node :=
  Node.map (Expr.transform step) (TableRef.transform step) (Select.transform step false)

namespace Node

variable {step} {P c : Node → Prop} {n : Node}

theorem forall_parts_transform
    (hstep : ∀ s, n = .select s →
      (∀ m ∈ (s.mapParts (Expr.transform step) (TableRef.transform step)).parts, P m) →
      ∀ m ∈ (step true (s.mapParts (Expr.transform step) (TableRef.transform step))).parts, P m)
    (h : ∀ m ∈ n.parts, P (m.transform step)) : ∀ m ∈ (n.transform step).parts, P m := by
  cases n with
  | expr e =>
    show ∀ m ∈ (e.transform step).parts, P m
    rw [e.transform_eq, Expr.parts_mapParts (g := TableRef.transform step)]
    exact List.forall_mem_map.2 h
  | table t =>
    show ∀ m ∈ (t.transform step).parts, P m
    rw [t.transform_eq, TableRef.parts_mapParts (f := Expr.transform step)
      (g := TableRef.transform step)]
    exact List.forall_mem_map.2 h
  | select s =>
    show ∀ m ∈ (s.transform step true).parts, P m
    rw [s.transform_eq]
    exact hstep s rfl (s.forall_parts_transform step h)

theorem map_id (n : Node) : n.map id id id = n := by
  cases n <;> rfl

theorem transform_eq_self (hstep : ∀ s, c (.select s) → step true s = s)
    (h : n.Throughout parts c) : n.transform step = n := by
  induction h with
  | @intro n h _ ih =>
    have hm (m : Node) (hm : m ∈ n.parts) :
        m.map (Expr.transform step) (TableRef.transform step) (Select.transform step true) =
          m.map id id id := by
      rw [map_id]
      exact ih m hm
    cases n with
    | expr e =>
      show expr (e.transform step) = expr e
      rw [e.transform_eq, Expr.mapParts_congr hm, e.mapParts_id]
    | table t =>
      show table (t.transform step) = table t
      have ht : t.mapParts (Select.transform step true) = t.mapParts id :=
        TableRef.mapParts_congr hm
      rw [t.transform_eq, ht, t.mapParts_id]
    | select s =>
      show select (s.transform step true) = select s
      rw [s.transform_eq, Select.mapParts_congr hm, s.mapParts_id, hstep s h]

section Throughout
variable (hexpr : ∀ e, c (.expr e) → c (.expr (e.transform step)))
  (htable : ∀ t, c (.table t) → c (.table (t.transform step)))
  (hselect : ∀ s, c (.select s) →
    c (.select (s.mapParts (Expr.transform step) (TableRef.transform step))))
  (hstep : ∀ nested s, (select s).Throughout children c →
    (select (step nested s)).Throughout children c)
include hselect hstep

-- Limits and offsets are children that are not changed, so they meet `c` as they did before.
theorem throughout_select_transform {s : Select} (h : (select s).Throughout children c)
    (hm : ∀ m ∈ s.parts, (m.transform step).Throughout children c) (nested : Bool) :
    (select (s.transform step nested)).Throughout children c := by
  obtain ⟨hs, hchildren⟩ := throughout_iff.1 h
  rw [s.transform_eq]
  refine hstep nested _ (.intro (hselect s hs) (List.forall_mem_append.2 ⟨?_, ?_⟩))
  · exact Select.forall_parts_transform step hm
  · exact (List.forall_mem_append.1 hchildren).2

include hexpr htable

theorem throughout_transform (h : n.Throughout children c) :
    (n.transform step).Throughout children c := by
  induction n using Node.induct with
  | step n ih =>
    have hn := throughout_iff.1 h
    have hm := fun m hm => ih m (mem_children_of_mem_parts hm)
      (hn.2 m (mem_children_of_mem_parts hm))
    cases n with
    | expr e => exact .intro (hexpr e hn.1) (forall_parts_transform (by rintro s ⟨⟩) hm)
    | table t => exact .intro (htable t hn.1) (forall_parts_transform (by rintro s ⟨⟩) hm)
    | select s => exact throughout_select_transform hselect hstep h hm true

theorem throughout_transformRoot (h : n.Throughout children c) :
    (n.transformRoot step).Throughout children c := by
  cases n with
  | expr e => exact throughout_transform hexpr htable hselect hstep h
  | table t => exact throughout_transform hexpr htable hselect hstep h
  | select s =>
    refine throughout_select_transform hselect hstep h (fun m hm => ?_) false
    have hparts := (List.forall_mem_append.1 (throughout_iff.1 h).2).1
    exact throughout_transform hexpr htable hselect hstep (hparts m hm)

end Throughout

end Node

end Transform

end PolySql
