import Mathlib.Logic.Relation
import PolySql.Tree.Basic

namespace PolySql

inductive Node where
  | expr (e : Expr)
  | table (t : TableRef)
  | select (s : Select)

def Expr.parts : Expr → List Node
  | .value _ | .bind _ | .column _ _ | .raw _ _ | .wildcard _ => []
  | .binary l _ r => [.expr l, .expr r]
  | .unary _ e | .isNull e _ | .group e | .bin e => [.expr e]
  | .function _ as _ => as.map .expr
  | .subquery q | .exists q _ => [.select q]
  | .inSubquery e q _ => [.expr e, .select q]
  | .inList e l _ => .expr e :: l.map .expr
  | .between e low high _ => [.expr e, .expr low, .expr high]
  | .case o bs e =>
    o.toList.map .expr ++ bs.flatMap (fun b => [.expr b.test, .expr b.result]) ++
      e.toList.map .expr

def TableRef.parts : TableRef → List Node
  | .derived q _ => [.select q]
  | .table _ _ _ | .raw _ => []

def Join.parts (j : Join) : List Node :=
  .table j.table :: j.condition.toList.map .expr

namespace Select

def orderParts (s : Select) : List Node :=
  s.orders.map fun o => .expr o.expr

def parts (s : Select) : List Node :=
  s.projections.map (fun p => .expr p.expr) ++ s.source.toList.map .table ++
    s.joins.flatMap Join.parts ++ s.wheres.map .expr ++ s.groups.map .expr ++
    s.havings.map .expr ++ s.orderParts

def bounds (s : Select) : List Node :=
  s.limit.toList.map .expr ++ s.offset.toList.map .expr

end Select

namespace Node

def parts : Node → List Node
  | expr e => e.parts
  | table t => t.parts
  | select s => s.parts

def children : Node → List Node
  | expr e => e.parts
  | table t => t.parts
  | select s => s.parts ++ s.bounds

theorem mem_children_of_mem_parts {n m : Node} (h : m ∈ n.parts) : m ∈ n.children := by
  cases n with
  | expr e => exact h
  | table t => exact h
  | select s => exact List.mem_append_left _ h

end Node

section Forall
variable {P : Node → Prop}

theorem forall_mem_two {m m' : Node} : (∀ n ∈ [m, m'], P n) ↔ P m ∧ P m' := by
  simp

@[simp] theorem Expr.forall_parts_case {o : Option Expr} {bs : List Branch} {e : Option Expr} :
    (∀ m ∈ (Expr.case o bs e).parts, P m) ↔
      (∀ a ∈ o, P (.expr a)) ∧ (∀ b ∈ bs, P (.expr b.test) ∧ P (.expr b.result)) ∧
        ∀ a ∈ e, P (.expr a) := by
  simp only [parts, List.forall_mem_append, List.forall_mem_map, List.forall_mem_flatMap,
    List.forall_mem_cons, List.not_mem_nil, false_imp_iff, implies_true, and_true,
    Option.mem_toList, Option.mem_def, and_assoc]

@[simp] theorem Join.forall_parts {j : Join} :
    (∀ m ∈ j.parts, P m) ↔ P (.table j.table) ∧ ∀ e ∈ j.condition, P (.expr e) := by
  simp only [parts, List.forall_mem_cons, List.forall_mem_map, Option.mem_toList, Option.mem_def]

theorem Select.forall_parts {s : Select} :
    (∀ m ∈ s.parts, P m) ↔
      (∀ p ∈ s.projections, P (.expr p.expr)) ∧ (∀ t ∈ s.source, P (.table t)) ∧
      (∀ j ∈ s.joins, P (.table j.table) ∧ ∀ e ∈ j.condition, P (.expr e)) ∧
      (∀ e ∈ s.wheres, P (.expr e)) ∧ (∀ e ∈ s.groups, P (.expr e)) ∧
      (∀ e ∈ s.havings, P (.expr e)) ∧ ∀ o ∈ s.orders, P (.expr o.expr) := by
  simp only [parts, orderParts, List.forall_mem_append, List.forall_mem_map,
    List.forall_mem_flatMap, Join.forall_parts, Option.mem_toList, Option.mem_def, and_assoc]

theorem Select.forall_bounds {s : Select} :
    (∀ m ∈ s.bounds, P m) ↔ (∀ e ∈ s.limit, P (.expr e)) ∧ ∀ e ∈ s.offset, P (.expr e) := by
  simp only [bounds, List.forall_mem_append, List.forall_mem_map, Option.mem_toList, Option.mem_def]

end Forall

section Size
variable {m : Node}

theorem size_lt_of_mem_map {es : List Expr} (h : m ∈ es.map Node.expr) :
    sizeOf m < 1 + sizeOf es := by
  obtain ⟨e, he, rfl⟩ := List.mem_map.1 h
  have hlt := List.sizeOf_lt_of_mem he
  simp only [Node.expr.sizeOf_spec]
  omega

theorem size_lt_of_mem_option {o : Option Expr} (h : m ∈ o.toList.map Node.expr) :
    sizeOf m < 1 + sizeOf o := by
  cases o with
  | none => simp at h
  | some e =>
    obtain rfl : m = .expr e := by simpa using h
    simp only [Node.expr.sizeOf_spec, Option.some.sizeOf_spec]
    omega

theorem TableRef.size_lt {t : TableRef} (h : m ∈ t.parts) : sizeOf m < 1 + sizeOf t := by
  cases t with
  | table s n a => simp [parts] at h
  | derived q a =>
    obtain rfl : m = .select q := by simpa [parts] using h
    simp only [Node.select.sizeOf_spec, TableRef.derived.sizeOf_spec]
    omega
  | raw t => simp [parts] at h

theorem Join.size_lt {j : Join} (h : m ∈ j.parts) : sizeOf m < 1 + sizeOf j := by
  obtain ⟨k, t, o⟩ := j
  simp only [Join.mk.sizeOf_spec]
  rcases List.mem_cons.1 h with rfl | h
  · simp only [Node.table.sizeOf_spec]
    omega
  · have hlt : sizeOf m < 1 + sizeOf o := size_lt_of_mem_option h
    omega

theorem Expr.size_lt {e : Expr} (h : m ∈ e.parts) : sizeOf m < 1 + sizeOf e := by
  cases e with
  | value v | bind v | column t n | raw t bs | wildcard t => simp [parts] at h
  | binary l o r =>
    obtain rfl | rfl : m = .expr l ∨ m = .expr r := by simpa [parts] using h
    all_goals simp only [Node.expr.sizeOf_spec, Expr.binary.sizeOf_spec]; omega
  | unary o e =>
    obtain rfl : m = .expr e := by simpa [parts] using h
    simp only [Node.expr.sizeOf_spec, Expr.unary.sizeOf_spec]; omega
  | function n as d =>
    have hlt := size_lt_of_mem_map h
    simp only [Expr.function.sizeOf_spec]; omega
  | subquery q =>
    obtain rfl : m = .select q := by simpa [parts] using h
    simp only [Node.select.sizeOf_spec, Expr.subquery.sizeOf_spec]; omega
  | «exists» q n =>
    obtain rfl : m = .select q := by simpa [parts] using h
    simp only [Node.select.sizeOf_spec, Expr.exists.sizeOf_spec]; omega
  | inSubquery e q n =>
    obtain rfl | rfl : m = .expr e ∨ m = .select q := by simpa [parts] using h
    all_goals
      simp only [Node.expr.sizeOf_spec, Node.select.sizeOf_spec, Expr.inSubquery.sizeOf_spec]
      omega
  | isNull e n =>
    obtain rfl : m = .expr e := by simpa [parts] using h
    simp only [Node.expr.sizeOf_spec, Expr.isNull.sizeOf_spec]; omega
  | inList e l n =>
    simp only [Expr.inList.sizeOf_spec]
    rcases List.mem_cons.1 h with rfl | h
    · simp only [Node.expr.sizeOf_spec]; omega
    · have hlt := size_lt_of_mem_map h
      omega
  | between e low high n =>
    obtain rfl | rfl | rfl : m = .expr e ∨ m = .expr low ∨ m = .expr high := by
      simpa [parts] using h
    all_goals simp only [Node.expr.sizeOf_spec, Expr.between.sizeOf_spec]; omega
  | case o bs e =>
    simp only [parts, List.mem_append] at h
    simp only [Expr.case.sizeOf_spec]
    rcases h with (h | h) | h
    · have hlt := size_lt_of_mem_option h
      omega
    · obtain ⟨⟨t, r⟩, hb, h⟩ := List.mem_flatMap.1 h
      have hlt := List.sizeOf_lt_of_mem hb
      simp only [Branch.mk.sizeOf_spec] at hlt
      obtain rfl | rfl : m = .expr t ∨ m = .expr r := by simpa using h
      all_goals simp only [Node.expr.sizeOf_spec]; omega
    · have hlt := size_lt_of_mem_option h
      omega
  | group e =>
    obtain rfl : m = .expr e := by simpa [parts] using h
    simp only [Node.expr.sizeOf_spec, Expr.group.sizeOf_spec]; omega
  | bin e =>
    obtain rfl : m = .expr e := by simpa [parts] using h
    simp only [Node.expr.sizeOf_spec, Expr.bin.sizeOf_spec]; omega

theorem Select.size_lt {s : Select} (h : m ∈ s.parts ++ s.bounds) : sizeOf m < 1 + sizeOf s := by
  obtain ⟨d, ps, f, js, ws, gs, hs, os, l, o, k⟩ := s
  simp only [parts, bounds, orderParts, List.mem_append] at h
  simp only [Select.mk.sizeOf_spec]
  rcases h with ((((((h | h) | h) | h) | h) | h) | h) | h | h
  · obtain ⟨⟨e, a⟩, hp, rfl⟩ := List.mem_map.1 h
    have hlt := List.sizeOf_lt_of_mem hp
    simp only [Node.expr.sizeOf_spec, Projection.mk.sizeOf_spec] at hlt ⊢
    omega
  · cases f with
    | none => simp at h
    | some t =>
      obtain rfl : m = .table t := by simpa using h
      simp only [Node.table.sizeOf_spec, Option.some.sizeOf_spec]
      omega
  · obtain ⟨j, hj, h⟩ := List.mem_flatMap.1 h
    have hlt := List.sizeOf_lt_of_mem hj
    have hj := Join.size_lt h
    omega
  · have hlt := size_lt_of_mem_map h
    omega
  · have hlt := size_lt_of_mem_map h
    omega
  · have hlt := size_lt_of_mem_map h
    omega
  · obtain ⟨⟨e, a, n⟩, hp, rfl⟩ := List.mem_map.1 h
    have hlt := List.sizeOf_lt_of_mem hp
    simp only [Node.expr.sizeOf_spec, Order.mk.sizeOf_spec] at hlt ⊢
    omega
  · have hlt := size_lt_of_mem_option h
    omega
  · have hlt := size_lt_of_mem_option h
    omega

theorem Node.size_lt {n : Node} (h : m ∈ n.children) : sizeOf m < sizeOf n := by
  cases n with
  | expr e => simpa using Expr.size_lt h
  | table t => simpa using TableRef.size_lt h
  | select s => simpa using Select.size_lt h

end Size

namespace Node

theorem induct {P : Node → Prop} (step : ∀ n, (∀ m ∈ n.children, P m) → P n) (n : Node) : P n :=
  step n fun m _ => induct step m
termination_by sizeOf n
decreasing_by exact size_lt ‹_›

inductive Throughout (next : Node → List Node) (c : Node → Prop) : Node → Prop
  | intro {n : Node} : c n → (∀ m ∈ next n, Throughout next c m) → Throughout next c n

variable {next : Node → List Node} {c c' : Node → Prop} {n : Node}

theorem throughout_iff : n.Throughout next c ↔ c n ∧ ∀ m ∈ next n, m.Throughout next c := by
  constructor
  · rintro ⟨h, hm⟩
    exact ⟨h, hm⟩
  · rintro ⟨h, hm⟩
    exact .intro h hm

theorem Throughout.mono {next' : Node → List Node} (hn : ∀ m, next' m ⊆ next m)
    (hc : ∀ m, c m → c' m) (h : n.Throughout next c) : n.Throughout next' c' := by
  induction h with
  | intro h _ ih => exact .intro (hc _ h) fun m hm => ih m (hn _ hm)

theorem Throughout.imp (hc : ∀ m, c m → c' m) (h : n.Throughout next c) :
    n.Throughout next c' :=
  h.mono (fun _ => List.Subset.refl _) hc

theorem throughout_of_eq_nil (hn : next n = []) (h : c n) : n.Throughout next c := by
  refine .intro h ?_
  rw [hn]
  rintro m ⟨⟩

def Reaches (next : Node → List Node) : Node → Node → Prop :=
  Relation.ReflTransGen fun n m => m ∈ next n

theorem Throughout.of_reaches {m : Node} (h : n.Throughout next c) (hm : n.Reaches next m) : c m := by
  induction hm using Relation.ReflTransGen.head_induction_on with
  | refl => exact (throughout_iff.1 h).1
  | head hnext _ ih => exact ih ((throughout_iff.1 h).2 _ hnext)

theorem throughout_reaches (hn : ∀ m, next m ⊆ m.children) (n : Node) :
    n.Throughout next (n.Reaches next) := by
  suffices H : ∀ m, n.Reaches next m → m.Throughout next (n.Reaches next) from H n .refl
  intro m
  induction m using Node.induct with
  | step m ih => exact fun hm => .intro hm fun k hk => ih k (hn m hk) (hm.tail hk)

end Node

end PolySql
