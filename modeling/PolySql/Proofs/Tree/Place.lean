import PolySql.Proofs.Tree.Statement

namespace PolySql

inductive Slot where
  | parts
  | projections
  | source
  | joins
  | wheres
  | groups
  | havings
  | orders
  | limit
  | offset

-- Projections are counted from the last one, as settling puts others in front of them.
structure Place where
  slot : Slot
  index : Nat

def Select.slot (s : Select) : Slot → List Node
  | .parts => []
  | .projections => s.projections.reverse.map fun p => .expr p.expr
  | .source => s.source.toList.map .table
  | .joins => s.joins.flatMap Join.parts
  | .wheres => s.wheres.map .expr
  | .groups => s.groups.map .expr
  | .havings => s.havings.map .expr
  | .orders => s.orderParts
  | .limit => s.limit.toList.map .expr
  | .offset => s.offset.toList.map .expr

namespace Node

def slot : Node → Slot → List Node
  | expr e, .parts => e.parts
  | table t, .parts => t.parts
  | select s, c => s.slot c
  | expr _, _ | table _, _ => []

def at? (n : Node) (p : Place) : Option Node :=
  (n.slot p.slot)[p.index]?

def find? (n : Node) : List Place → Option Node
  | [] => some n
  | p :: path => (n.at? p).bind fun m => m.find? path

def IsLeaf : Node → Prop
  | expr e => e.parts = []
  | table t => t.parts = []
  | select _ => False

variable {n m : Node} {p : Place} {s : Select} {f : Expr → Expr} {g : TableRef → TableRef}
  {h : Select → Select}

theorem at?_of_mem_slot {c : Slot} (hm : m ∈ n.slot c) : ∃ p, n.at? p = some m :=
  (List.mem_iff_getElem?.1 hm).imp' (Place.mk c) fun _ => id

theorem exists_at? (hm : m ∈ n.children) : ∃ p, n.at? p = some m := by
  cases n with
  | expr e => exact at?_of_mem_slot (c := .parts) hm
  | table t => exact at?_of_mem_slot (c := .parts) hm
  | select s =>
    simp only [children, Select.parts, Select.bounds, List.mem_append, or_assoc] at hm
    obtain h | h | h | h | h | h | h | h | h := hm
    · exact at?_of_mem_slot (c := .projections) (by simpa [slot, Select.slot] using h)
    · exact at?_of_mem_slot (c := .source) h
    · exact at?_of_mem_slot (c := .joins) h
    · exact at?_of_mem_slot (c := .wheres) h
    · exact at?_of_mem_slot (c := .groups) h
    · exact at?_of_mem_slot (c := .havings) h
    · exact at?_of_mem_slot (c := .orders) h
    · exact at?_of_mem_slot (c := .limit) h
    · exact at?_of_mem_slot (c := .offset) h

theorem exists_find? (hm : n.Reaches children m) : ∃ path, n.find? path = some m := by
  induction hm using Relation.ReflTransGen.head_induction_on with
  | refl => exact ⟨[], rfl⟩
  | head hnext _ ih =>
    obtain ⟨p, hp⟩ := exists_at? hnext
    obtain ⟨path, hpath⟩ := ih
    exact ⟨p :: path, Option.bind_eq_some_iff.2 ⟨_, hp, hpath⟩⟩

theorem IsLeaf.at?_eq_none (hn : n.IsLeaf) : n.at? p = none := by
  obtain ⟨c, i⟩ := p
  cases n with
  | expr e =>
    have he : e.parts = [] := hn
    cases c <;> simp [at?, slot, he]
  | table t =>
    have ht : t.parts = [] := hn
    cases c <;> simp [at?, slot, ht]
  | select s => cases hn

theorem IsLeaf.eq_of_find? {path : List Place} (hn : n.IsLeaf) (hm : n.find? path = some m) : m = n := by
  cases path with
  | nil => exact (Option.some.inj hm).symm
  | cons p path =>
    rw [find?, hn.at?_eq_none] at hm
    cases hm

theorem exists_of_getElem?_map {ms : List Node} {i : Nat} (hm : (ms.map (Node.map f g h))[i]? = some m) :
    ∃ k, ms[i]? = some k ∧ m = k.map f g h := by
  rw [List.getElem?_map, Option.map_eq_some_iff] at hm
  exact hm.imp fun _ => And.imp_right Eq.symm

theorem at?_expr_mapParts {e : Expr} (hm : (expr (e.mapParts f h)).at? p = some m) :
    ∃ k, (expr e).at? p = some k ∧ m = k.map f g h := by
  obtain ⟨c, i⟩ := p
  cases c with
  | parts => exact exists_of_getElem?_map (e.parts_mapParts (g := g) ▸ hm)
  | _ => cases hm

theorem at?_table_mapParts {t : TableRef} (hm : (table (t.mapParts h)).at? p = some m) :
    ∃ k, (table t).at? p = some k ∧ m = k.map f g h := by
  obtain ⟨c, i⟩ := p
  cases c with
  | parts => exact exists_of_getElem?_map (t.parts_mapParts (f := f) (g := g) ▸ hm)
  | _ => cases hm

-- Limits and offsets are not replaced.
theorem slot_select_mapParts (s : Select) (c : Slot) :
    (s.mapParts f g).slot c = (s.slot c).map (Node.map f g h) ∨ (s.mapParts f g).slot c = s.slot c := by
  cases c with
  | parts | limit | offset => exact .inr rfl
  | projections | wheres | groups | havings | orders =>
    exact .inl (by simp [Select.slot, Select.mapParts, Select.orderParts, Projection.map, Order.map])
  | source =>
    refine .inl ?_
    cases hs : s.source <;> simp [Select.slot, Select.mapParts, hs]
  | joins =>
    refine .inl ?_
    simp only [Select.slot, Select.mapParts, List.flatMap_map, List.map_flatMap]
    exact congrArg s.joins.flatMap (funext fun j => j.parts_map)

theorem at?_select_mapParts (hm : (select (s.mapParts f g)).at? p = some m) :
    ∃ k, (select s).at? p = some k ∧ (m = k ∨ m = k.map f g h) := by
  obtain ⟨c, i⟩ := p
  change ((s.mapParts f g).slot c)[i]? = some m at hm
  obtain hs | hs := slot_select_mapParts (f := f) (g := g) (h := h) s c
  · rw [hs] at hm
    obtain ⟨k, hk, rfl⟩ := exists_of_getElem?_map hm
    exact ⟨k, hk, .inr rfl⟩
  · rw [hs] at hm
    exact ⟨m, hm, .inl rfl⟩

end Node

namespace RowFilter

def slot (f : RowFilter) : Slot → List Node
  | .projections => f.key.toList.map .expr
  | .wheres => f.wheres.map .expr
  | .orders => f.orders.map fun o => .expr o.expr
  | .limit => f.limit.toList.map .expr
  | .offset => f.offset.toList.map .expr
  | .parts | .source | .joins | .groups | .havings => []

def at? (f : RowFilter) (p : Place) : Option Node :=
  (f.slot p.slot)[p.index]?

variable {f : RowFilter} {n : Node}

theorem exists_at? (hn : n ∈ f.wheres.map .expr ++ f.limits) : ∃ p, f.at? p = some n := by
  have hslot {c : Slot} (h : n ∈ f.slot c) : ∃ p, f.at? p = some n :=
    (List.mem_iff_getElem?.1 h).imp' (Place.mk c) fun _ => id
  simp only [limits, List.mem_append, or_assoc] at hn
  obtain h | h | h | h | h := hn
  · exact hslot (c := .wheres) h
  · exact hslot (c := .orders) h
  · exact hslot (c := .limit) h
  · exact hslot (c := .offset) h
  · exact hslot (c := .projections) h

end RowFilter

inductive Root where
  | value (index : Nat)
  | row (place : Place)

structure Address where
  root : Root
  path : List Place

namespace Statement

def root? (s : Statement) : Root → Option Node
  | .value i => s.values[i]?
  | .row p => s.rows.at? p

def find? (s : Statement) (a : Address) : Option Node :=
  (s.root? a.root).bind fun n => n.find? a.path

theorem exists_find? {s : Statement} {n m : Node} (hn : n ∈ s.trees) (hm : n.Reaches Node.children m) :
    ∃ a, s.find? a = some m := by
  have hroot : ∃ r, s.root? r = some n := by
    rw [trees, roots, List.append_assoc] at hn
    obtain hn | hn := List.mem_append.1 hn
    · exact (List.mem_iff_getElem?.1 hn).imp' Root.value fun _ => id
    · exact (RowFilter.exists_at? hn).imp' Root.row fun _ => id
  obtain ⟨r, hr⟩ := hroot
  obtain ⟨path, hpath⟩ := Node.exists_find? hm
  exact ⟨⟨r, path⟩, Option.bind_eq_some_iff.2 ⟨n, hr, hpath⟩⟩

end Statement

end PolySql
