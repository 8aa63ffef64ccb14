import PolySql.Proofs.Tree.Statement

namespace PolySql

mutual

def Expr.inline : Expr → Expr
  | .value v => .value v
  | .bind v => .value v
  | .column t n => .column t n
  | .binary l o r => .binary l.inline o r.inline
  | .unary o e => .unary o e.inline
  | .function n as d => .function n (Expr.inlineList as) d
  | .subquery q => .subquery q.inline
  | .exists q n => .exists q.inline n
  | .inSubquery e q n => .inSubquery e.inline q.inline n
  | .isNull e n => .isNull e.inline n
  | .inList e l n => .inList e.inline (Expr.inlineList l) n
  | .between e l h n => .between e.inline l.inline h.inline n
  | .case o bs e => .case (Expr.inlineOption o) (Branch.inlineList bs) (Expr.inlineOption e)
  | .group e => .group e.inline
  | .bin e => .bin e.inline
  | .raw t bs => .raw t bs
  | .wildcard t => .wildcard t

def Expr.inlineList : List Expr → List Expr
  | [] => []
  | e :: es => e.inline :: Expr.inlineList es

def Expr.inlineOption : Option Expr → Option Expr
  | none => none
  | some e => some e.inline

def Branch.inline : Branch → Branch
  | ⟨t, r⟩ => ⟨t.inline, r.inline⟩

def Branch.inlineList : List Branch → List Branch
  | [] => []
  | b :: bs => b.inline :: Branch.inlineList bs

def Projection.inline : Projection → Projection
  | ⟨e, a⟩ => ⟨e.inline, a⟩

def Projection.inlineList : List Projection → List Projection
  | [] => []
  | p :: ps => p.inline :: Projection.inlineList ps

def TableRef.inline : TableRef → TableRef
  | .table s n a => .table s n a
  | .derived q a => .derived q.inline a
  | .raw t => .raw t

def TableRef.inlineOption : Option TableRef → Option TableRef
  | none => none
  | some t => some t.inline

def Join.inline : Join → Join
  | ⟨k, t, o⟩ => ⟨k, t.inline, Expr.inlineOption o⟩

def Join.inlineList : List Join → List Join
  | [] => []
  | j :: js => j.inline :: Join.inlineList js

def Order.inline : Order → Order
  | ⟨e, d, n⟩ => ⟨e.inline, d, n⟩

def Order.inlineList : List Order → List Order
  | [] => []
  | o :: os => o.inline :: Order.inlineList os

def Select.inline : Select → Select
  | ⟨d, ps, f, js, ws, gs, hs, os, l, o, k⟩ =>
    ⟨d, Projection.inlineList ps, TableRef.inlineOption f, Join.inlineList js, Expr.inlineList ws,
      Expr.inlineList gs, Expr.inlineList hs, Order.inlineList os, Expr.inlineOption l,
      Expr.inlineOption o, k⟩

end

@[simp] theorem Expr.inlineList_eq (es : List Expr) : Expr.inlineList es = es.map Expr.inline := by
  induction es with
  | nil => rfl
  | cons e es ih => rw [inlineList, ih, List.map_cons]

@[simp] theorem Expr.inlineOption_eq (o : Option Expr) : Expr.inlineOption o = o.map Expr.inline := by
  cases o <;> rfl

theorem Branch.inlineList_eq (bs : List Branch) :
    Branch.inlineList bs = bs.map (Branch.map Expr.inline) := by
  induction bs with
  | nil => rfl
  | cons b bs ih =>
    cases b
    rw [inlineList, ih, List.map_cons]
    rfl

theorem Projection.inlineList_eq (ps : List Projection) :
    Projection.inlineList ps = ps.map (Projection.map Expr.inline) := by
  induction ps with
  | nil => rfl
  | cons p ps ih =>
    cases p
    rw [inlineList, ih, List.map_cons]
    rfl

theorem TableRef.inlineOption_eq (o : Option TableRef) :
    TableRef.inlineOption o = o.map TableRef.inline := by
  cases o <;> rfl

theorem Join.inlineList_eq (js : List Join) :
    Join.inlineList js = js.map (Join.map Expr.inline TableRef.inline) := by
  induction js with
  | nil => rfl
  | cons j js ih =>
    obtain ⟨k, t, o⟩ := j
    rw [inlineList, ih, inline, Expr.inlineOption_eq]
    rfl

theorem Order.inlineList_eq (os : List Order) :
    Order.inlineList os = os.map (Order.map Expr.inline) := by
  induction os with
  | nil => rfl
  | cons o os ih =>
    cases o
    rw [inlineList, ih, List.map_cons]
    rfl

theorem Expr.inline_eq {e : Expr} (h : ∀ v, e ≠ .bind v) :
    e.inline = e.mapParts Expr.inline Select.inline := by
  cases e with
  | bind v => exact absurd rfl (h v)
  | _ => simp [inline, mapParts, Branch.inlineList_eq]

theorem TableRef.inline_eq (t : TableRef) : t.inline = t.mapParts Select.inline := by
  cases t <;> rfl

theorem Select.inline_eq (s : Select) :
    s.inline = (s.mapParts Expr.inline TableRef.inline).mapBounds Expr.inline := by
  obtain ⟨d, ps, t, js, ws, gs, hs, os, l, o, k⟩ := s
  simp [inline, mapParts, mapBounds, Projection.inlineList_eq, TableRef.inlineOption_eq,
    Join.inlineList_eq, Order.inlineList_eq]

def Node.inline : Node → Node :=
  Node.map Expr.inline TableRef.inline Select.inline

def RowFilter.inline (f : RowFilter) : RowFilter where
  wheres := f.wheres.map Expr.inline
  orders := f.orders.map (Order.map Expr.inline)
  limit := f.limit.map Expr.inline
  offset := f.offset.map Expr.inline
  key := f.key.map Expr.inline

def Statement.inline : Statement → Statement
  | .select s => .select s.inline
  | .insert s => .insert { s with source := s.source.mapRoots Expr.inline Select.inline }
  | .update s => .update { s with
      assignments := s.assignments.map (Assignment.map Expr.inline)
      rows := s.rows.inline }
  | .delete s => .delete { s with rows := s.rows.inline }

namespace Expr

theorem isBinary_inline (e : Expr) : e.inline.isBinary = e.isBinary := by
  cases e <;> rfl

theorem intValue?_inline (e : Expr) : e.inline.intValue? = e.intValue? := by
  cases e <;> rfl

end Expr

end PolySql
