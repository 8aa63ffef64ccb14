import PolySql.Tree.Basic

namespace PolySql

variable (step : Bool → Select → Select)

mutual

def Expr.transform : Expr → Expr
  | .value v => .value v
  | .bind v => .bind v
  | .column t n => .column t n
  | .binary l o r => .binary l.transform o r.transform
  | .unary o e => .unary o e.transform
  | .function n as d => .function n (Expr.transformList as) d
  | .subquery q => .subquery (q.transform true)
  | .exists q n => .exists (q.transform true) n
  | .inSubquery e q n => .inSubquery e.transform (q.transform true) n
  | .isNull e n => .isNull e.transform n
  | .inList e l n => .inList e.transform (Expr.transformList l) n
  | .between e l h n => .between e.transform l.transform h.transform n
  | .case o bs e =>
    .case (Expr.transformOption o) (Branch.transformList bs) (Expr.transformOption e)
  | .group e => .group e.transform
  | .bin e => .bin e.transform
  | .raw t bs => .raw t bs
  | .wildcard t => .wildcard t

def Expr.transformList : List Expr → List Expr
  | [] => []
  | e :: es => e.transform :: Expr.transformList es

def Expr.transformOption : Option Expr → Option Expr
  | none => none
  | some e => some e.transform

def Branch.transform : Branch → Branch
  | ⟨t, r⟩ => ⟨t.transform, r.transform⟩

def Branch.transformList : List Branch → List Branch
  | [] => []
  | b :: bs => b.transform :: Branch.transformList bs

def Projection.transform : Projection → Projection
  | ⟨e, a⟩ => ⟨e.transform, a⟩

def Projection.transformList : List Projection → List Projection
  | [] => []
  | p :: ps => p.transform :: Projection.transformList ps

def TableRef.transform : TableRef → TableRef
  | .table s n a => .table s n a
  | .derived q a => .derived (q.transform true) a
  | .raw t => .raw t

def TableRef.transformOption : Option TableRef → Option TableRef
  | none => none
  | some t => some t.transform

def Join.transform : Join → Join
  | ⟨k, t, o⟩ => ⟨k, t.transform, Expr.transformOption o⟩

def Join.transformList : List Join → List Join
  | [] => []
  | j :: js => j.transform :: Join.transformList js

def Order.transform : Order → Order
  | ⟨e, d, n⟩ => ⟨e.transform, d, n⟩

def Order.transformList : List Order → List Order
  | [] => []
  | o :: os => o.transform :: Order.transformList os

def Select.transform (nested : Bool) : Select → Select
  | ⟨d, ps, f, js, ws, gs, hs, os, l, o, k⟩ =>
    step nested
      ⟨d, Projection.transformList ps, TableRef.transformOption f, Join.transformList js,
        Expr.transformList ws, Expr.transformList gs, Expr.transformList hs,
        Order.transformList os, l, o, k⟩

end

end PolySql
