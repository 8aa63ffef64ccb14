import PolySql.Tree.Basic

namespace PolySql

mutual

def Expr.same : Expr → Expr → Bool
  | .value a, .value b => a == b
  | .bind a, .bind b => a == b
  | .column t n, .column t' n' => t == t' && n == n'
  | .binary l o r, .binary l' o' r' => l.same l' && o == o' && r.same r'
  | .unary o e, .unary o' e' => o == o' && e.same e'
  | .function n as d, .function n' as' d' => n == n' && Expr.sameList as as' && d == d'
  | .subquery q, .subquery q' => q.same q'
  | .exists q n, .exists q' n' => q.same q' && n == n'
  | .inSubquery e q n, .inSubquery e' q' n' => e.same e' && q.same q' && n == n'
  | .isNull e n, .isNull e' n' => e.same e' && n == n'
  | .inList e l n, .inList e' l' n' => e.same e' && Expr.sameList l l' && n == n'
  | .between e l h n, .between e' l' h' n' =>
    e.same e' && l.same l' && h.same h' && n == n'
  | .case o bs e, .case o' bs' e' =>
    Expr.sameOption o o' && Branch.sameList bs bs' && Expr.sameOption e e'
  | .group e, .group e' => e.same e'
  | .bin e, .bin e' => e.same e'
  | .raw t bs, .raw t' bs' => t == t' && bs == bs'
  | .wildcard t, .wildcard t' => t == t'
  | _, _ => false

def Expr.sameList : List Expr → List Expr → Bool
  | [], [] => true
  | a :: as, b :: bs => a.same b && Expr.sameList as bs
  | _, _ => false

def Expr.sameOption : Option Expr → Option Expr → Bool
  | none, none => true
  | some a, some b => a.same b
  | _, _ => false

def Branch.same : Branch → Branch → Bool
  | ⟨t, r⟩, ⟨t', r'⟩ => t.same t' && r.same r'

def Branch.sameList : List Branch → List Branch → Bool
  | [], [] => true
  | a :: as, b :: bs => a.same b && Branch.sameList as bs
  | _, _ => false

def Projection.same : Projection → Projection → Bool
  | ⟨e, a⟩, ⟨e', a'⟩ => e.same e' && a == a'

def Projection.sameList : List Projection → List Projection → Bool
  | [], [] => true
  | a :: as, b :: bs => a.same b && Projection.sameList as bs
  | _, _ => false

def TableRef.same : TableRef → TableRef → Bool
  | .table s n a, .table s' n' a' => s == s' && n == n' && a == a'
  | .derived q a, .derived q' a' => q.same q' && a == a'
  | .raw t, .raw t' => t == t'
  | _, _ => false

def TableRef.sameOption : Option TableRef → Option TableRef → Bool
  | none, none => true
  | some a, some b => a.same b
  | _, _ => false

def Join.same : Join → Join → Bool
  | ⟨k, t, o⟩, ⟨k', t', o'⟩ => k == k' && t.same t' && Expr.sameOption o o'

def Join.sameList : List Join → List Join → Bool
  | [], [] => true
  | a :: as, b :: bs => a.same b && Join.sameList as bs
  | _, _ => false

def Order.same : Order → Order → Bool
  | ⟨e, d, n⟩, ⟨e', d', n'⟩ => e.same e' && d == d' && n == n'

def Order.sameList : List Order → List Order → Bool
  | [], [] => true
  | a :: as, b :: bs => a.same b && Order.sameList as bs
  | _, _ => false

def Select.same : Select → Select → Bool
  | ⟨d, ps, f, js, ws, gs, hs, os, l, o, k⟩, ⟨d', ps', f', js', ws', gs', hs', os', l', o', k'⟩ =>
    d == d' && Projection.sameList ps ps' && TableRef.sameOption f f' && Join.sameList js js' &&
      Expr.sameList ws ws' && Expr.sameList gs gs' && Expr.sameList hs hs' &&
      Order.sameList os os' && Expr.sameOption l l' && Expr.sameOption o o' && k == k'

end

instance : BEq Expr := ⟨Expr.same⟩
instance : BEq Select := ⟨Select.same⟩

end PolySql
