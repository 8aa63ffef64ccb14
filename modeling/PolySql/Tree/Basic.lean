import PolySql.Text.Cut
import PolySql.Tree.Operator
import PolySql.Value.Basic

namespace PolySql

open Text

structure Lock where
  text : String
  deriving DecidableEq, Repr

namespace Lock

def forUpdate : Lock := ⟨"FOR UPDATE"⟩

def isForUpdate (l : Lock) : Bool :=
  contains (upper l.text) "FOR UPDATE"

end Lock

mutual

inductive Expr where
  | value (v : Value)
  | bind (v : Value)
  | column (table : Option String) (name : String)
  | binary (left : Expr) (op : BinaryOp) (right : Expr)
  | unary (op : UnaryOp) (operand : Expr)
  | function (name : String) (args : List Expr) (distinct : Bool)
  | subquery (query : Select)
  | exists (query : Select) (negated : Bool)
  | inSubquery (expr : Expr) (query : Select) (negated : Bool)
  | isNull (expr : Expr) (negated : Bool)
  | inList (expr : Expr) (list : List Expr) (negated : Bool)
  | between (expr low high : Expr) (negated : Bool)
  | case (operand : Option Expr) (branches : List Branch) (otherwise : Option Expr)
  | group (expr : Expr)
  | bin (expr : Expr)
  | raw (text : String) (binds : List Value)
  | wildcard (table : Option String)

structure Branch where
  test : Expr
  result : Expr

structure Projection where
  expr : Expr
  label : Option String

inductive TableRef where
  | table (schema : Option String) (name : String) (label : Option String)
  | derived (query : Select) (label : String)
  | raw (text : String)

structure Join where
  kind : JoinKind
  table : TableRef
  condition : Option Expr

structure Order where
  expr : Expr
  direction : Direction
  nulls : Option NullsOrder

structure Select where
  distinct : Bool
  projections : List Projection
  source : Option TableRef
  joins : List Join
  wheres : List Expr
  groups : List Expr
  havings : List Expr
  orders : List Order
  limit : Option Expr
  offset : Option Expr
  lock : Option Lock

end

namespace Expr

def intValue? : Expr → Option Int64
  | value v => v.asInt?
  | bind v => v.asInt?
  | _ => none

def isBinary : Expr → Bool
  | binary .. => true
  | _ => false

def eq (left right : Expr) : Expr :=
  binary left .eq right

end Expr

namespace TableRef

def referenceName : TableRef → String
  | table _ name label => label.getD name
  | derived _ label => label
  | raw text => text

def withAlias (label : String) : TableRef → TableRef
  | table schema name _ => table schema name (some label)
  | derived query _ => derived query label
  | raw text => raw text

end TableRef

namespace Select

def empty : Select :=
  ⟨false, [], none, [], [], [], [], [], none, none, none⟩

def ofTable (t : TableRef) : Select :=
  { empty with source := some t }

def isPaged (s : Select) : Bool :=
  s.limit.isSome || s.offset.isSome

def unpaged (s : Select) : Select :=
  { s with limit := none, offset := none }

end Select

inductive InsertSource where
  | rows (rows : List (List Expr))
  | query (query : Select)
  | defaults

structure Insert where
  schema : Option String
  table : String
  columns : List String
  source : InsertSource
  returning : List String

structure Assignment where
  column : String
  value : Expr

structure RowFilter where
  wheres : List Expr
  orders : List Order
  limit : Option Expr
  offset : Option Expr
  key : Option Expr

def RowFilter.empty : RowFilter := ⟨[], [], none, none, none⟩

structure Update where
  schema : Option String
  table : String
  assignments : List Assignment
  rows : RowFilter

structure Delete where
  schema : Option String
  table : String
  rows : RowFilter

inductive Statement where
  | select (s : Select)
  | insert (s : Insert)
  | update (s : Update)
  | delete (s : Delete)

end PolySql
