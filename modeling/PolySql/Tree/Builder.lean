import PolySql.Tree.Basic

namespace PolySql

namespace Select

def addColumn (e : Expr) (s : Select) : Select :=
  { s with projections := s.projections ++ [⟨e, none⟩] }

def addAliased (e : Expr) (label : String) (s : Select) : Select :=
  { s with projections := s.projections ++ [⟨e, some label⟩] }

def makeDistinct (s : Select) : Select :=
  { s with distinct := true }

def addJoin (j : Join) (s : Select) : Select :=
  { s with joins := s.joins ++ [j] }

def addFilter (e : Expr) (s : Select) : Select :=
  { s with wheres := s.wheres ++ [e] }

def addGroup (e : Expr) (s : Select) : Select :=
  { s with groups := s.groups ++ [e] }

def addHaving (e : Expr) (s : Select) : Select :=
  { s with havings := s.havings ++ [e] }

def addOrder (o : Order) (s : Select) : Select :=
  { s with orders := s.orders ++ [o] }

def withLimit (e : Expr) (s : Select) : Select :=
  { s with limit := some e }

def withOffset (e : Expr) (s : Select) : Select :=
  { s with offset := some e }

def withLock (l : Lock) (s : Select) : Select :=
  { s with lock := some l }

end Select

namespace Insert

def ofTable (table : String) (columns : List String) : Insert :=
  ⟨none, table, columns, .rows [], []⟩

def addRow (row : List Expr) (s : Insert) : Insert :=
  match s.source with
  | .rows rows => { s with source := .rows (rows ++ [row]) }
  | _ => { s with source := .rows [row] }

def withSource (source : InsertSource) (s : Insert) : Insert :=
  { s with source := source }

def withReturning (columns : List String) (s : Insert) : Insert :=
  { s with returning := columns }

end Insert

namespace RowFilter

def addFilter (e : Expr) (f : RowFilter) : RowFilter :=
  { f with wheres := f.wheres ++ [e] }

def addOrder (o : Order) (f : RowFilter) : RowFilter :=
  { f with orders := f.orders ++ [o] }

def withLimit (e : Expr) (f : RowFilter) : RowFilter :=
  { f with limit := some e }

def withKey (e : Expr) (f : RowFilter) : RowFilter :=
  { f with key := some e }

end RowFilter

namespace Update

def ofTable (table : String) : Update :=
  ⟨none, table, [], .empty⟩

def set (column : String) (value : Expr) (s : Update) : Update :=
  { s with assignments := s.assignments ++ [⟨column, value⟩] }

end Update

def Delete.ofTable (table : String) : Delete :=
  ⟨none, table, .empty⟩

end PolySql
