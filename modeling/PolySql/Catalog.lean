import PolySql.Column.Basic

namespace PolySql

structure Catalog where
  primaryKeys : String → List String
  columns : String → List Column

namespace Catalog

def identityColumn? (c : Catalog) (table : String) : Option Column :=
  (c.columns table).find? Column.isIdentity

end Catalog

structure TableInfo where
  primaryKeys : List String
  columns : List Column
  deriving BEq, Repr

structure TableStore where
  entries : List (String × TableInfo)
  deriving BEq, Repr

namespace TableStore

def empty : TableStore := ⟨[]⟩

def get? (s : TableStore) (table : String) : Option TableInfo :=
  (s.entries.find? fun e => e.1 == table).map (·.2)

def contains (s : TableStore) (table : String) : Bool :=
  (s.get? table).isSome

def invalidate (s : TableStore) (table : String) : TableStore :=
  ⟨s.entries.filter fun e => e.1 != table⟩

def addTable (s : TableStore) (table : String) (primaryKeys : List String)
    (columns : List Column) : TableStore :=
  let owned := columns.map fun c => { c with table := some (c.table.getD table) }
  ⟨(table, ⟨primaryKeys, owned⟩) :: (s.invalidate table).entries⟩

def clear (_ : TableStore) : TableStore := empty

def catalog (s : TableStore) : Catalog where
  primaryKeys table := ((s.get? table).map (·.primaryKeys)).getD []
  columns table := ((s.get? table).map (·.columns)).getD []

end TableStore

end PolySql
