import PolySql.Text.Cut
import PolySql.Value.Basic

namespace PolySql

open Text

structure RowSet where
  columns : List String
  rows : List (List Value)
  deriving BEq, Repr

namespace RowSet

def empty : RowSet := ⟨[], []⟩

def size (r : RowSet) : Nat :=
  r.rows.length

def isEmpty (r : RowSet) : Bool :=
  r.rows.isEmpty

def firstValue? (r : RowSet) : Option Value :=
  r.rows.head?.bind List.head?

def columnIndex? (r : RowSet) (column : String) : Option Nat :=
  r.columns.findIdx? (sameIgnoringCase column)

end RowSet

end PolySql
