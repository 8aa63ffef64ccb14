import PolySql.Database.RowSet
import PolySql.Number.Integer
import PolySql.Value.Display

namespace PolySql.RowTable

open Text Number

def maxWidth : Nat := 50

def shorten (s : String) : String :=
  let t := s.toList
  if t.length ≤ maxWidth then s else String.ofList (t.take (maxWidth - 3)) ++ "..."

def cell : Value → String
  | .null => "NULL"
  | .float d => String.ofList (d.text.toList.take 10)
  | v => shorten v.display

def cellWidths (rows : List (List Value)) (index : Nat) : List Nat :=
  rows.filterMap fun row => row[index]?.map fun v => (cell v).length

def columnWidth (rows : List (List Value)) (index : Nat) (label : String) : Nat :=
  min maxWidth ((cellWidths rows index).foldl max label.length)

def widthsFrom (rows : List (List Value)) (index : Nat) : List String → List Nat
  | [] => []
  | label :: labels => columnWidth rows index label :: widthsFrom rows (index + 1) labels

def widths (r : RowSet) : List Nat :=
  widthsFrom r.rows 0 r.columns

def separator (ws : List Nat) : String :=
  "+" ++ joined "+" (ws.map fun w => repeated '-' (w + 2)) ++ "+"

def filled (w : Nat) (s : String) : String :=
  s ++ repeated ' ' (w - s.length)

def line (ws : List Nat) (cells : List String) : String :=
  "|" ++ joined "|" ((ws.zip cells).map fun p => " " ++ filled p.1 p.2 ++ " ") ++ "|"

def countLine (n : Nat) : String :=
  natText n ++ (if n = 1 then " row" else " rows") ++ " in set"

def lines (r : RowSet) : List String :=
  let ws := widths r
  [separator ws, line ws (r.columns.map shorten), separator ws] ++
    (r.rows.map fun row => line ws (row.map cell)) ++
    [separator ws, countLine r.size]

def draw (r : RowSet) : String :=
  joined "\n" (lines r)

end PolySql.RowTable
