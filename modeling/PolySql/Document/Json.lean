namespace PolySql

inductive Json where
  | null
  | bool (b : Bool)
  | number (text : List Char)
  | string (s : Option String)
  | array (items : List Json)
  | object (entries : List (Option String × Json))

end PolySql
