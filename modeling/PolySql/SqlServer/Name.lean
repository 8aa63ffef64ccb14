import PolySql.Dialect.Basic
import PolySql.Text.Blank

namespace PolySql.SqlServer

open Text

def isBracketed (name : List Char) : Bool :=
  match between? ['['] [']'] name with
  | some inner => !inner.contains '\n'
  | none => false

def quoteIdentifier (name : String) : String :=
  if isBracketed name.toList then name else quoteBetween '[' ']' name

def quoteName (name : String) : String :=
  quoteParts quoteIdentifier name

def isDelimiter (c : Char) : Bool :=
  c == '[' || c == ']' || c == '"'

def bareName (t : List Char) : String :=
  String.ofList (t.filter fun c => !isDelimiter c)

def tableOf (name : String) : String :=
  bareName ((pieces '.' name.toList).getLast?.getD [])

def schemaOf? (name : String) : Option String :=
  match (pieces '.' name.toList).reverse with
  | _ :: schema :: _ => some (bareName schema)
  | _ => none

def databaseOf? (name : String) : Option String :=
  match pieces '.' name.toList with
  | database :: _ :: _ :: _ => some (bareName database)
  | _ => none

def unquoteIdentifier (name : String) : String :=
  let t := trim name.toList
  match between? ['['] [']'] t with
  | some inner => String.ofList (undouble ']' inner)
  | none =>
    match between? ['"'] ['"'] t with
    | some inner => String.ofList (undouble '"' inner)
    | none => String.ofList t

end PolySql.SqlServer
