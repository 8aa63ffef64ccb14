import PolySql.Column.Basic
import PolySql.Column.Cast
import PolySql.Text.Parenthesis

namespace PolySql.SqlServer

open Text Number

def isNullDefault (t : List Char) : Bool :=
  let inner := unwrap t
  inner.isEmpty || sameIgnoringCase (String.ofList inner) "null"

def quotedDefault? (t : List Char) : Option (List Char) := do
  let r ← dropPrefix? ['('] t
  let literal := match r with
    | 'N' :: r => r
    | r => r
  between? ['\''] ['\'', ')'] literal

def parenthesizedDefault? (t : List Char) : Option (List Char) := do
  let r ← dropPrefix? ['('] t
  let inner := (dropPrefix? ['('] r).getD r
  (dropSuffix? [')', ')'] inner).or (dropSuffix? [')'] inner)

def dropUpTo (c : Char) : Nat → List Char → List Char
  | n + 1, x :: r => if x = c then dropUpTo c n r else x :: r
  | _, t => t

def numericDefault? (t : List Char) : Option (List Char) :=
  let r := dropUpTo '(' 2 t
  let number := (dropUpTo ')' 2 r.reverse).reverse
  if isDecimalLiteral (String.ofList number) then some number else none

def extractDefault (raw : String) : Option String :=
  let s := trimmed raw
  let t := s.toList
  if isNullDefault t then none
  else
    match quotedDefault? t with
    | some inner => some (String.ofList (undouble '\'' inner))
    | none =>
      match parenthesizedDefault? t with
      | some inner => some (String.ofList inner)
      | none => some s

def parseDefault (raw : String) (type : ColumnType) : Option ColumnDefault :=
  let t := (trimmed raw).toList
  if isNullDefault t then none
  else
    let expression := ColumnDefault.generator (String.ofList (unwrap t))
    match quotedDefault? t with
    | some inner =>
      some (((type.cast (String.ofList (undouble '\'' inner))).map ColumnDefault.value).getD
        expression)
    | none =>
      match numericDefault? t with
      | some number =>
        some (((type.cast (String.ofList number)).map ColumnDefault.value).getD expression)
      | none => some expression

end PolySql.SqlServer
