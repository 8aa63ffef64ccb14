import PolySql.Catalog
import PolySql.Dialect.Basic
import PolySql.SqlServer.Name
import PolySql.Text.Phrase
import PolySql.Text.Word

namespace PolySql.SqlServer.InsertText

open Text

def afterBlanks? : List Char → Option (List Char)
  | [] => none
  | c :: r => if isBlank c then some (trimStart r) else none

def afterInsert? (t : List Char) : Option (List Char) :=
  let t := trimStart t
  (keyword? "insert" t).or (keyword? "exec sp_executesql n'insert" t)

def isInsert (sql : String) : Bool :=
  ((afterInsert? sql.toList).bind afterBlanks?).isSome

def isNameChar (c : Char) : Bool :=
  c != '(' && !isBlank c

def takeName? (isChar : Char → Bool) (t : List Char) : Option (List Char × List Char) :=
  let name := t.takeWhile isChar
  if name = [] then none else some (name, t.dropWhile isChar)

def intoName? (t : List Char) : Option (List Char × List Char) :=
  let word := afterBlanks? t
  let table := (word.bind (keyword? "into")).bind afterBlanks?
  (table.bind (takeName? isNameChar)).or (word.bind (takeName? isNameChar))

def updateName? (t : List Char) : Option (List Char × List Char) :=
  ((keyword? "update" (trimStart t)).bind afterBlanks?).bind (takeName? isNameChar)

def fromName? (t : List Char) : Option (List Char × List Char) :=
  ((keyword? "from" t).bind afterBlanks?).bind
    (takeName? fun c => isNameChar c && c != ')' && c != ',')

def firstFromName? (inWord : Bool) : List Char → Option (List Char)
  | [] => none
  | c :: r =>
    let here := if inWord then none else (fromName? (c :: r)).map (·.1)
    here.or (firstFromName? (isWordChar c) r)

def qualifiedTable? (sql : String) : Option String :=
  let t := sql.toList
  let target := ((afterInsert? t).bind intoName?).or (updateName? t)
  ((target.map (·.1)).or (firstFromName? false t)).map String.ofList

def table? (sql : String) : Option String :=
  (qualifiedTable? sql).map tableOf

def listText? : List Char → Option (List Char)
  | [] => none
  | c :: r => (cut? ')' r).map fun p => c :: p.1

def lastList? : List Char → List Char → Option (List Char)
  | [], _ => none
  | [_], _ => none
  | _ :: x :: name, rest =>
    (lastList? (x :: name) rest).or
      (if x = '(' then listText? (name ++ rest) else none)

def listInWord? (t : List Char) : Option (List Char) :=
  let t := (t.reverse.dropWhile (· != ')')).reverse
  lastList? (t.takeWhile (· != ' ')) (t.dropWhile (· != ' '))

def columnsAfterName? (t : List Char) : Option (List Char) :=
  if t.takeWhile (· != ' ') = [] then none
  else
    (match t.dropWhile (· != ' ') with
      | ' ' :: '(' :: r => listText? r
      | _ => none).or (listInWord? t)

def columnsText? : List Char → Option (List Char)
  | [] => none
  | c :: r =>
    ((keyword? "insert into " (c :: r)).bind columnsAfterName?).or (columnsText? r)

def columns? (sql : String) : Option (List String) :=
  (columnsText? sql.toList).map fun list =>
    (pieces ',' (trim list)).map fun name => unquoteIdentifier (String.ofList name)

def identityTable? (catalog : Catalog) (sql : String) : Option String := do
  if !isInsert sql then none
  let table ← qualifiedTable? sql
  let identity ← catalog.identityColumn? (tableOf table)
  let columns ← columns? sql
  if identity.name ∈ columns then some table else none

def identityStatements (d : Dialect) (table : String) : String × String :=
  let statement := "SET IDENTITY_INSERT " ++ d.quoteTable table
  (statement ++ " ON", statement ++ " OFF")

def afterHead? (t : List Char) : Option (List Char) := do
  let word ← (keyword? "insert" (trimStart t)).bind afterBlanks?
  let table := (keyword? "into" word).bind afterBlanks?
  let (_, r) ← (table.bind (takeName? isNameChar)).or (takeName? isNameChar word)
  let r := trimStart r
  match r with
  | '(' :: list => some (((cut? ')' list).map (·.2)).getD r)
  | _ => some r

def withOutput (d : Dialect) (columns : List String) (sql : String) : String :=
  if columns.isEmpty || contains (upper sql) " OUTPUT " then sql
  else
    let t := sql.toList
    match afterHead? t with
    | none => sql
    | some rest =>
      let head := String.ofList (trimEnd (t.take (t.length - rest.length)))
      let output := joined ", " (columns.map fun c => "INSERTED." ++ d.quoteColumn c)
      head ++ " OUTPUT " ++ output ++ " " ++ String.ofList (trimStart rest)

end PolySql.SqlServer.InsertText
