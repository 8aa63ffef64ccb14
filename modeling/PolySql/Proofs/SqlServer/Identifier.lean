import Mathlib.Data.List.Forall2
import PolySql.Proofs.Arithmetic.Column
import PolySql.Proofs.Text.Pieces
import PolySql.Proofs.Write.Emission

namespace PolySql.SqlServer

open Emission Text

inductive Naming where
  | projection (e : Expr)
  | table (schema : Option String) (name : String)
  | derived (q : Select)
  | insertColumn (before after : List String)
  | assignment (value : Expr)

namespace Naming

def write (d : Dialect) (name : String) : Naming → Emission
  | projection e => d.writeProjection ⟨e, some name⟩
  | table schema n => d.writeTable (.table schema n (some name))
  | derived q => d.writeTable (.derived q name)
  | insertColumn before after => d.writeColumns (before ++ name :: after)
  | assignment value => d.writeAssignment ⟨name, value⟩

def parts (name : String) : Naming → List (List Char)
  | table _ _ | derived _ => [name.toList]
  | _ => pieces '.' name.toList

def identifiers (name : String) (place : Naming) : List String :=
  (place.parts name).map fun p => quoteIdentifier (String.ofList p)

def front (d : Dialect) (placeholder : String) : Naming → String
  | projection e => (d.writeExpr e).sql placeholder ++ " AS "
  | table schema n => d.quoteQualified schema n ++ " "
  | derived q => "(" ++ (d.writeSelect q).sql placeholder ++ ") "
  | insertColumn before _ => " (" ++ String.join (before.map fun c => d.quoteColumn c ++ ", ")
  | assignment _ => ""

def back (d : Dialect) (placeholder : String) : Naming → String
  | insertColumn _ after => String.join (after.map fun c => ", " ++ d.quoteColumn c) ++ ")"
  | assignment value => " = " ++ (d.writeExpr value).sql placeholder
  | _ => ""

section Written
variable {zone : Calendar.Timezone} {collation placeholder name : String}

end Written

end Naming

end PolySql.SqlServer
