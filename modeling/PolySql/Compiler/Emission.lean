import PolySql.Failure.Basic
import PolySql.Text.Placeholder

namespace PolySql

open Text

inductive Piece where
  | text (s : String)
  | bind (v : Value)
  | fault (e : CompileError)
  deriving Repr

abbrev Emission := List Piece

namespace Piece

def sql (placeholder : String) : Piece → String
  | text s => s
  | bind _ => placeholder
  | fault _ => ""

def bind? : Piece → Option Value
  | bind v => some v
  | _ => none

def fault? : Piece → Option CompileError
  | fault e => some e
  | _ => none

end Piece

namespace Emission

def lit (s : String) : Emission := [.text s]

def sql (placeholder : String) (e : Emission) : String :=
  String.join (e.map (Piece.sql placeholder))

def binds (e : Emission) : List Value :=
  e.filterMap Piece.bind?

def fault? (e : Emission) : Option CompileError :=
  e.findSome? Piece.fault?

def separated (sep : String) : List Emission → Emission
  | [] => []
  | [e] => e
  | e :: rest => e ++ lit sep ++ separated sep rest

def parenthesized (e : Emission) : Emission :=
  lit "(" ++ e ++ lit ")"

def parenthesizedIf (b : Bool) (e : Emission) : Emission :=
  if b then parenthesized e else e

def interleave : List String → List Value → Emission
  | [], _ => []
  | [s], _ => lit s
  | s :: rest, v :: vs => lit s ++ .bind v :: interleave rest vs
  | s :: _, [] => lit s

def fragment (text : String) (binds : List Value) : Emission :=
  if placeholderCount text = binds.length then interleave (splitPlaceholders text) binds
  else [.fault (.fragmentBinds text (placeholderCount text) binds.length)]

end Emission

end PolySql
