import PolySql.Text.Blank
import PolySql.Text.Phrase
import PolySql.Text.Word

namespace PolySql.OrderText

open Text

def wholeWord? (words : List String) (t : List Char) : Option (List Char) :=
  words.findSome? fun w => (keyword? w t).filter wordEndsBefore

def nulls? (t : List Char) : Option (List Char) :=
  (keyword? "nulls" t).bind fun r =>
    match r with
    | [] => none
    | c :: _ => if isBlank c then wholeWord? ["first", "last"] (trimStart r) else none

def direction? (t : List Char) : Option (List Char) :=
  wholeWord? ["asc", "desc"] t

def strip (clause? : List Char → Option (List Char)) : Nat → List Char → List Char
  | 0, t => t
  | _ + 1, [] => []
  | fuel + 1, c :: r =>
    if isBlank c then
      match clause? (trimStart (c :: r)) with
      | some rest => strip clause? fuel rest
      | none =>
        (c :: r).takeWhile isBlank ++ strip clause? fuel ((c :: r).dropWhile isBlank)
    else c :: strip clause? fuel r

def bare (s : String) : String :=
  let t := s.toList
  let undirected := strip direction? t.length t
  String.ofList (trim (strip nulls? undirected.length undirected))

end PolySql.OrderText
