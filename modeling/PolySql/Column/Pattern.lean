import PolySql.Text.Cut
import PolySql.Text.Word

namespace PolySql.TypePattern

open Text

def opensWith (names : List String) (key : String) : Bool :=
  names.any fun n => startsWith key n

def opensWithWord (names : List String) (key : String) : Bool :=
  names.any fun n => (dropPrefix? n.toList key.toList).any wordEndsBefore

def afterDigits? (t : List Char) : Option (List Char) :=
  match t with
  | [] => none
  | c :: r => if isDecimalDigit c then some (r.dropWhile isDecimalDigit) else none

def sized (name : String) (key : String) : Bool :=
  match (dropPrefix? (name.toList ++ ['(']) key.toList).bind afterDigits? with
  | some (c :: _) => c == ')'
  | _ => false

end PolySql.TypePattern
