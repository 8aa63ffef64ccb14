import PolySql.Text.Digit

namespace PolySql.Number

open PolySql.Text

def isDigitRun (t : List Char) : Bool :=
  t != [] && t.all isDecimalDigit

def isUnsignedDecimal (t : List Char) : Bool :=
  let whole := t.takeWhile isDecimalDigit
  match t.dropWhile isDecimalDigit with
  | [] => whole != []
  | c :: fraction => whole != [] && c == '.' && isDigitRun fraction

def isDecimalLiteral (s : String) : Bool :=
  match s.toList with
  | '-' :: t => isUnsignedDecimal t
  | t => isUnsignedDecimal t

end PolySql.Number
