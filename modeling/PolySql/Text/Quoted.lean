import PolySql.Text.Cut

namespace PolySql.Text

def quoteChars (t : List Char) : List Char :=
  '\'' :: (double '\'' t ++ ['\''])

def quoteString (s : String) : String :=
  String.ofList (quoteChars s.toList)

def unquoteString (s : String) : String :=
  let t := s.toList
  String.ofList (undouble '\'' ((between? ['\''] ['\''] t).getD t))

end PolySql.Text
