namespace PolySql.Text

def isBlank (c : Char) : Bool :=
  let n := c.toNat
  (0x9 ≤ n && n ≤ 0xd) || n == 0x20 || n == 0x85 || n == 0xa0 || n == 0x1680 ||
    (0x2000 ≤ n && n ≤ 0x200a) || n == 0x2028 || n == 0x2029 || n == 0x202f ||
    n == 0x205f || n == 0x3000

def trimStart (t : List Char) : List Char :=
  t.dropWhile isBlank

def trimEnd (t : List Char) : List Char :=
  (t.reverse.dropWhile isBlank).reverse

def trim (t : List Char) : List Char :=
  trimEnd (trimStart t)

def trimmed (s : String) : String :=
  String.ofList (trim s.toList)

end PolySql.Text
