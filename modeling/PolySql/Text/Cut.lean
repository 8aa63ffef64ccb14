namespace PolySql.Text

def dropPrefixBy? (same : Char → Char → Bool) : List Char → List Char → Option (List Char)
  | [], t => some t
  | _ :: _, [] => none
  | p :: ps, c :: cs => if same p c then dropPrefixBy? same ps cs else none

def dropPrefix? (p t : List Char) : Option (List Char) :=
  dropPrefixBy? (· == ·) p t

def dropSuffix? (p t : List Char) : Option (List Char) :=
  (dropPrefix? p.reverse t.reverse).map List.reverse

def between? (opening closing t : List Char) : Option (List Char) :=
  (dropPrefix? opening t).bind (dropSuffix? closing)

def cut? (sep : Char) : List Char → Option (List Char × List Char)
  | [] => none
  | c :: cs =>
    if c = sep then some ([], cs) else (cut? sep cs).map fun p => (c :: p.1, p.2)

def pieces (sep : Char) : List Char → List (List Char)
  | [] => [[]]
  | c :: cs =>
    if c = sep then [] :: pieces sep cs
    else
      match pieces sep cs with
      | [] => [[c]]
      | p :: ps => (c :: p) :: ps

def occursIn (needle : List Char) : List Char → Bool
  | [] => needle.isEmpty
  | c :: cs => (dropPrefix? needle (c :: cs)).isSome || occursIn needle cs

def contains (s needle : String) : Bool :=
  occursIn needle.toList s.toList

def startsWith (s opening : String) : Bool :=
  (dropPrefix? opening.toList s.toList).isSome

def double (c : Char) : List Char → List Char
  | [] => []
  | x :: xs => if x = c then c :: c :: double c xs else x :: double c xs

def undouble (c : Char) : List Char → List Char
  | [] => []
  | [x] => [x]
  | x :: y :: r => if x = c ∧ y = c then c :: undouble c r else x :: undouble c (y :: r)

def lower (s : String) : String :=
  String.ofList (s.toList.map Char.toLower)

def upper (s : String) : String :=
  String.ofList (s.toList.map Char.toUpper)

def sameIgnoringCase (s t : String) : Bool :=
  lower s == lower t

def joined (sep : String) : List String → String
  | [] => ""
  | [s] => s
  | s :: rest => s ++ sep ++ joined sep rest

def repeated (c : Char) (n : Nat) : String :=
  String.ofList (List.replicate n c)

end PolySql.Text
