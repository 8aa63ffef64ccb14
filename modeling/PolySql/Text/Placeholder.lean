namespace PolySql.Text

def regionEnd? (c : Char) : Option Char :=
  if c = '\'' ∨ c = '"' then some c else if c = '[' then some ']' else none

def scanChar (state : Option Char) (c : Char) : Option Char :=
  match state with
  | some close => if c = close then none else some close
  | none => regionEnd? c

def scan (state : Option Char) (t : List Char) : Option Char :=
  t.foldl scanChar state

def segmentsFrom (state : Option Char) : List Char → List (List Char)
  | [] => [[]]
  | c :: cs =>
    if state = none ∧ c = '?' then [] :: segmentsFrom none cs
    else
      match segmentsFrom (scanChar state c) cs with
      | [] => [[c]]
      | s :: rest => (c :: s) :: rest

def segments (t : List Char) : List (List Char) :=
  segmentsFrom none t

def splitPlaceholders (s : String) : List String :=
  (segments s.toList).map String.ofList

def placeholderCount (s : String) : Nat :=
  (splitPlaceholders s).length - 1

end PolySql.Text
