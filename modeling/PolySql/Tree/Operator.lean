namespace PolySql

inductive BinaryOp where
  | add
  | sub
  | mul
  | div
  | mod
  | eq
  | notEq
  | lt
  | ltEq
  | gt
  | gtEq
  | and
  | or
  | concat
  | like
  | notLike
  deriving DecidableEq, Repr

namespace BinaryOp

def sql : BinaryOp → String
  | add => "+"
  | sub => "-"
  | mul => "*"
  | div => "/"
  | mod => "%"
  | eq => "="
  | notEq => "<>"
  | lt => "<"
  | ltEq => "<="
  | gt => ">"
  | gtEq => ">="
  | and => "AND"
  | or => "OR"
  | concat => "||"
  | like => "LIKE"
  | notLike => "NOT LIKE"

def precedence : BinaryOp → Nat
  | or => 1
  | and => 2
  | eq | notEq | lt | ltEq | gt | gtEq => 3
  | like | notLike => 4
  | add | sub | concat => 8
  | mul | div | mod => 9

def isAssociative : BinaryOp → Bool
  | and | or | add | mul | concat => true
  | _ => false

end BinaryOp

inductive UnaryOp where
  | neg
  | not
  deriving DecidableEq, Repr

def UnaryOp.sql : UnaryOp → String
  | neg => "-"
  | not => "NOT "

inductive Direction where
  | asc
  | desc
  deriving DecidableEq, Repr

def Direction.sql : Direction → String
  | asc => "ASC"
  | desc => "DESC"

inductive NullsOrder where
  | first
  | last
  deriving DecidableEq, Repr

def NullsOrder.sql : NullsOrder → String
  | first => "NULLS FIRST"
  | last => "NULLS LAST"

inductive JoinKind where
  | inner
  | left
  | right
  | full
  | cross
  deriving DecidableEq, Repr

def JoinKind.sql : JoinKind → String
  | inner => "INNER JOIN"
  | left => "LEFT OUTER JOIN"
  | right => "RIGHT OUTER JOIN"
  | full => "FULL OUTER JOIN"
  | cross => "CROSS JOIN"

end PolySql
