namespace PolySql

inductive PagingStyle where
  | limitOffset
  | offsetFetch
  | fetchFirst
  deriving DecidableEq, Repr

inductive LockStyle where
  | trailing
  | tableHint
  | unsupported
  deriving DecidableEq, Repr

inductive ReturningStyle where
  | unsupported
  | returning
  | output
  | finalTable
  deriving DecidableEq, Repr

inductive BooleanLiteral where
  | keyword
  | numeric
  deriving DecidableEq, Repr

inductive BinaryLiteral where
  | hexString
  | hexNumber
  | escapedBytea
  | blobFunction
  deriving DecidableEq, Repr

structure Capabilities where
  paging : PagingStyle
  deterministicPaging : Bool
  offsetRequiresLimit : Bool
  lock : LockStyle
  orderedSubqueries : Bool
  returning : ReturningStyle
  nullsOrdering : Bool
  boolean : BooleanLiteral
  binary : BinaryLiteral
  unicodeStrings : Bool
  fractionalDigits : UInt8
  maxRowLimit : Int64
  topExistsCheck : Bool
  distinctOrderProjections : Bool
  updateOrderRequiresLimit : Bool
  deriving DecidableEq, Repr

namespace Capabilities

def ansi : Capabilities where
  paging := .limitOffset
  deterministicPaging := false
  offsetRequiresLimit := false
  lock := .trailing
  orderedSubqueries := true
  returning := .unsupported
  nullsOrdering := true
  boolean := .keyword
  binary := .hexString
  unicodeStrings := false
  fractionalDigits := 6
  maxRowLimit := Int64.maxValue
  topExistsCheck := false
  distinctOrderProjections := false
  updateOrderRequiresLimit := false

end Capabilities

end PolySql
