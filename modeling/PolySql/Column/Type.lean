import PolySql.Number.Integer
import PolySql.Text.Blank
import PolySql.Text.Cut

namespace PolySql

open Text Number

inductive TypeKind where
  | integer
  | bigInteger
  | decimal
  | decimalWithoutScale
  | float
  | money
  | string
  | text
  | binary
  | boolean
  | date
  | time
  | dateTime
  | uuid
  | xml
  | json
  | other
  deriving DecidableEq, Repr

structure ColumnType where
  kind : TypeKind
  sqlType : String
  limit : Option UInt32
  precision : Option UInt32
  scale : Option UInt32
  deriving DecidableEq, Repr

def typeArguments? (sqlType : String) : Option (List Char) :=
  (cut? '(' sqlType.toList).bind fun p => (cut? ')' p.2).map (·.1)

def sizeArgument? (t : List Char) : Option UInt32 :=
  readUInt32? (String.ofList (trim t))

def readLimit (sqlType : String) : Option UInt32 :=
  (typeArguments? sqlType).bind fun args => if ',' ∈ args then none else sizeArgument? args

def readPrecision (sqlType : String) : Option UInt32 :=
  (typeArguments? sqlType).bind fun args => (pieces ',' args)[0]?.bind sizeArgument?

def readScale (sqlType : String) : Option UInt32 :=
  (typeArguments? sqlType).bind fun args => (pieces ',' args)[1]?.bind sizeArgument?

namespace ColumnType

def plain (kind : TypeKind) (sqlType : String) : ColumnType :=
  ⟨kind, sqlType, none, none, none⟩

def withLimit (kind : TypeKind) (sqlType : String) : ColumnType :=
  { plain kind sqlType with limit := readLimit sqlType }

def withPrecision (kind : TypeKind) (sqlType : String) : ColumnType :=
  { plain kind sqlType with precision := readPrecision sqlType, scale := readScale sqlType }

end ColumnType

end PolySql
