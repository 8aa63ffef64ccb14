import PolySql.Database.RowSet
import PolySql.Failure.Basic
import PolySql.Number.Integer
import PolySql.Text.Blank
import PolySql.Value.Display

namespace PolySql.SqlServer

open Text Number

structure Version where
  complete : String
  major : Option UInt32
  level : Option String
  edition : Option String
  deriving DecidableEq, Repr

namespace Version

def query : String :=
  "SELECT CAST(SERVERPROPERTY('productVersion') AS VARCHAR(128)), " ++
    "CAST(SERVERPROPERTY('productMajorVersion') AS VARCHAR(128)), " ++
    "CAST(SERVERPROPERTY('productLevel') AS VARCHAR(128)), " ++
    "CAST(SERVERPROPERTY('edition') AS VARCHAR(128))"

def minimumMajor : UInt32 := 13

def years : List (UInt32 × String) :=
  [(8, "2000"), (9, "2005"), (10, "2008"), (11, "2012"), (12, "2014"), (13, "2016"), (14, "2017"),
   (15, "2019"), (16, "2022")]

def yearOf? (major : UInt32) : Option String :=
  (years.find? fun p => p.1 == major).map (·.2)

def minimumYear : String :=
  (yearOf? minimumMajor).getD "2016"

def readMajor? (t : List Char) : Option UInt32 :=
  readUInt32? (String.ofList (trim t))

def parse (complete : String) : Version :=
  ⟨complete, (pieces '.' complete.toList).head?.bind readMajor?, none, none⟩

def field? (row : List Value) (index : Nat) : Option String :=
  row[index]?.bind fun v => if v.isNull then none else some v.display

def ofRows? (rows : RowSet) : Option Version := do
  let row ← rows.rows.head?
  let complete ← field? row 0
  let major := ((field? row 1).bind fun s => readMajor? s.toList).or (parse complete).major
  return ⟨complete, major, field? row 2, field? row 3⟩

def year? (v : Version) : Option String :=
  v.major.bind yearOf?

def productName (v : Version) : String :=
  match v.year? with
  | some year => "Microsoft SQL Server " ++ year
  | none => "Microsoft SQL Server"

def isSupported (v : Version) : Bool :=
  v.major.any (minimumMajor ≤ ·)

def supportMessage : String :=
  "This adapter supports Microsoft SQL Server >= " ++ minimumYear ++ "."

def check (v : Version) : Except Failure Unit :=
  if v.isSupported then .ok ()
  else
    .error (.unsupportedVersion v.productName v.complete
      (natText minimumMajor.toNat ++ " (" ++ minimumYear ++ ")"))

end Version

end PolySql.SqlServer
