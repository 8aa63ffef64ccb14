namespace PolySql.Number

def natText (n : Nat) : String :=
  String.ofList (Nat.toDigits 10 n)

def intText : Int → String
  | .ofNat n => natText n
  | .negSucc n => "-" ++ natText (n + 1)

def padded (width n : Nat) : String :=
  let ds := Nat.toDigits 10 n
  String.ofList (List.replicate (width - ds.length) '0' ++ ds)

def digitsValue (t : List Char) : Nat :=
  t.foldl (fun n c => 10 * n + (c.toNat - 48)) 0

def readNat? (t : List Char) : Option Nat :=
  if t ≠ [] ∧ t.all Char.isDigit then some (digitsValue t) else none

def readInt? : List Char → Option Int
  | '-' :: t => (readNat? t).map fun n => -(n : Int)
  | '+' :: t => (readNat? t).map Int.ofNat
  | t => (readNat? t).map Int.ofNat

def fitsInt64 (n : Int) : Bool :=
  Int64.minValue.toInt ≤ n && n ≤ Int64.maxValue.toInt

def int64? (n : Int) : Option Int64 :=
  if fitsInt64 n then some (Int64.ofInt n) else none

def readInt64? (s : String) : Option Int64 :=
  (readInt? s.toList).bind int64?

def add? (a b : Int64) : Option Int64 :=
  int64? (a.toInt + b.toInt)

def readUnsigned? : List Char → Option Nat
  | '+' :: t => readNat? t
  | t => readNat? t

def readUInt32? (s : String) : Option UInt32 :=
  match readUnsigned? s.toList with
  | some n => if n < UInt32.size then some (UInt32.ofNat n) else none
  | none => none

end PolySql.Number
