namespace PolySql.Number

structure Double where
  bits : UInt64
  deriving DecidableEq, Repr

namespace Double

def isNegative (d : Double) : Bool :=
  d.bits ≥ 0x8000000000000000

def exponentBits (d : Double) : Nat :=
  d.bits.toNat / Nat.pow 2 52 % Nat.pow 2 11

def fractionBits (d : Double) : Nat :=
  d.bits.toNat % Nat.pow 2 52

def isFinite (d : Double) : Bool :=
  d.exponentBits != 2047

def isNaN (d : Double) : Bool :=
  !d.isFinite && d.fractionBits != 0

def isZero (d : Double) : Bool :=
  d.exponentBits == 0 && d.fractionBits == 0

def significand (d : Double) : Nat :=
  if d.exponentBits = 0 then d.fractionBits else Nat.pow 2 52 + d.fractionBits

def scale (d : Double) : Nat :=
  d.exponentBits - 1

instance : BEq Double where
  beq a b := !a.isNaN && !b.isNaN && (a.bits == b.bits || a.isZero && b.isZero)

def infinity (negative : Bool) : Double :=
  ⟨if negative then 0xfff0000000000000 else 0x7ff0000000000000⟩

def nan (negative : Bool) : Double :=
  ⟨if negative then 0xfff8000000000000 else 0x7ff8000000000000⟩

end Double

end PolySql.Number
