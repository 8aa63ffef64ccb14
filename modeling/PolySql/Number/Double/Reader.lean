import PolySql.Number.Double.Basic
import PolySql.Number.Integer

namespace PolySql.Number

def roundDiv (n d : Nat) : Nat :=
  let q := n / d
  let r := 2 * (n % d)
  if r > d ∨ (r = d ∧ q % 2 = 1) then q + 1 else q

namespace Double

def magnitudeOfRatio (n d : Nat) : Nat :=
  if n = 0 then 0
  else
    let guess : Int := (Nat.log2 n : Int) - Nat.log2 d
    let power : Int :=
      if (if guess ≥ 0 then d * Nat.pow 2 guess.toNat ≤ n
          else d ≤ n * Nat.pow 2 (-guess).toNat) then guess
      else guess - 1
    let q : Int := max (power - 52) (-1074)
    let m :=
      if q ≥ 0 then roundDiv n (d * Nat.pow 2 q.toNat) else roundDiv (n * Nat.pow 2 (-q).toNat) d
    let bits := (q + 1074).toNat * Nat.pow 2 52 + m
    min bits (2047 * Nat.pow 2 52)

def ofSigned (negative : Bool) (magnitude : Nat) : Double :=
  ⟨UInt64.ofNat (if negative then Nat.pow 2 63 + magnitude else magnitude)⟩

def magnitudeOfScientific (digits : Nat) (exponent : Int) : Nat :=
  let size : Int := (Nat.toDigits 10 digits).length
  if digits = 0 ∨ exponent + size < -400 then 0
  else if exponent + size > 400 then 2047 * Nat.pow 2 52
  else if exponent ≥ 0 then magnitudeOfRatio (digits * Nat.pow 10 exponent.toNat) 1
  else magnitudeOfRatio digits (Nat.pow 10 (-exponent).toNat)

def readExponent? : List Char → Option Int
  | [] => some 0
  | c :: t => if c = 'e' ∨ c = 'E' then readInt? t else none

def readMagnitude? (t : List Char) : Option Nat :=
  let whole := t.takeWhile Char.isDigit
  let rest := t.dropWhile Char.isDigit
  let (fraction, tail) :=
    match rest with
    | '.' :: r => (r.takeWhile Char.isDigit, r.dropWhile Char.isDigit)
    | r => ([], r)
  if whole ++ fraction = [] then none
  else
    (readExponent? tail).map fun e =>
      magnitudeOfScientific (digitsValue (whole ++ fraction)) (e - fraction.length)

def readWord? (negative : Bool) (t : List Char) : Option Double :=
  let word := String.ofList (t.map Char.toLower)
  if word == "inf" || word == "infinity" then some (infinity negative)
  else if word == "nan" then some (nan negative)
  else none

def readUnsigned? (negative : Bool) (t : List Char) : Option Double :=
  match readMagnitude? t with
  | some m => some (ofSigned negative m)
  | none => readWord? negative t

def read? (s : String) : Option Double :=
  match s.toList with
  | '-' :: t => readUnsigned? true t
  | '+' :: t => readUnsigned? false t
  | t => readUnsigned? false t

end Double

end PolySql.Number
