import PolySql.Number.Double.Basic
import PolySql.Number.Integer

namespace PolySql.Number

structure Interval where
  low : Nat
  value : Nat
  high : Nat
  closed : Bool
  deriving DecidableEq, Repr

namespace Interval

def holds (i : Interval) (x : Nat) : Bool :=
  if i.closed then i.low ≤ x && x ≤ i.high else i.low < x && x < i.high

def nearest? (i : Interval) (step : Nat) : Option Nat :=
  let below := i.value / step
  let above := below + 1
  let belowIn := below ≠ 0 ∧ i.holds (below * step)
  let aboveIn := i.holds (above * step)
  if belowIn ∧ aboveIn then
    some (if i.value - below * step < above * step - i.value then below else above)
  else if belowIn then some below
  else if aboveIn then some above
  else none

end Interval

structure Scientific where
  digits : Nat
  exponent : Int
  deriving DecidableEq, Repr

namespace Double

def interval (d : Double) : Interval :=
  let m := 4 * d.significand
  let unit := Nat.pow 2 d.scale
  let down := if d.fractionBits = 0 ∧ d.exponentBits > 1 then 1 else 2
  ⟨(m - down) * unit, m * unit, (m + 2) * unit, d.significand % 2 = 0⟩

def onGrid (d : Double) (e : Int) : Interval × Nat :=
  let i := d.interval
  if e ≥ 0 then (i, Nat.pow 2 1076 * Nat.pow 10 e.toNat)
  else
    let k := Nat.pow 10 (-e).toNat
    (⟨i.low * k, i.value * k, i.high * k, i.closed⟩, Nat.pow 2 1076)

def onPower? (d : Double) (e : Int) : Option Scientific :=
  let (i, step) := d.onGrid e
  (i.nearest? step).map fun n => ⟨n, e⟩

def shortest (d : Double) : Scientific :=
  ((List.range 640).findSome? fun (k : Nat) => d.onPower? (309 - (k : Int))).getD ⟨0, 0⟩

end Double

namespace Scientific

def positional (s : Scientific) : String :=
  let ds := Nat.toDigits 10 s.digits
  if s.exponent ≥ 0 then
    String.ofList (ds ++ List.replicate s.exponent.toNat '0')
  else
    let k := (-s.exponent).toNat
    if ds.length > k then
      String.ofList (ds.take (ds.length - k) ++ '.' :: ds.drop (ds.length - k))
    else
      String.ofList ('0' :: '.' :: (List.replicate (k - ds.length) '0' ++ ds))

end Scientific

def Double.text (d : Double) : String :=
  if d.isNaN then "NaN"
  else
    let magnitude :=
      if !d.isFinite then "inf" else if d.isZero then "0" else d.shortest.positional
    if d.isNegative then "-" ++ magnitude else magnitude

end PolySql.Number
