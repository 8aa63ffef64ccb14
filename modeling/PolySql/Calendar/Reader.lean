import PolySql.Calendar.Timestamp
import PolySql.Number.Integer
import PolySql.Text.Blank

namespace PolySql.Calendar

open PolySql.Text PolySql.Number

def readDigits? (most : Nat) (t : List Char) : Option (Nat × List Char) :=
  let ds := (t.take most).takeWhile Char.isDigit
  if ds = [] then none else some (digitsValue ds, t.drop ds.length)

def readNumber? (t : List Char) : Option (Nat × List Char) :=
  readDigits? 2 (trimStart t)

def readYear? (t : List Char) : Option (Int × List Char) :=
  match trimStart t with
  | '-' :: r => (readDigits? r.length r).map fun p => (-(p.1 : Int), p.2)
  | '+' :: r => (readDigits? r.length r).map fun p => ((p.1 : Int), p.2)
  | r => (readDigits? 4 r).map fun p => ((p.1 : Int), p.2)

def readChar? (c : Char) : List Char → Option (List Char)
  | [] => none
  | x :: r => if x = c then some r else none

def firstYear : Int := -262143
def lastYear : Int := 262142

def representable? (d : Date) : Option Date :=
  if firstYear ≤ d.year ∧ d.year ≤ lastYear then some d else none

def readDate? (t : List Char) : Option (Date × List Char) := do
  let (year, t) ← readYear? t
  let t ← readChar? '-' t
  let (month, t) ← readNumber? t
  let t ← readChar? '-' t
  let (day, t) ← readNumber? t
  let date ← (Date.ofParts? year month day).bind representable?
  return (date, t)

def readFraction? : List Char → Option (Nat × List Char)
  | '.' :: t => do
    let (n, rest) ← readDigits? 9 t
    let read := t.length - rest.length
    return (n * Nat.pow 10 (9 - read), rest.dropWhile Char.isDigit)
  | t => some (0, t)

def readClock? (t : List Char) : Option (Clock × List Char) := do
  let (hour, t) ← readNumber? t
  let t ← readChar? ':' t
  let (minute, t) ← readNumber? t
  let t ← readChar? ':' t
  let (second, t) ← readNumber? t
  let (nanos, t) ← readFraction? t
  let clock ←
    if second = 60 then Clock.ofParts? hour minute 59 (1000000000 + nanos)
    else Clock.ofParts? hour minute second nanos
  return (clock, t)

def whole {α : Type} : Option (α × List Char) → Option α
  | some (a, []) => some a
  | _ => none

def Date.read? (s : String) : Option Date :=
  whole (readDate? s.toList)

def Clock.read? (s : String) : Option Clock :=
  whole (readClock? s.toList)

def readTimestamp? (skip : List Char → Option (List Char)) (t : List Char) :
    Option (Timestamp × List Char) := do
  let (date, t) ← readDate? t
  let t ← skip t
  let (time, t) ← readClock? t
  return (⟨date, time⟩, t)

def Timestamp.read? (s : String) : Option Timestamp :=
  (whole (readTimestamp? (fun t => some (trimStart t)) s.toList)).orElse fun _ =>
    whole (readTimestamp? (readChar? 'T') s.toList)

end PolySql.Calendar
