import PolySql.Calendar.Timestamp
import PolySql.Number.Integer

namespace PolySql.Calendar

open PolySql.Number

def yearText (year : Int) : String :=
  if 0 ≤ year ∧ year ≤ 9999 then padded 4 year.toNat
  else (if year < 0 then "-" else "+") ++ padded 4 year.natAbs

def Date.text (d : Date) : String :=
  yearText d.year ++ "-" ++ padded 2 d.month ++ "-" ++ padded 2 d.day

def Clock.text (c : Clock) : String :=
  padded 2 c.hour ++ ":" ++ padded 2 c.minute ++ ":" ++ padded 2 c.shownSecond

def fraction (nanos digits : Nat) : String :=
  let places := min digits 9
  let scaled := nanos / Nat.pow 10 (9 - places)
  if places = 0 ∨ scaled = 0 then "" else "." ++ padded places scaled

def neededFraction (nanos : Nat) : String :=
  if nanos = 0 then ""
  else if nanos % 1000000 = 0 then "." ++ padded 3 (nanos / 1000000)
  else if nanos % 1000 = 0 then "." ++ padded 6 (nanos / 1000)
  else "." ++ padded 9 nanos

def formatTime (c : Clock) (digits : Nat) : String :=
  c.text ++ fraction c.shownNanos digits

def formatTimestamp (t : Timestamp) (digits : Nat) : String :=
  t.date.text ++ " " ++ formatTime t.time digits

def Clock.fullText (c : Clock) : String :=
  c.text ++ neededFraction c.shownNanos

def Timestamp.fullText (t : Timestamp) : String :=
  t.date.text ++ " " ++ t.time.fullText

def offsetText (offset : Int) : String :=
  let minutes := (offset.natAbs + 30) / 60
  (if offset < 0 then "-" else "+") ++ padded 2 (minutes / 60) ++ ":" ++ padded 2 (minutes % 60)

def ZonedTimestamp.fullText (z : ZonedTimestamp) : String :=
  let t := z.localTime
  t.date.text ++ "T" ++ t.time.fullText ++ offsetText z.offset

end PolySql.Calendar
