import PolySql.Calendar.Date

namespace PolySql.Calendar

structure Clock where
  second : Nat
  nanos : Nat
  valid : second < 86400 ∧ nanos < 2000000000
  deriving DecidableEq, Repr

namespace Clock

def ofParts? (hour minute second nanos : Nat) : Option Clock :=
  if h : hour < 24 ∧ minute < 60 ∧ second < 60 ∧ nanos < 2000000000 then
    some ⟨hour * 3600 + minute * 60 + second, nanos, by omega, h.2.2.2⟩
  else none

def hour (c : Clock) : Nat :=
  c.second / 3600

def minute (c : Clock) : Nat :=
  c.second / 60 % 60

def secondOfMinute (c : Clock) : Nat :=
  c.second % 60

def shownSecond (c : Clock) : Nat :=
  c.secondOfMinute + c.nanos / 1000000000

def shownNanos (c : Clock) : Nat :=
  c.nanos % 1000000000

end Clock

structure Timestamp where
  date : Date
  time : Clock
  deriving DecidableEq, Repr

namespace Timestamp

def rank (t : Timestamp) : Int :=
  (((t.date.year * 13 + t.date.month) * 32 + t.date.day) * 86400 + t.time.second) * 2000000000 + t.time.nanos

def shift (t : Timestamp) (seconds : Int) : Timestamp :=
  let s : Int := t.time.second + seconds
  let day := if s < 0 then t.date.previous else if s < 86400 then t.date else t.date.next
  ⟨day, ⟨(s % 86400).toNat, t.time.nanos, by omega, t.time.valid.2⟩⟩

end Timestamp

structure ZonedTimestamp where
  utc : Timestamp
  offset : Int
  deriving DecidableEq, Repr

namespace ZonedTimestamp

def ofLocal (t : Timestamp) (offset : Int) : ZonedTimestamp :=
  ⟨t.shift (-offset), offset⟩

def localTime (z : ZonedTimestamp) : Timestamp :=
  z.utc.shift z.offset

instance : BEq ZonedTimestamp where
  beq a b := a.utc == b.utc

end ZonedTimestamp

abbrev Offset := { seconds : Int // -86400 < seconds ∧ seconds < 86400 }

structure LocalZone where
  first : Offset
  changes : List (Timestamp × Offset)
  deriving DecidableEq, Repr

namespace LocalZone

def offsetAt (zone : LocalZone) (utc : Timestamp) : Offset :=
  ((zone.changes.takeWhile fun c => c.1.rank ≤ utc.rank).getLast?.map (·.2)).getD zone.first

end LocalZone

inductive Timezone where
  | utc
  | ofLocal (zone : LocalZone)
  deriving DecidableEq, Repr

namespace Timezone

def localZone : Timezone :=
  ofLocal ⟨⟨19800, by decide⟩, []⟩

def offsetAt : Timezone → Timestamp → Int
  | utc, _ => 0
  | ofLocal zone, t => (zone.offsetAt t).val

def convert (zone : Timezone) (z : ZonedTimestamp) : Timestamp :=
  z.utc.shift (zone.offsetAt z.utc)

end Timezone

end PolySql.Calendar
