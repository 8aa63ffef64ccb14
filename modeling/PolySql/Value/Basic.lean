import PolySql.Calendar.Timestamp
import PolySql.Number.Double.Basic

namespace PolySql

open Calendar Number

inductive Value where
  | null
  | bool (b : Bool)
  | int (n : Int64)
  | float (d : Double)
  | decimal (s : String)
  | text (s : String)
  | blob (bytes : List UInt8)
  | date (d : Date)
  | time (c : Clock)
  | timestamp (t : Timestamp)
  | zoned (z : ZonedTimestamp)
  deriving BEq, Repr

namespace Value

def placeholder : String := "?"

def isNull : Value → Bool
  | null => true
  | _ => false

def asInt? : Value → Option Int64
  | int n => some n
  | _ => none

def asText? : Value → Option String
  | text s => some s
  | _ => none

end Value

class ToValue (α : Type) where
  toValue : α → Value

export ToValue (toValue)

instance : ToValue Value := ⟨id⟩
instance : ToValue Bool := ⟨.bool⟩
instance : ToValue Int64 := ⟨.int⟩
instance : ToValue Int32 := ⟨fun n => .int n.toInt64⟩
instance : ToValue Int16 := ⟨fun n => .int n.toInt64⟩
instance : ToValue UInt32 := ⟨fun n => .int n.toUInt64.toInt64⟩
instance : ToValue Double := ⟨.float⟩
instance : ToValue String := ⟨.text⟩
instance : ToValue (List UInt8) := ⟨.blob⟩
instance : ToValue Date := ⟨.date⟩
instance : ToValue Clock := ⟨.time⟩
instance : ToValue Timestamp := ⟨.timestamp⟩
instance : ToValue ZonedTimestamp := ⟨.zoned⟩

instance {α : Type} [ToValue α] : ToValue (Option α) where
  toValue
    | some a => toValue a
    | none => .null

end PolySql
