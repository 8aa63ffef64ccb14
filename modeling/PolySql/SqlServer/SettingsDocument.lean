import PolySql.Document.Reader
import PolySql.Failure.Basic
import PolySql.SqlServer.Settings

namespace PolySql.SqlServer

open Number Calendar

inductive SettingsError where
  | unreadable
  | missingHost
  deriving DecidableEq, Repr

def SettingsError.message : SettingsError → String
  | unreadable => "Invalid connection settings"
  | missingHost => "A host or url must be configured"

def SettingsError.failure (e : SettingsError) : Failure :=
  .configuration e.message

structure SettingsField where
  names : List String
  store : Json → Settings → Option Settings

namespace SettingsField

def text? : Json → Option String
  | .string s => s
  | _ => none

def bool? : Json → Option Bool
  | .bool b => some b
  | _ => none

def nat? (bound : Nat) : Json → Option Nat
  | .number t => (readNat? t).filter (· < bound)
  | _ => none

def optional {α : Type} (read? : Json → Option α) : Json → Option (Option α)
  | .null => some none
  | j => (read? j).map some

def word? : Json → Option String
  | .string s => s
  | .object [(key, .null)] => key
  | _ => none

def isolation? (j : Json) : Option Isolation :=
  (word? j).bind fun w =>
    if w == "read_uncommitted" then some .readUncommitted
    else if w == "read_committed" then some .readCommitted
    else if w == "repeatable_read" then some .repeatableRead
    else if w == "serializable" then some .serializable
    else if w == "snapshot" then some .snapshot
    else none

def timezone? (here : Timezone) (j : Json) : Option Timezone :=
  (word? j).bind fun w =>
    if w == "utc" then some .utc else if w == "local" then some here else none

def all (here : Timezone) : List SettingsField :=
  [⟨["host"], fun j s => (text? j).map ({ s with host := · })⟩,
   ⟨["port"], fun j s =>
      (optional (nat? UInt16.size) j).map ({ s with port := ·.map UInt16.ofNat })⟩,
   ⟨["database"], fun j s => (optional text? j).map ({ s with database := · })⟩,
   ⟨["instance"], fun j s => (optional text? j).map ({ s with namedInstance := · })⟩,
   ⟨["username"], fun j s => (optional text? j).map ({ s with username := · })⟩,
   ⟨["password"], fun j s => (optional text? j).map ({ s with password := · })⟩,
   ⟨["send_time_as_datetime"], fun j s => (bool? j).map ({ s with sendTimeAsDatetime := · })⟩,
   ⟨["login_timeout"], fun j s =>
      (optional (nat? UInt64.size) j).map ({ s with loginTimeout := ·.map UInt64.ofNat })⟩,
   ⟨["lock_timeout"], fun j s =>
      (nat? UInt64.size j).map fun n => { s with lockTimeout := UInt64.ofNat n }⟩,
   ⟨["encrypt"], fun j s => (optional bool? j).map ({ s with encrypt := · })⟩,
   ⟨["trust_server_certificate"], fun j s =>
      (optional bool? j).map ({ s with trustServerCertificate := · })⟩,
   ⟨["application_name", "appname", "application"], fun j s =>
      (optional text? j).map ({ s with applicationName := · })⟩,
   ⟨["integrated_security"], fun j s =>
      (optional bool? j).map ({ s with integratedSecurity := · })⟩,
   ⟨["transaction_isolation"], fun j s => (optional isolation? j).map ({ s with isolation := · })⟩,
   ⟨["url"], fun j s => (optional text? j).map ({ s with url := · })⟩,
   ⟨["default_timezone"], fun j s => (timezone? here j).map ({ s with timezone := · })⟩]

end SettingsField

namespace Settings

variable (here : Timezone)

def fieldIndex? (name : String) : Option Nat :=
  (SettingsField.all here).findIdx? fun f => name ∈ f.names

def storeEntries (stored : List Nat) (s : Settings) :
    List (Option String × Json) → Option Settings
  | [] => some s
  | (none, _) :: _ => none
  | (some name, j) :: rest =>
    match fieldIndex? here name with
    | none => storeEntries stored s rest
    | some i =>
      if i ∈ stored then none
      else
        match (SettingsField.all here)[i]?.bind fun f => f.store j s with
        | none => none
        | some s => storeEntries (i :: stored) s rest

def storeItems (s : Settings) : List SettingsField → List Json → Option Settings
  | _, [] => some s
  | [], _ :: _ => none
  | f :: fields, j :: rest => (f.store j s).bind fun s => storeItems s fields rest

def ofJson? : Json → Option Settings
  | .object entries => storeEntries here [] standard entries
  | .array items => storeItems standard (SettingsField.all here) items
  | _ => none

def readIn? (document : String) : Option Settings :=
  (Json.read? document).bind (ofJson? here)

def parseIn (document : String) : Except SettingsError Settings :=
  match readIn? here document with
  | none => .error .unreadable
  | some s => if s.namesServer then .ok s else .error .missingHost

def read? (document : String) : Option Settings :=
  readIn? .localZone document

def parse (document : String) : Except SettingsError Settings :=
  parseIn .localZone document

end Settings

end PolySql.SqlServer
