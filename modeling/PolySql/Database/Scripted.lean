import PolySql.Database.Driver
import PolySql.Text.Cut

namespace PolySql

open Text

structure Script where
  versionQuery : String
  version : RowSet
  failures : List (String × DriverFailure)
  results : List (String × RowSet)
  connectFailure : Option DriverFailure
  disconnectFailure : Option DriverFailure
  generation : Nat
  connections : List (Handle × Nat)

namespace Script

def versionRow (version : String) : RowSet :=
  let major := String.ofList (version.toList.takeWhile (· != '.'))
  ⟨[], [[.text version, .text major, .text "RTM", .text "Developer Edition (64-bit)"]]⟩

def start (versionQuery version : String) : Script :=
  ⟨versionQuery, versionRow version, [], [], none, none, 0, []⟩

def answer (s : Script) (sql : String) : Except DriverFailure RowSet :=
  match s.failures.find? fun p => contains sql p.1 with
  | some (_, f) => .error f
  | none =>
    if sql == s.versionQuery then .ok s.version
    else
      match s.results.find? fun p => contains sql p.1 with
      | some (_, rows) => .ok rows
      | none => .ok .empty

def driver : Driver Script where
  connect h _ _ s :=
    match s.connectFailure with
    | some f => (some f, s)
    | none => (none, { s with connections := (h, s.generation) :: s.connections })
  query _ sql _ s := (s.answer sql, s)
  execute _ sql s := ((s.answer sql).map RowSet.size, s)
  disconnect h s :=
    (s.disconnectFailure, { s with connections := s.connections.filter fun p => p.1 != h })
  isActive h s := s.connections.any fun p => p.1 == h && p.2 == s.generation

end Script

end PolySql
