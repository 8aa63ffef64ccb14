import PolySql.Database.Driver

namespace PolySql

structure Scope where
  handle : Handle
  label : String
  disable : List String
  deriving DecidableEq, Repr

namespace Scope

variable {σ : Type} (driver : Driver σ)

def switchFailure (message sql : String) (f : DriverFailure) : Failure :=
  .statement .statementInvalid ⟨message ++ " due : " ++ f.message, some sql, [], some f⟩

def runUntilFailure (h : Handle) : List String → Talk σ (Option (String × DriverFailure))
  | [] => return none
  | sql :: rest => do
    match ← driver.runExecute h sql with
    | .error f => return some (sql, f)
    | .ok _ => runUntilFailure h rest

def runAll (h : Handle) : List String → Talk σ (Option (String × DriverFailure))
  | [] => return none
  | sql :: rest => do
    let answer ← driver.runExecute h sql
    let later ← runAll h rest
    match answer with
    | .error f => return some (sql, f)
    | .ok _ => return later

def drop (s : Scope) : Talk σ Unit := do
  let _ ← runAll driver s.handle s.disable
  return ()

def enable (h : Handle) (label context : String) (enable disable : List String) :
    Talk σ (Except Failure Scope) := do
  let scope : Scope := ⟨h, label, disable⟩
  match ← runUntilFailure driver h enable with
  | none => return .ok scope
  | some (sql, f) =>
    scope.drop driver
    return .error (switchFailure (label ++ " could not be turned ON" ++ context) sql f)

def finish (s : Scope) : Talk σ (Except Failure Unit) := do
  match ← runAll driver s.handle s.disable with
  | none => return .ok ()
  | some (sql, f) => return .error (switchFailure (s.label ++ " could not be turned OFF") sql f)

def during {α : Type} (h : Handle) (label context : String) (enable disable : List String)
    (body : Talk σ (Except Failure α)) : Talk σ (Except Failure α) := do
  match ← Scope.enable driver h label context enable disable with
  | .error e => return .error e
  | .ok scope =>
    match ← body with
    | .error e =>
      scope.drop driver
      return .error e
    | .ok a =>
      match ← scope.finish driver with
      | .error e => return .error e
      | .ok _ => return .ok a

end Scope

end PolySql
